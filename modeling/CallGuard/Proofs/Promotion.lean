import CallGuard.Proofs.Partition

/-! What more traits do to the tag of an object of a class of its own. A class can be registered as one of numbers
    or of sequences, and its objects can be made callable. The tag of a value is the highest among those whose tests
    it passes, and with more traits it passes all tests that it passed before; what it answers when it is compared
    with itself stays the same. So its tag never sinks (`rank_le_classify`). A trait that moves the tag moves it to
    one whose test hangs on the trait: what can be called becomes a function if it was a mere object, a sequence
    becomes an array if it is no text and was not above arrays, and a number that was an array can only be NaN. -/

namespace CallGuard

/-- What can be added to a class. -/
inductive Trait
  | number
  | sequence
  | callable
  deriving DecidableEq

/-- The place of a tag among those of values, counted from the lowest. No value is tagged with the wildcard. -/
def Tag.rank : Tag → Nat
  | .null => 8
  | .nan => 7
  | .array => 6
  | .boolean => 5
  | .number => 4
  | .string => 3
  | .function => 2
  | .object => 1
  | .void => 0

theorem Tag.rank_injective {t u : Tag} (h : t.rank = u.rank) : t = u := by
  cases t <;> cases u <;> first | rfl | cases h

namespace Traits
variable {t : Traits} {nan : Bool} {u : Tag} {x : Trait}

/-! ### Tests -/

/-- Whether values with these traits pass the test of a tag. -/
def passes (t : Traits) (nan : Bool) : Tag → Bool
  | .null => t.missing
  | .nan => t.number && nan
  | .array => t.isArray
  | .boolean => t.boolean
  | .number => t.number
  | .string => t.text
  | .function => t.callable
  | .object => true
  | .void => false

theorem passes_tag (t : Traits) (nan : Bool) : t.passes nan (t.tag nan) = true := by
  unfold tag
  repeat' split
  all_goals simp_all [passes]

/-- The tests come from the highest tag to the lowest. -/
theorem rank_le_of_passes (h : t.passes nan u = true) : u.rank ≤ (t.tag nan).rank := by
  unfold tag
  cases u <;> simp only [passes] at h <;> repeat' split
  all_goals simp_all [Tag.rank]

/-- The traits with one more. -/
def adding (t : Traits) : Trait → Traits
  | .number => { t with number := true }
  | .sequence => { t with sequence := true }
  | .callable => { t with callable := true }

/-- With one more trait, the tests that are passed are still passed. -/
theorem passes_adding (x : Trait) (h : t.passes nan u = true) : (t.adding x).passes nan u = true := by
  cases x <;> cases u <;> simp_all [passes, adding, isArray]
  exact h.imp_right And.right

theorem rank_le_adding (t : Traits) (nan : Bool) (x : Trait) : (t.tag nan).rank ≤ ((t.adding x).tag nan).rank :=
  rank_le_of_passes (passes_adding x (t.passes_tag nan))

/-- A trait that changes the tag lifts it. -/
theorem rank_lt_adding (h : (t.adding x).tag nan ≠ t.tag nan) : (t.tag nan).rank < ((t.adding x).tag nan).rank :=
  Nat.lt_of_le_of_ne (rank_le_adding t nan x) fun heq => h (Tag.rank_injective heq).symm

/-- It does so to a tag whose test was not passed before. -/
theorem passes_ne_of_ne (h : (t.adding x).tag nan ≠ t.tag nan) :
    (t.adding x).passes nan ((t.adding x).tag nan) ≠ t.passes nan ((t.adding x).tag nan) := by
  intro hpasses
  rw [passes_tag] at hpasses
  exact Nat.not_le_of_lt (rank_lt_adding h) (rank_le_of_passes hpasses.symm)

/-! ### Single traits -/

theorem tag_adding_callable (h : (t.adding .callable).tag nan ≠ t.tag nan) :
    t.tag nan = .object ∧ (t.adding .callable).tag nan = .function := by
  have hnew : (t.adding .callable).tag nan = .function := by
    have hpasses := passes_ne_of_ne h
    generalize (t.adding .callable).tag nan = u at hpasses ⊢
    cases u <;> first | rfl | exact absurd rfl hpasses
  have hlt := rank_lt_adding h
  have hvoid := t.tag_ne_void nan
  rw [hnew] at hlt
  refine ⟨?_, hnew⟩
  generalize t.tag nan = w at hlt hvoid ⊢
  cases w <;> simp_all [Tag.rank]

theorem tag_adding_sequence (h : (t.adding .sequence).tag nan ≠ t.tag nan) :
    t.tag nan ∈ [.boolean, .number, .function, .object] ∧ (t.adding .sequence).tag nan = .array ∧ t.text = false := by
  have hpasses := passes_ne_of_ne h
  have htext : t.text = false := by
    rw [← Bool.not_eq_true]
    intro htext
    generalize (t.adding .sequence).tag nan = u at hpasses
    cases u <;> simp [passes, adding, isArray, htext] at hpasses
  have hnew : (t.adding .sequence).tag nan = .array := by
    generalize (t.adding .sequence).tag nan = u at hpasses ⊢
    cases u <;> first | rfl | exact absurd rfl hpasses
  have hlt := rank_lt_adding h
  have hold := t.passes_tag nan
  rw [hnew] at hlt
  refine ⟨?_, hnew, htext⟩
  generalize t.tag nan = w at hlt hold ⊢
  cases w <;> simp_all [Tag.rank, passes]

theorem tag_adding_number (h : t.tag nan = .array) :
    (t.adding .number).tag nan = .array ∨ (t.adding .number).tag nan = .nan := by
  by_cases hsame : (t.adding .number).tag nan = t.tag nan
  · exact .inl (hsame.trans h)
  · have hlt := rank_lt_adding hsame
    have hpasses := passes_ne_of_ne hsame
    rw [h] at hlt
    refine .inr ?_
    generalize (t.adding .number).tag nan = u at hlt hpasses ⊢
    -- Above arrays, the test of NaN alone hangs on whether a value is a number.
    cases u <;> simp_all [Tag.rank, passes, adding]

/-! ### Any traits -/

theorem rank_le_foldl (xs : List Trait) (t : Traits) (nan : Bool) :
    (t.tag nan).rank ≤ ((xs.foldl adding t).tag nan).rank := by
  induction xs generalizing t with
  | nil => exact Nat.le_refl _
  | cons x xs ih => exact Nat.le_trans (rank_le_adding t nan x) (ih _)

end Traits

/-! ### Objects of classes of their own -/

/-- The traits of a class with one more. -/
def AddedTraits.adding (a : AddedTraits) : Trait → AddedTraits
  | .number => { a with number := true }
  | .sequence => { a with sequence := true }
  | .callable => { a with callable := true }

namespace Custom
variable {c : Custom Value} {id : ObjectId} {s : Store} {xs : List Trait} {t u : Tag}

/-- The object with further traits of its class. -/
def adding {α : Type} (c : Custom α) (xs : List Trait) : Custom α :=
  { c with traits := xs.foldl AddedTraits.adding c.traits }

theorem traits_adding (id : ObjectId) (c : Custom Value) (xs : List Trait) :
    (Value.custom id (c.adding xs)).traits = xs.foldl Traits.adding (Value.custom id c).traits := by
  induction xs generalizing c with
  | nil => rfl
  | cons x xs ih =>
    have hone : (Value.custom id (c.adding [x])).traits = (Value.custom id c).traits.adding x := by
      obtain ⟨className, content, items, added, replies⟩ := c
      cases content <;> cases x <;> simp [Custom.adding, AddedTraits.adding, Traits.adding, Value.traits]
    rw [List.foldl_cons, ← hone, ← ih]
    rfl

theorem replacesNaN_adding (xs : List Trait) (a : AddedTraits) :
    (xs.foldl AddedTraits.adding a).replacesNaN = a.replacesNaN := by
  induction xs generalizing a with
  | nil => rfl
  | cons x xs ih =>
    rw [List.foldl_cons, ih]
    cases x <;> rfl

/-- More traits change nothing about how it is settled whether an object is NaN. -/
theorem selfTest_adding (id : ObjectId) (c : Custom Value) (xs : List Trait) :
    (Value.custom id (c.adding xs)).selfTest = (Value.custom id c).selfTest := by
  obtain ⟨className, content, items, added, replies⟩ := c
  cases content with
  | none => rfl
  | some v =>
    cases v with
    | decimal i d => simp only [Custom.adding, Value.selfTest, replacesNaN_adding]
    | _ => rfl

/-- With more traits, an object gives the same answer. -/
theorem nanAnswer_adding (id : ObjectId) (c : Custom Value) (xs : List Trait) (s : Store) :
    (Value.custom id (c.adding xs)).nanAnswer s = (Value.custom id c).nanAnswer s := by
  have hsubject : (Value.custom id (c.adding xs)).isSubject = (Value.custom id c).isSubject := by
    funext w
    rw [Value.isSubject, Value.isSubject, selfTest_adding]
    rfl
  rw [Value.nanAnswer, Value.nanAnswer, Value.comparisonsIn, Value.comparisonsIn, hsubject, selfTest_adding]

end Custom

namespace Value
variable {v w : Value} {s : Store} {t u : Tag}

/-- The tag of what is no number does not hang on an answer. -/
theorem tag_of_not_number (hn : v.traits.number = false) (nan nan' : Bool) : v.traits.tag nan = v.traits.tag nan' := by
  simp [Traits.tag, hn]

theorem exists_of_classify (h : (v.classify.on s).1 = .ok t) :
    ∃ nan, v.traits.tag nan = t ∧ (v.traits.number = true → v.nanAnswer s = .ok nan) := by
  cases hn : v.traits.number with
  | false =>
    rw [on_classify_of_not_number hn] at h
    exact ⟨false, Except.ok.inj h, nofun⟩
  | true =>
    rw [on_classify_of_number hn] at h
    cases ha : v.nanAnswer s with
    | error f => simp [ha, Except.map] at h
    | ok nan =>
      rw [ha] at h
      exact ⟨nan, Except.ok.inj h, fun _ => rfl⟩

/-- Two values that answer alike are given their tags for one answer. -/
theorem exists_common_answer (hsame : w.nanAnswer s = v.nanAnswer s) (ht : (v.classify.on s).1 = .ok t)
    (hu : (w.classify.on s).1 = .ok u) : ∃ nan, v.traits.tag nan = t ∧ w.traits.tag nan = u := by
  obtain ⟨a, ht, ha⟩ := exists_of_classify ht
  obtain ⟨b, hu, hb⟩ := exists_of_classify hu
  cases hv : v.traits.number with
  | false => exact ⟨b, (tag_of_not_number hv b a).trans ht, hu⟩
  | true =>
    cases hw : w.traits.number with
    | false => exact ⟨a, ht, (tag_of_not_number hw a b).trans hu⟩
    | true =>
      have hab : a = b := Except.ok.inj ((ha hv).symm.trans (hsame.symm.trans (hb hw)))
      exact ⟨a, ht, hab ▸ hu⟩

/-- A value is given a tag, unless it is a number whose answer is an error. -/
theorem classify_ok_or_error (v : Value) (s : Store) :
    (∃ t, (v.classify.on s).1 = .ok t) ∨
      ∃ f, v.nanAnswer s = .error f ∧ v.traits.number = true ∧ (v.classify.on s).1 = .error (.failed f) := by
  cases hn : v.traits.number with
  | false => exact .inl ⟨_, congrArg Prod.fst (on_classify_of_not_number hn)⟩
  | true =>
    rw [on_classify_of_number hn]
    cases v.nanAnswer s with
    | ok nan => exact .inl ⟨_, rfl⟩
    | error f => exact .inr ⟨f, rfl, rfl, rfl⟩

end Value

/-- More traits never demote an object of a class of its own, whatever it is built on, whatever traits it has and
    whatever it answers. It is given a tag with them unless it is a number by then and its answer is an error; and
    no tag is lower than the one before. Being callable makes functions of mere objects and changes no other tag;
    being a sequence makes arrays of truth values, numbers, functions and mere objects, never of texts, and changes
    no other tag; being a number leaves an array one or makes it NaN. -/
theorem rank_le_classify (id : ObjectId) (c : Custom Value) (s : Store) :
    let tagged (xs : List Trait) (t : Tag) : Prop := ((Value.custom id (c.adding xs)).classify.on s).1 = .ok t
    (∀ xs, (∃ t, tagged xs t) ∨
      ∃ f, (Value.custom id c).nanAnswer s = .error f ∧ (Value.custom id (c.adding xs)).traits.number = true ∧
        ((Value.custom id (c.adding xs)).classify.on s).1 = .error (.failed f)) ∧
    (∀ xs t u, tagged [] t → tagged xs u → t.rank ≤ u.rank) ∧
    (∀ t u, tagged [] t → tagged [.callable] u → u ≠ t → t = .object ∧ u = .function) ∧
    (∀ t u, tagged [] t → tagged [.sequence] u → u ≠ t →
      t ∈ [.boolean, .number, .function, .object] ∧ u = .array ∧ (Value.custom id c).isText = false) ∧
    ∀ u, tagged [] .array → tagged [.number] u → u = .array ∨ u = .nan := by
  intro tagged
  have common (xs : List Trait) {t u : Tag} (ht : tagged [] t) (hu : tagged xs u) :
      ∃ nan, (Value.custom id c).traits.tag nan = t ∧
        (xs.foldl Traits.adding (Value.custom id c).traits).tag nan = u := by
    rw [← Custom.traits_adding]
    exact Value.exists_common_answer (Custom.nanAnswer_adding id c xs s) ht hu
  refine ⟨fun xs => ?_, fun xs t u ht hu => ?_, fun t u ht hu => ?_, fun t u ht hu => ?_, fun u ht hu => ?_⟩
  · rw [← Custom.nanAnswer_adding id c xs s]
    exact Value.classify_ok_or_error _ s
  · obtain ⟨nan, rfl, rfl⟩ := common xs ht hu
    exact Traits.rank_le_foldl xs _ nan
  · obtain ⟨nan, rfl, rfl⟩ := common [.callable] ht hu
    exact Traits.tag_adding_callable
  · obtain ⟨nan, rfl, rfl⟩ := common [.sequence] ht hu
    exact Traits.tag_adding_sequence
  · obtain ⟨nan, ht, rfl⟩ := common [.number] ht hu
    exact Traits.tag_adding_number ht

/-- A mere object that says that it differs from itself is a function if it can be called, an array if it is a
    sequence, and NaN as soon as it is a number. -/
theorem rank_le_classify_different :
    let c : Custom Value := ⟨"Different", none, none, ⟨false, false, false, none⟩, some ⟨.truth true, []⟩⟩
    let d : Custom Value := c.adding [.sequence]
    let tagged (c : Custom Value) (xs : List Trait) (t : Tag) : Prop :=
      ((Value.custom 1 (c.adding xs)).classify.on .initial).1 = .ok t
    tagged c [] .object ∧ tagged c [.callable, .number] .nan ∧ Tag.rank .object ≤ Tag.rank .nan ∧
      tagged c [.callable] .function ∧ Tag.object = .object ∧ tagged c [.sequence] .array ∧
      Tag.object ∈ [Tag.boolean, .number, .function, .object] ∧ (Value.custom 1 c).isText = false ∧
      tagged d [] .array ∧ tagged d [.number] .nan ∧ (Tag.nan = .array ∨ Tag.nan = .nan) := by
  intro c d tagged
  obtain ⟨-, hrank, hcallable, hsequence, -⟩ := rank_le_classify 1 c .initial
  obtain ⟨-, -, -, -, hnumber⟩ := rank_le_classify 1 d .initial
  have hobject : tagged c [] .object := rfl
  have hnan : tagged c [.callable, .number] .nan := rfl
  have hfunction : tagged c [.callable] .function := rfl
  have harray : tagged c [.sequence] .array := rfl
  have hwas : tagged d [] .array := rfl
  have his : tagged d [.number] .nan := rfl
  obtain ⟨hfrom, -, htext⟩ := hsequence _ _ hobject harray (by decide)
  exact ⟨hobject, hnan, hrank _ _ _ hobject hnan, hfunction, (hcallable _ _ hobject hfunction (by decide)).1, harray,
    hfrom, htext, hwas, his, hnumber _ hwas his⟩

end CallGuard
