import CallGuard.Proofs.Scrutiny

/-! Checks do not look into containers. Two values are the same outside if they are the same, or containers
    of one kind that are no numbers, whatever they hold. Arguments that are the same outside meet the same
    checks: the same report, or both calls go on with the arguments as they are; results likewise. On the
    way just numbers are compared that stand among the arguments themselves, and never what a container
    holds (`shallow_checks`). -/

namespace CallGuard

/-! ### Containers and what they hold -/

/-- Two values are the same, or containers of one kind that are no numbers. What they hold may differ, and so
    may the objects. -/
inductive Value.SameOutside : Value → Value → Prop
  | same (v : Value) : SameOutside v v
  | text (i j : ObjectId) (s t : String) : SameOutside (.text i s) (.text j t)
  | wrappedText (i j : ObjectId) (s t : String) : SameOutside (.wrappedText i s) (.wrappedText j t)
  | octets (i j : ObjectId) (mutable : Bool) (bs cs : List UInt8) :
    SameOutside (.octets i mutable bs) (.octets j mutable cs)
  | textScalar (i j : ObjectId) (s t : String) : SameOutside (.scalar i (.text s)) (.scalar j (.text t))
  | octetScalar (i j : ObjectId) (bs cs : List UInt8) : SameOutside (.scalar i (.octets bs)) (.scalar j (.octets cs))
  | range (i j : ObjectId) (start stop step start' stop' step' : Int) :
    SameOutside (.range i start stop step) (.range j start' stop' step')
  | sequence (i j : ObjectId) (kind : SequenceKind) (vs ws : List Value) :
    SameOutside (.sequence i kind vs) (.sequence j kind ws)
  | set (i j : ObjectId) (frozen : Bool) (vs ws : List Value) : SameOutside (.set i frozen vs) (.set j frozen ws)
  | mapping (i j : ObjectId) (kind : MappingKind) (es fs : List (Value × Value)) :
    SameOutside (.mapping i kind es) (.mapping j kind fs)
  | array (i j : ObjectId) (g h : Grid) : SameOutside (.array i g) (.array j h)
  | stockRow (i j : ObjectId) {a b : Stock} {ns ms : List Int} (htype : a.fullTypeName = b.fullTypeName)
    (ha : a.nature = .row ns) (hb : b.nature = .row ms) : SameOutside (.stock i a) (.stock j b)
  | stockArray (i j : ObjectId) {a b : Stock} {p q : Bool} (htype : a.fullTypeName = b.fullTypeName)
    (ha : a.nature = .array p) (hb : b.nature = .array q) : SameOutside (.stock i a) (.stock j b)
  | ofItems (i j : ObjectId) (className : String) (vs ws : Option (List Value)) (added : AddedTraits)
    (replies : Option Replies) (noNumber : added.number = false) :
    SameOutside (.custom i ⟨className, none, vs, added, replies⟩) (.custom j ⟨className, none, ws, added, replies⟩)
  | ofContent (i j : ObjectId) (className : String) {v w : Value} (vs ws : Option (List Value)) (added : AddedTraits)
    (replies : Option Replies) (noNumber : added.number = false ∧ v.traits.number = false) (h : SameOutside v w) :
    SameOutside (.custom i ⟨className, some v, vs, added, replies⟩) (.custom j ⟨className, some w, ws, added, replies⟩)

namespace Value.SameOutside
variable {v w : Value}

theorem traits_eq (h : v.SameOutside w) : v.traits = w.traits := by
  induction h with
  | stockRow i j htype ha hb => simp [traits, Stock.traits, ha, hb]
  | stockArray i j htype ha hb => simp [traits, Stock.traits, ha, hb]
  | ofContent i j className vs ws added replies noNumber h ih => simp only [traits, ih]
  | _ => rfl

/-- Values that are the same outside and not the same are there, and no numbers. -/
theorem eq_or (h : v.SameOutside w) : v = w ∨ v.traits.missing = false ∧ v.traits.number = false := by
  cases h with
  | same => exact .inl rfl
  | stockRow i j htype ha hb => exact .inr (by simp [traits, Stock.traits, ha])
  | stockArray i j htype ha hb => exact .inr (by simp [traits, Stock.traits, ha])
  | ofItems i j className vs ws added replies noNumber => exact .inr ⟨rfl, noNumber⟩
  | ofContent i j className vs ws added replies noNumber h =>
    exact .inr ⟨rfl, by simp [traits, noNumber.1, noNumber.2]⟩
  | _ => exact .inr ⟨rfl, rfl⟩

theorem eq_or_isAsked (h : v.SameOutside w) : v = w ∨ v.isAsked = false := by
  rcases h.eq_or with heq | ⟨-, hnumber⟩
  · exact .inl heq
  · exact .inr (by rw [isAsked, hnumber, Bool.and_false])

theorem eq_or_ne_undefined (h : v.SameOutside w) : v = w ∨ v ≠ .undefined ∧ w ≠ .undefined := by
  rcases h.eq_or with heq | ⟨hmissing, -⟩
  · exact .inl heq
  refine .inr ⟨?_, ?_⟩
  · rintro rfl
    cases hmissing
  · rintro rfl
    rw [h.traits_eq] at hmissing
    cases hmissing

theorem isAsked_eq (h : v.SameOutside w) : v.isAsked = w.isAsked := by
  rw [isAsked, isAsked, h.traits_eq]

end Value.SameOutside

/-! ### Operations side by side -/

/-- On two stores some values have been compared as often. -/
def Store.ComparedAlike (p : Value → Prop) (s t : Store) : Prop := ∀ w, p w → w.comparisonsIn s = w.comparisonsIn t

theorem Store.ComparedAlike.compared {p : Value → Prop} {s t : Store} (h : s.ComparedAlike p t) (ws : List Value) :
    (s.compared ws).ComparedAlike p (t.compared ws) := by
  intro w hw
  rw [Value.comparisonsIn_compared, Value.comparisonsIn_compared, h w hw]

/-- Two operations that give one answer on stores on which some values have been compared as often, and do
    nothing there but compare such values, the same ones and in one order. -/
def Alongside {α : Type} (p : Value → Prop) (x y : Exec α) : Prop :=
  ∀ s t, s.ComparedAlike p t →
    ∃ r ws, (∀ w ∈ ws, p w) ∧ x.on s = (r, s.compared ws) ∧ y.on t = (r, t.compared ws)

namespace Alongside
variable {α β : Type} {p : Value → Prop}

theorem of_on {x : Exec α} {r : Except Stop α} (hx : ∀ s, x.on s = (r, s)) : Alongside p x x := by
  intro s t _
  refine ⟨r, [], by simp, ?_, ?_⟩
  · rw [hx, Store.compared_nil]
  · rw [hx, Store.compared_nil]

theorem bind {x y : Exec α} {k l : α → Exec β} (hx : Alongside p x y) (hk : ∀ a, Alongside p (k a) (l a)) :
    Alongside p (x >>= k) (y >>= l) := by
  intro s t hst
  obtain ⟨r, ws, hws, hs, ht⟩ := hx s t hst
  cases r with
  | error e => exact ⟨.error e, ws, hws, Exec.on_bind_error hs, Exec.on_bind_error ht⟩
  | ok a =>
    obtain ⟨r, xs, hxs, hs', ht'⟩ := hk a _ _ (hst.compared ws)
    refine ⟨r, ws ++ xs, fun w hw => (List.mem_append.mp hw).elim (hws w) (hxs w), ?_, ?_⟩
    · rw [Exec.on_bind_ok hs, hs', Store.compared_compared]
    · rw [Exec.on_bind_ok ht, ht', Store.compared_compared]

/-- Passes are side by side if what they judge is, position by position. -/
theorem pass {judge judge' : Nat → Tag → Value → Exec Unit} {args args' : List Value}
    (h : List.Forall₂ (fun v w => ∀ i t, Alongside p (judge i t v) (judge' i t w)) args args') (i : Nat)
    (ts : List Tag) : Alongside p (Checked.pass judge i ts args) (Checked.pass judge' i ts args') := by
  induction h generalizing i ts with
  | nil =>
    cases ts with
    | nil => exact .of_on fun _ => rfl
    | cons t ts => exact .of_on fun _ => rfl
  | cons hv _ ih =>
    cases ts with
    | nil => exact .of_on fun _ => rfl
    | cons t ts => exact (hv i t).bind fun _ => ih (i + 1) ts

/-- Values that are the same outside are classified side by side: where they differ, nothing is compared. -/
theorem classify {v w : Value} (h : v.SameOutside w) (hp : v = w → v.isAsked = true → p v) :
    Alongside p v.classify w.classify := by
  intro s t hst
  refine ⟨(v.tagAfter (v.comparisonsIn s)).mapError .failed, v.selfComparisons, ?_, Value.on_classify v s, ?_⟩
  · intro x hx
    unfold Value.selfComparisons at hx
    split at hx
    · next hask =>
      have hasked := (Bool.and_eq_true_iff.mp hask).1
      rcases h.eq_or_isAsked with rfl | hno
      · rw [List.mem_singleton.mp hx]
        exact hp rfl hasked
      · rw [hno] at hasked
        cases hasked
    · simp at hx
  · rw [Value.on_classify]
    by_cases hask : v.isAsked = true
    · rcases h.eq_or_isAsked with rfl | hno
      · rw [hst v (hp rfl hask)]
      · rw [hno] at hask
        cases hask
    · have hask' : ¬w.isAsked = true := h.isAsked_eq ▸ hask
      simp only [Value.tagAfter, Value.selfComparisons, hask, hask', h.traits_eq, Bool.false_and, if_false,
        Bool.false_eq_true]

end Alongside

/-! ### Checks side by side -/

theorem forall₂_mem {α β : Type} {R : α → β → Prop} {as : List α} {bs : List β} (h : List.Forall₂ R as bs) :
    List.Forall₂ (fun a b => a ∈ as ∧ b ∈ bs ∧ R a b) as bs := by
  induction h with
  | nil => exact .nil
  | cons hab _ ih =>
    refine .cons ⟨List.mem_cons_self, List.mem_cons_self, hab⟩ (ih.imp fun a b h => ?_)
    exact ⟨List.mem_cons_of_mem _ h.1, List.mem_cons_of_mem _ h.2.1, h.2.2⟩

/-- The numbers that stand in both of two rows. -/
def CommonNumber (args args' : List Value) (w : Value) : Prop := w ∈ args ∧ w ∈ args' ∧ w.isAsked = true

namespace Checked
variable {c c' : Checked Value} {args args' : List Value} {s t : Store} {p : Value → Prop} {v w : Value}

theorem judgeTag_alongside (hname : c.name = c'.name) (h : Alongside p v.classify w.classify) (i : Nat) (t : Tag) :
    Alongside p (c.judgeTag i t v) (c'.judgeTag i t w) := by
  unfold judgeTag
  rw [hname]
  refine h.bind fun u => ?_
  split <;> exact .of_on fun _ => rfl

theorem judgeNaN_alongside (hname : c.name = c'.name) (h : Alongside p v.classify w.classify) (i : Nat) (t : Tag) :
    Alongside p (c.judgeNaN i t v) (c'.judgeNaN i t w) := by
  unfold judgeNaN
  rw [hname]
  refine h.bind fun u => ?_
  split <;> exact .of_on fun _ => rfl

theorem judgeUndefined_alongside (hname : c.name = c'.name) (h : v.SameOutside w) (i : Nat) (t : Tag) :
    Alongside p (c.judgeUndefined i t v) (c'.judgeUndefined i t w) := by
  have heq : c'.judgeUndefined i t w = c.judgeUndefined i t v := by
    rcases h.eq_or_ne_undefined with rfl | ⟨hv, hw⟩
    · simp only [judgeUndefined, hname]
    · unfold judgeUndefined
      split
      · exact absurd rfl hw
      · rfl
  rw [heq]
  unfold judgeUndefined
  split <;> exact .of_on fun _ => rfl

theorem checkResult_alongside (hsig : c.signature = c'.signature) (hname : c.name = c'.name)
    (h : Alongside p v.classify w.classify) : Alongside p (c.checkResult v) (c'.checkResult w) := by
  unfold checkResult
  rw [hsig, hname]
  refine h.bind fun u => ?_
  dsimp only
  split <;> split <;> exact .of_on fun _ => rfl

theorem checkCount_alongside (hsig : c.signature = c'.signature) (hname : c.name = c'.name) (n : Nat) :
    Alongside p (c.checkCount n 0) (c'.checkCount n 0) := by
  unfold checkCount
  rw [hsig, hname]
  split <;> exact .of_on fun _ => rfl

theorem checkArguments_alongside (hsig : c.signature = c'.signature) (hname : c.name = c'.name)
    (h : List.Forall₂ Value.SameOutside args args') :
    Alongside (CommonNumber args args') (c.checkArguments args 0) (c'.checkArguments args' 0) := by
  have hboth : List.Forall₂ (fun v w => v.SameOutside w ∧
      Alongside (CommonNumber args args') v.classify w.classify) args args' := by
    refine (forall₂_mem h).imp fun v w ⟨hv, hw, hvw⟩ => ⟨hvw, .classify hvw ?_⟩
    rintro rfl hask
    exact ⟨hv, hw, hask⟩
  unfold checkArguments
  rw [checkTags_eq_pass, checkTags_eq_pass, checkNaN_eq_pass, checkNaN_eq_pass, checkUndefined_eq_pass,
    checkUndefined_eq_pass, ← h.length_eq, ← hsig]
  refine (checkCount_alongside hsig hname _).bind fun _ => Alongside.bind ?_ fun _ => Alongside.bind ?_ fun _ => ?_
  · refine .pass (hboth.imp fun v w h => ?_) 0 _
    exact judgeTag_alongside hname h.2
  · refine .pass (hboth.imp fun v w h => ?_) 0 _
    exact judgeNaN_alongside hname h.2
  · refine .pass (hboth.imp fun v w h => ?_) 0 _
    exact judgeUndefined_alongside hname h.1

/-- What the checks of the arguments of a call by position settle, whatever the implementation does: the
    error that the call ends with, or that it goes on with the implementation. -/
def Settles (c : Checked Value) (args : List Value) (s : Store) (x : Except Stop Unit) (t : Store) : Prop :=
  match x with
  | .ok () => c.Reaches args s t
  | .error e => ∀ call : Caller, (c.run args [] call).on s = (.error e, t)

theorem settles_checkArguments {x : Except Stop Unit} (h : (c.checkArguments args 0).on s = (x, t)) :
    c.Settles args s x t := by
  cases x with
  | ok a => exact fun _ => Exec.on_bind_ok h
  | error e => exact fun _ => Exec.on_bind_error h

end Checked

/-- Functions of one name under one signature check arguments that are the same outside alike: both calls end
    with one error, or both go on with their own arguments. They have compared the same values, which are
    arguments and numbers. Results that are the same outside are checked alike, too, and compared only where
    they are a number. -/
theorem shallow_checks {c c' : Checked Value} (hsig : c.signature = c'.signature) (hname : c.name = c'.name) :
    (∀ (args args' : List Value) (s t : Store), List.Forall₂ Value.SameOutside args args' →
      s.ComparedAlike (CommonNumber args args') t →
      ∃ x ws, (∀ w ∈ ws, CommonNumber args args' w) ∧ c.Settles args s x (s.compared ws) ∧
        c'.Settles args' t x (t.compared ws)) ∧
    ∀ (v v' : Value) (s t : Store), v.SameOutside v' → s.ComparedAlike (CommonNumber [v] [v']) t →
      ∃ x ws, (∀ w ∈ ws, CommonNumber [v] [v'] w) ∧ (c.checkResult v).on s = (x, s.compared ws) ∧
        (c'.checkResult v').on t = (x, t.compared ws) := by
  constructor
  · intro args args' s t h hst
    obtain ⟨x, ws, hws, hs, ht⟩ := Checked.checkArguments_alongside hsig hname h s t hst
    exact ⟨x, ws, hws, Checked.settles_checkArguments hs, Checked.settles_checkArguments ht⟩
  · intro v v' s t h hst
    have hclassify : Alongside (CommonNumber [v] [v']) v.classify v'.classify := by
      refine .classify h ?_
      rintro rfl hask
      exact ⟨List.mem_singleton_self v, List.mem_singleton_self v, hask⟩
    exact Checked.checkResult_alongside hsig hname hclassify s t hst

/-- A number by its class whose comparison with itself raises. -/
def unruly : Value :=
  .custom 5 ⟨"Unruly", none, none, ⟨true, false, false, none⟩, some ⟨.raised ⟨.value, "unruly"⟩, []⟩⟩

/-- An empty list and one of NaN, of nothing and of an object whose comparison raises go through the checks
    alike, as arguments and as results; the object itself does not. -/
theorem shallow_checks_unruly :
    let c : Checked Value := ⟨⟨[.array, .number], .array⟩, .stock 1 (Stock.function "max"), .ofString "f", .empty⟩
    let c' : Checked Value := { c with implementation := .stock 2 (Stock.function "min") }
    let plain : Value := .sequence 3 .list []
    let full : Value := .sequence 4 .list [.real 6 .nan, .undefined, unruly]
    let n : Value := .integer 7 1
    c.signature = c'.signature ∧ c.name = c'.name ∧ List.Forall₂ Value.SameOutside [plain, n] [full, n] ∧
      Store.initial.ComparedAlike (CommonNumber [plain, n] [full, n]) .initial ∧
      (∃ x ws, (∀ w ∈ ws, CommonNumber [plain, n] [full, n] w) ∧
        c.Settles [plain, n] .initial x (Store.initial.compared ws) ∧
        c'.Settles [full, n] .initial x (Store.initial.compared ws)) ∧
      c'.Settles [full, n] .initial (.ok ()) (Store.initial.compared [n, n]) ∧
      c'.Settles [full, unruly] .initial (.error (.failed (.thrown ⟨.value, "unruly"⟩)))
        (Store.initial.compared [unruly]) ∧
      (∃ x ws, (∀ w ∈ ws, CommonNumber [plain] [full] w) ∧
        (c.checkResult plain).on .initial = (x, Store.initial.compared ws) ∧
        (c'.checkResult full).on .initial = (x, Store.initial.compared ws)) ∧
      (c'.checkResult full).on .initial = (.ok (), .initial) := by
  intro c c' plain full n
  have hargs : List.Forall₂ Value.SameOutside [plain, n] [full, n] :=
    .cons (.sequence 3 4 .list _ _) (.cons (.same n) .nil)
  have hs : Store.initial.ComparedAlike (CommonNumber [plain, n] [full, n]) .initial := fun _ _ => rfl
  have hsig : c.signature = c'.signature := rfl
  have hname : c.name = c'.name := rfl
  obtain ⟨harguments, hresults⟩ := shallow_checks hsig hname
  refine ⟨hsig, hname, hargs, hs, harguments _ _ _ _ hargs hs, ?_, ?_, ?_, rfl⟩
  · exact Checked.settles_checkArguments rfl
  · exact Checked.settles_checkArguments rfl
  · exact hresults _ _ .initial .initial (.sequence 3 4 .list _ _) fun _ _ => rfl

end CallGuard
