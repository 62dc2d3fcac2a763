import CallGuard.Proofs.SignatureReading

/-! Looking up tags. A value is plain if nothing that is asked where it is looked up and written answers for
    itself: then it names the tag whose text it equals and is written as it is, and the store stays as it was
    (`find?_of_isPlain`, `askWritten_of_isPlain`). A signature whose items are plain is read as they say
    (`ask_of_isPlainFor`). A value whose class says nothing of its hash or of what it equals names a tag just
    if it equals the text of the tag, whatever it holds (`on_find?_eq_some_iff_names`). An object that is no
    key names the first tag that it says it equals (`on_find?_eq_some_iff_firstEqual`), and one whose hash is
    that of no tag's text names none (`find?_ne_some_of_askHash`). -/

namespace CallGuard

/-! ### Plain values -/

namespace Value

/-- The attribute with a name in the class of an object, if it has a class that is made on the way. -/
def classAttribute? (name : String) : Value → Option Value
  | .object _ family => family.ownAttribute? name
  | _ => none

/-- Whether a value leaves its hash, its written form and what it equals to the environment. -/
def isSilent (v : Value) : Bool :=
  [equalityName, hashName, writtenName].all fun name => (v.classAttribute? name).isNone

/-- The values that are asked where a value is looked up and written: those that it is written with, and the
    items of the tuple that it is built on. -/
def askedParts : Value → List Value
  | .custom _ ⟨_, some (.sequence _ .tuple vs), _, _, _⟩ => vs
  | v => v.writtenParts

/-- Whether a value is plain down to a depth: neither it nor what is asked with it answers for itself, and no
    integer in it is too long to be written. -/
def isPlain : (depth : Nat) → Value → Bool
  | 0, _ => false
  | depth + 1, v => v.isSilent && v.writtenIntegers.all isWritable && v.askedParts.all (isPlain depth)

variable {v w : Value} {vs : List Value} {n : Nat} {s : String} {call : Caller}

theorem isPlain_succ : v.isPlain (n + 1) = true ↔
    v.isSilent = true ∧ v.writtenIntegers.all isWritable = true ∧ ∀ w ∈ v.askedParts, w.isPlain n = true := by
  rw [isPlain, Bool.and_eq_true, Bool.and_eq_true, List.all_eq_true (l := v.askedParts), and_assoc]

theorem exists_succ_of_isPlain (h : v.isPlain n = true) : ∃ m, n = m + 1 := by
  cases n with
  | zero => cases h
  | succ m => exact ⟨m, rfl⟩

theorem isSilent_of_isPlain (h : v.isPlain n = true) : v.isSilent = true := by
  obtain ⟨m, rfl⟩ := exists_succ_of_isPlain h
  exact (isPlain_succ.mp h).1

theorem classAttribute?_of_isSilent (h : v.isSilent = true) {name : String}
    (hname : name ∈ [equalityName, hashName, writtenName]) : v.classAttribute? name = none :=
  Option.isNone_iff_eq_none.mp (List.all_eq_true.mp h name hname)

theorem mem_askedParts (h : w ∈ v.writtenParts) : w ∈ v.askedParts := by
  cases v with
  | custom id c => cases h
  | _ => exact h

theorem askClassWith_eq_pure_none (call : Caller) {name : String} (h : v.classAttribute? name = none)
    (args : List Value) : v.askClassWith call name args = pure none := by
  cases v with
  | object id family =>
    have hfamily : family.ownAttribute? name = none := h
    simp only [askClassWith, hfamily]
  | _ => rfl

/-! ### Equality -/

theorem same_ofString_left (h : v.likeText? = none) : same (.ofString s) v = false := by
  cases v with
  | text i t => cases h
  | _ => simp [same, ofString, id?]

theorem soleOutcome_ofString (i : ObjectId) (g : Grid) (s : String) :
    soleOutcome (g.items.map fun x => decide (x = .text s)) =
      ((Value.array i g).equalText?.map (· == some s)).mapError .ambiguous := by
  obtain ⟨format, items⟩ := g
  match items with
  | [] => rfl
  | [x] => cases x <;> simp [equalText?, core, soleOutcome, soleTruth, Except.map, beq_eq_decide]
  | x :: y :: zs => cases x <;> rfl

theorem equalText?_of_core_eq_array {i : ObjectId} {g : Grid} (h : v.core = .array i g) :
    v.equalText? = (Value.array i g).equalText? := by
  unfold equalText?
  rw [h]
  rfl

theorem likeText?_of_core_eq_scalar {i : ObjectId} {x : Scalar} (h : v.core = .scalar i x) (s : String) :
    (v.likeText? == some s) = decide (x = .text s) := by
  rw [Bool.eq_iff_iff, beq_iff_eq, decide_eq_true_iff, likeText?_of_scalar h]

/-- A text equals a value as the value equals a text. -/
theorem ofString_equal (s : String) (v : Value) :
    (ofString s).equal v = (v.equalText?.map (· == some s)).mapError .ambiguous := by
  have hcore : (ofString s).core = .text 0 s := rfl
  have hlike : (ofString s).likeText? = some s := rfl
  have hoctets : (ofString s).octets? = none := rfl
  have hnumber : (Value.text 0 s).number? = none := rfl
  have hrow : (ofString s).row? = none := rfl
  have houtcome (h : ∀ i g, v.core ≠ .array i g) : (v.equalText?.map (· == some s)).mapError .ambiguous =
      (.ok (v.likeText? == some s) : Except ComparisonFault Bool) := by
    rw [equalText?_of_ne_array h]
    rfl
  show atomEqual .rounded (ofString s) v = _
  unfold atomEqual
  rw [hcore]
  cases hv : v.core with
  | array i g => rw [equalText?_of_core_eq_array hv, ← soleOutcome_ofString, ← gridEqual_eq_soleOutcome .rounded]
  | scalar i x =>
    rw [houtcome (by simp [hv]), likeText?_of_core_eq_scalar hv]
    simp [scalarEqualAny, hrow, scalarEqual_ofString]
  | _ =>
    rw [houtcome (by simp [hv])]
    dsimp only [numbersEqual?]
    rw [hnumber, hlike, hoctets]
    cases hv' : v.likeText? with
    | none => exact congrArg Except.ok (same_ofString_left hv')
    | some t => exact congrArg Except.ok (BEq.comm : (s == t) = (t == s))

/-! ### Asking plain values -/

theorem askEqual_of_classAttribute? (h : v.classAttribute? equalityName = none) (s : String) :
    (ofString s).askEqual call v = Exec.lift Failure.ambiguous (v.equalText?.map (· == some s)) := by
  have hv := askClassWith_eq_pure_none call h [ofString s]
  simp only [askEqual, askEqualOneWay, hv, pure_bind, ofString_equal]
  cases v.equalText? <;> rfl

/-- What asking for a hash comes to where nothing answers for itself: a value is a key, or it is none. -/
def keyOutcome (fault : Option KeyFault) {α : Type} (a : α) : Exec α :=
  match fault with
  | some f => Exec.fail (.key f)
  | none => pure a

theorem askHashes_of_forall {vs : List Value} (h : ∀ w ∈ vs, w.askHash call = keyOutcome w.keyFault? none) :
    askHashes call vs = keyOutcome (keyFaultAll? vs) () := by
  induction vs with
  | nil => rfl
  | cons v vs ih =>
    obtain ⟨hv, hvs⟩ := List.forall_mem_cons.mp h
    rw [askHashes, keyFaultAll?, hv, ih hvs]
    cases v.keyFault? <;> rfl

theorem askHash_object {id : ObjectId} {family : Value} (hequality : family.ownAttribute? equalityName = none)
    (hhash : family.ownAttribute? hashName = none) :
    (Value.object id family).askHash call = keyOutcome (Value.object id family).keyFault? none := by
  have hrefuses : refusesKeys family = false := by simp [refusesKeys, hhash, hequality]
  have hask : (Value.object id family).askClass call hashName = pure none :=
    askClassWith_eq_pure_none (v := .object id family) call hhash []
  simp [askHash, askObjectHash, keyFault?, hrefuses, hask, keyOutcome]

theorem askHash_of_isPlain (h : v.isPlain n = true) : v.askHash call = keyOutcome v.keyFault? none := by
  induction v using askHash_induction generalizing n with
  | tuple id vs ih =>
    obtain ⟨m, rfl⟩ := exists_succ_of_isPlain h
    have hvs := askHashes_of_forall fun w hw => ih w hw ((isPlain_succ.mp h).2.2 w hw)
    rw [askHash, hvs, keyFault?]
    cases keyFaultAll? vs <;> rfl
  | custom id className id' vs items traits replies ih =>
    obtain ⟨m, rfl⟩ := exists_succ_of_isPlain h
    have hvs := askHashes_of_forall fun w hw => ih w hw ((isPlain_succ.mp h).2.2 w hw)
    rw [askHash, hvs, keyFault?, keyFault?]
    rcases keyFaultAll? vs with _ | (_ | _ | _) <;> rfl
  | object id family =>
    have hsilent := isSilent_of_isPlain h
    exact askHash_object (classAttribute?_of_isSilent (v := .object id family) hsilent (by simp))
      (classAttribute?_of_isSilent (v := .object id family) hsilent (by simp))
  | other v htuple hcustom hobject => exact askHash_of_other htuple hcustom hobject call

theorem askWritten_of_isPlain (h : v.isPlain n = true) : v.askWritten call n = pure v.written := by
  induction n generalizing v with
  | zero => cases h
  | succ n ih =>
    obtain ⟨hsilent, hshort, hparts⟩ := isPlain_succ.mp h
    have hask : v.askClass call writtenName = pure none :=
      askClassWith_eq_pure_none call (classAttribute?_of_isSilent hsilent (by simp)) []
    have hwritten : v.writtenParts.mapM (askWritten call n) = pure (v.writtenParts.map written) :=
      Exec.mapM_eq_pure_map fun w hw => ih (hparts w (mem_askedParts hw))
    rw [askWritten, hask, pure_bind]
    dsimp only
    rw [if_pos hshort, hwritten, pure_bind, ← written_eq_writtenFrom]

end Value

/-! ### Closed sets -/

namespace ClosedSet
variable {α : Type} {set : ClosedSet α} {call : Caller} {v : Value}

theorem search_of_ok (hv : v.classAttribute? Value.equalityName = none) {o : Option String}
    (h : v.equalText? = .ok o) (ms : List α) :
    set.search call v ms = pure (ms.find? fun m => o == some (set.text m)) := by
  induction ms with
  | nil => rfl
  | cons m ms ih =>
    rw [search, Value.askEqual_of_classAttribute? hv, h, List.find?_cons]
    by_cases hm : (o == some (set.text m)) = true
    · simp [Except.map, Exec.lift, hm]
    · simp [Except.map, Exec.lift, hm, ih]

theorem search_of_error (hv : v.classAttribute? Value.equalityName = none) {a : Ambiguity}
    (h : v.equalText? = .error a) (m : α) (ms : List α) :
    set.search call v (m :: ms) = Exec.fail (.ambiguous a) := by
  rw [search, Value.askEqual_of_classAttribute? hv, h]
  rfl

end ClosedSet

namespace Value
variable {v : Value} {n : Nat} {call : Caller} {host : Host}

theorem core_ne_array_of_keyFault? (h : v.keyFault? = none) (i : ObjectId) (g : Grid) : v.core ≠ .array i g := by
  intro hcore
  unfold core at hcore
  split at hcore
  · cases hcore
    cases h
  · cases hcore
    cases h

/-- The first tag with a text is the one that the text names. -/
theorem find?_text (o : Option String) : (Tag.all.find? fun t => o == some t.text) = o.bind Tag.ofText? := by
  cases o with
  | none => rfl
  | some s =>
    have hsame : (fun t : Tag => some s == some t.text) = fun t => t.text == s :=
      funext fun t => (BEq.comm : (s == t.text) = (t.text == s))
    rw [hsame]
    rfl

theorem itself?_of_ne_tag (h : ∀ t, v ≠ .tag t) : Tag.closedSet.itself? v = none := by
  cases v with
  | tag t => exact absurd rfl (h t)
  | _ => rfl

/-- A value that leaves what it equals to the environment, and is asked for its hash like all else, names the tag
    whose text it equals, and is looked up without leaving anything behind. -/
theorem find?_of_askHash (hequality : v.classAttribute? equalityName = none)
    (hhash : v.askHash call = keyOutcome v.keyFault? none) :
    Tag.closedSet.find? host call v = Exec.lift Failure.ambiguous (Tag.ofValue? v) := by
  by_cases htag : ∃ t, v = .tag t
  · obtain ⟨t, rfl⟩ := htag
    rw [Tag.ofValue?_tag]
    rfl
  · rw [ClosedSet.find?, itself?_of_ne_tag (not_exists.mp htag), ClosedSet.findByHash, hhash, Tag.ofValue?]
    cases hkey : v.keyFault? with
    | some f =>
      -- What is no key is compared with all texts, in order.
      have hsearch : Tag.closedSet.search call v Tag.all =
          Exec.lift Failure.ambiguous (v.equalText?.map fun o => o.bind Tag.ofText?) := by
        cases ho : v.equalText? with
        | ok o =>
          rw [ClosedSet.search_of_ok hequality ho]
          exact congrArg pure (find?_text o)
        | error a => exact ClosedSet.search_of_error hequality ho _ _
      exact hsearch
    | none =>
      rw [equalText?_of_ne_array (core_ne_array_of_keyFault? hkey)]
      rfl

theorem find?_of_isPlain (h : v.isPlain n = true) :
    Tag.closedSet.find? host call v = Exec.lift Failure.ambiguous (Tag.ofValue? v) :=
  find?_of_askHash (classAttribute?_of_isSilent (isSilent_of_isPlain h) (by simp)) (askHash_of_isPlain h)

end Value

namespace Signature
variable {v : Value} {vs : List Value} {n : Nat} {call : Caller} {host : Host}

theorem askTag_of_isPlain (h : v.isPlain host.writingDepth = true) :
    askTag host call v = pure (match Tag.ofValue? v with
      | .ok o => o
      | .error _ => none) := by
  rw [askTag, ClosedSet.find, Value.find?_of_isPlain h, Value.askWritten_of_isPlain h]
  rcases Tag.ofValue? v with a | _ | t <;> rfl

/-- A row of plain items is read as their tags, whatever the environment. -/
theorem askTags_of_isPlain (h : ∀ w ∈ vs, w.isPlain host.writingDepth = true) (n : Nat) :
    askTags host call n vs = Exec.lift Failure.signature (readTags n vs) := by
  induction vs generalizing n with
  | nil => rfl
  | cons v vs ih =>
    obtain ⟨hv, hvs⟩ := List.forall_mem_cons.mp h
    rw [askTags, askTag_of_isPlain hv, Value.askWritten_of_isPlain hv, ih hvs, readTags]
    rcases Tag.ofValue? v with a | _ | t
    · rfl
    · rfl
    · cases readTags (n + 1) vs <;> rfl

/-- Whether nothing answers for itself where a value is read as a signature: no item of it, or, if it cannot hold
    tags, not the value. -/
def isPlainFor (host : Host) (v : Value) : Bool :=
  if v.isTagSequence then (v.items?.getD []).all (·.isPlain host.writingDepth) else v.isPlain host.writingDepth

/-- A value is read as its items say where none of them answers for itself. -/
theorem ask_of_isPlainFor (h : isPlainFor host v = true) :
    ask host call v = Exec.lift Failure.signature (read v) := by
  unfold isPlainFor at h
  unfold ask read
  split at h
  · next hsequence =>
    rw [if_pos hsequence, if_pos hsequence]
    cases hitems : v.items? with
    | none => rfl
    | some vs =>
      rw [hitems] at h
      have hvs : askTags host call 0 vs = Exec.lift Failure.signature (readTags 0 vs) :=
        askTags_of_isPlain (List.all_eq_true.mp h) 0
      dsimp only
      rw [hvs, ofItems]
      rcases readTags 0 vs with f | ts
      · rfl
      · cases hts : ofTags? ts <;> simp [Exec.lift, hts]
  · next hsequence =>
    rw [if_neg hsequence, if_neg hsequence, Value.askWritten_of_isPlain h]
    rfl

/-! ### Tags of items -/

variable {s u : Store} {t : Tag}

theorem on_askTag_of_find (h : (Tag.closedSet.find host call v).on s = (.ok t, u)) :
    (askTag host call v).on s = (.ok (some t), u) := by
  have hmap : (some <$> Tag.closedSet.find host call v).on s = (.ok (some t), u) := by
    rw [Exec.on_map, h]
    rfl
  exact Exec.on_recover_other _ hmap (by simp)

/-- An item names a tag just if the tag is found. -/
theorem on_askTag_eq_some :
    (askTag host call v).on s = (.ok (some t), u) ↔ (Tag.closedSet.find? host call v).on s = (.ok (some t), u) := by
  constructor
  · intro h
    rcases Exec.on_recover_eq_ok h with h | ⟨f, u', -, h⟩
    · obtain ⟨t', h, ⟨⟩⟩ := Exec.on_map_eq_ok h
      obtain ⟨o, u', hfind, h⟩ := Exec.on_bind_eq_ok h
      cases o with
      | some t' =>
        cases h
        exact hfind
      | none =>
        obtain ⟨_, _, -, h⟩ := Exec.on_bind_eq_ok h
        cases h
    · split at h <;> cases h
  · intro h
    exact on_askTag_of_find (Exec.on_bind_ok h)

/-- An item names no tag just if its look-up fails for a bad value. -/
theorem on_askTag_eq_none : (askTag host call v).on s = (.ok none, u) ↔
    ∃ f, (Tag.closedSet.find host call v).on s = (.error (.failed f), u) ∧ f.general = "ValueError" := by
  constructor
  · intro h
    rcases Exec.on_recover_eq_ok h with h | ⟨f, u', hfind, h⟩
    · obtain ⟨_, -, ⟨⟩⟩ := Exec.on_map_eq_ok h
    · split at h <;> cases h
      exact ⟨f, Exec.on_map_eq_error.mp hfind, ‹_›⟩
  · rintro ⟨f, hfind, hf⟩
    rw [askTag, Exec.on_recover_failed (Exec.on_map_eq_error.mpr hfind), if_pos hf]
    rfl

theorem on_askTag_of_stop {e : Stop} (h : (Tag.closedSet.find host call v).on s = (.error e, u))
    (he : ∀ f, e = .failed f → f.general ≠ "ValueError") : (askTag host call v).on s = (.error e, u) := by
  have hmap : (some <$> Tag.closedSet.find host call v).on s = (.error e, u) := Exec.on_map_eq_error.mpr h
  cases e with
  | failed f =>
    rw [askTag, Exec.on_recover_failed hmap, if_neg (he f rfl)]
    rfl
  | _ => exact Exec.on_recover_other _ hmap (by simp)

/-- All else that stops the look-up of an item passes. -/
theorem on_askTag_eq_error {e : Stop} : (askTag host call v).on s = (.error e, u) ↔
    (Tag.closedSet.find host call v).on s = (.error e, u) ∧ ∀ f, e = .failed f → f.general ≠ "ValueError" := by
  refine ⟨fun h => ?_, fun ⟨hfind, he⟩ => on_askTag_of_stop hfind he⟩
  rcases hfind : (Tag.closedSet.find host call v).on s with ⟨e' | t, u'⟩
  · by_cases he : ∃ f, e' = .failed f ∧ f.general = "ValueError"
    · obtain ⟨f, rfl, hf⟩ := he
      cases (on_askTag_eq_none.mpr ⟨f, hfind, hf⟩).symm.trans h
    · have he (f : Failure) (hf : e' = .failed f) : f.general ≠ "ValueError" := fun hvalue => he ⟨f, hf, hvalue⟩
      cases (on_askTag_of_stop hfind he).symm.trans h
      exact ⟨rfl, he⟩
  · cases (on_askTag_of_find hfind).symm.trans h

end Signature

/-! ### Naming by texts, by answers and by hashes -/

namespace Value
variable {v : Value} {call : Caller} {host : Host} {s u : Store} {t : Tag} {id : ObjectId} {family : Value}

/-- A value that equals no text and is given no hash names no tag, also where asking for the hash fails. -/
theorem find?_ne_some (hequality : v.classAttribute? equalityName = none) (hequal : v.equalText? = .ok none)
    (hlike : v.likeText? = none) (hhash : ∀ h? u, (v.askHash call).on s = (.ok h?, u) → h? = none) (t : Tag)
    (u : Store) : (Tag.closedSet.find? host call v).on s ≠ (.ok (some t), u) := by
  intro h
  have htag : ∀ t', v ≠ .tag t' := by
    rintro t' rfl
    cases hlike
  rw [ClosedSet.find?, itself?_of_ne_tag htag] at h
  rcases Exec.on_recover_eq_ok h with h | ⟨f, u', -, h⟩
  · obtain ⟨h?, u', hasked, h⟩ := Exec.on_bind_eq_ok h
    obtain rfl := hhash h? u' hasked
    rw [hlike] at h
    cases h
  · split at h
    · cases h
    · rw [Option.getD_some, ClosedSet.search_of_ok hequality hequal] at h
      cases h
    · cases h

theorem eq_none_of_askHashes {vs : List Value} {h? : Option Int}
    (h : (do askHashes call vs; return none : Exec (Option Int)).on s = (.ok h?, u)) : h? = none := by
  obtain ⟨_, _, -, h⟩ := Exec.on_bind_eq_ok h
  cases h
  rfl

/-- A value whose class says nothing of what it equals or of its hash names a tag if it equals the text of the tag,
    and in no other case, whatever it holds. Its look-up leaves nothing behind then. -/
theorem on_find?_eq_some_iff_names (hequality : v.classAttribute? equalityName = none)
    (hhash : v.classAttribute? hashName = none) :
    (Tag.closedSet.find? host call v).on s = (.ok (some t), u) ↔ v.Names t ∧ u = s := by
  have hunnamed (hequal : v.equalText? = .ok none) (hlike : v.likeText? = none)
      (hnone : ∀ h? u, (v.askHash call).on s = (.ok h?, u) → h? = none) :
      (Tag.closedSet.find? host call v).on s = (.ok (some t), u) ↔ v.Names t ∧ u = s := by
    refine iff_of_false (find?_ne_some hequality hequal hlike hnone t u) fun ⟨h, _⟩ => ?_
    rw [Names, equal_ofString, hequal] at h
    cases h
  have hnamed (h : v.askHash call = keyOutcome v.keyFault? none) :
      (Tag.closedSet.find? host call v).on s = (.ok (some t), u) ↔ v.Names t ∧ u = s := by
    rw [find?_of_askHash hequality h, names_iff, Exec.on_lift]
    rcases Tag.ofValue? v with a | o <;> simp [eq_comm]
  -- What a tuple holds may have classes that answer for it, but a tuple equals no text.
  induction v using askHash_induction with
  | tuple id vs =>
    refine hunnamed rfl rfl fun _ _ h => ?_
    rw [askHash] at h
    exact eq_none_of_askHashes h
  | custom id className id' vs items traits replies =>
    refine hunnamed rfl rfl fun _ _ h => ?_
    rw [askHash] at h
    exact eq_none_of_askHashes h
  | object id family => exact hnamed (askHash_object hequality hhash)
  | other v htuple hcustom hobject => exact hnamed (askHash_of_other htuple hcustom hobject call)

/-- A value says of a row of tags, asked in turn, that it equals the text of one, and says of none before that it
    equals its text. -/
inductive FirstEqual (call : Caller) (v : Value) : Store → List Tag → Tag → Store → Prop
  | here {s u : Store} {t : Tag} {ts : List Tag} (h : ((ofString t.text).askEqual call v).on s = (.ok true, u)) :
    FirstEqual call v s (t :: ts) t u
  | there {s u w : Store} {t t' : Tag} {ts : List Tag}
    (h : ((ofString t'.text).askEqual call v).on s = (.ok false, u)) (hs : FirstEqual call v u ts t w) :
    FirstEqual call v s (t' :: ts) t w

theorem on_search_eq_some_iff {ts : List Tag} :
    (Tag.closedSet.search call v ts).on s = (.ok (some t), u) ↔ FirstEqual call v s ts t u := by
  induction ts generalizing s with
  | nil => constructor <;> rintro ⟨⟩
  | cons t' ts ih =>
    constructor
    · intro h
      obtain ⟨b, w, hasked, h⟩ := Exec.on_bind_eq_ok h
      cases b with
      | true =>
        cases h
        exact .here hasked
      | false => exact .there hasked (ih.mp h)
    · intro h
      cases h with
      | here hasked => exact Exec.on_bind_ok hasked
      | there hasked hs => exact (Exec.on_bind_ok hasked).trans (ih.mpr hs)

/-- An object that is no key names the first tag that it says it equals. -/
theorem on_find?_eq_some_iff_firstEqual (h : refusesKeys family = true) :
    (Tag.closedSet.find? host call (.object id family)).on s = (.ok (some t), u) ↔
      FirstEqual call (.object id family) s Tag.all t u := by
  have hhash : (Value.object id family).askHash call =
      Exec.fail (.key (.changeable (Value.object id family).fullTypeName)) := by
    rw [askHash, askObjectHash, if_pos h]
    rfl
  rw [← on_search_eq_some_iff, ClosedSet.find?, ClosedSet.findByHash, hhash]
  rfl

/-- An object with a hash that is no text's names no tag. -/
theorem find?_ne_some_of_askHash {h? : Option Int} {s' : Store}
    (hhash : ((Value.object id family).askHash call).on s = (.ok h?, s'))
    (htext : ∀ h ∈ h?, ∀ t : Tag, host.textHash t.text ≠ some h) :
    (Tag.closedSet.find? host call (.object id family)).on s ≠ (.ok (some t), u) := by
  intro h
  have hfind : (Tag.closedSet.findByHash host call (.object id family)).on s = (.ok none, s') := by
    rw [ClosedSet.findByHash, Exec.on_bind_ok hhash]
    cases h? with
    | none => rfl
    | some h =>
      have hnone : (Tag.closedSet.members.filter fun t => host.textHash t.text == some h) = [] :=
        List.filter_eq_nil_iff.mpr fun t _ ht => htext h rfl t (beq_iff_eq.mp ht)
      show (Tag.closedSet.search call (.object id family)
        (Tag.closedSet.members.filter fun t => host.textHash t.text == some h)).on s' = _
      rw [hnone]
      rfl
  rw [ClosedSet.find?, itself?_of_ne_tag (by simp)] at h
  cases (Exec.on_recover_other _ hfind (by simp)).symm.trans h

end Value
end CallGuard
