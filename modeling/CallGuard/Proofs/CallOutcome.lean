import CallGuard.Proofs.Passes
import Mathlib.Data.List.Forall2
import Mathlib.Data.Nat.Find

/-! The outcome of a call under checks. The first refusal of the passes over the arguments is the first
    violation of the call, whose arguments are admitted where there is none; only then the implementation
    runs, once, with the arguments as they are, and what it returns is held against the tag of the result
    (`callOutcome_invoke`). -/

namespace CallGuard

/-! ### Violations -/

/-- The tag of the argument at a position is refused by the tag that is expected there. -/
def Mismatch (sig : Signature) (tags : List Tag) (i : Nat) : Prop :=
  ∃ t u, sig.arguments[i]? = some t ∧ tags[i]? = some u ∧ t ≠ .void ∧ u ≠ t

/-- The report of the first violation of arguments with these tags, in the order of the checks and, within
    a check, of the positions. -/
inductive FirstViolation (sig : Signature) (name : Value) (args : List Value) (tags : List Tag) : Report → Prop
  | count (hn : args.length ≠ sig.arity) :
    FirstViolation sig name args tags (.argumentCount (.ofInt sig.arity) (.ofInt args.length) name)
  | type {i : Nat} {t u : Tag} (hn : args.length = sig.arity) (ht : sig.arguments[i]? = some t)
    (hu : tags[i]? = some u) (hvoid : t ≠ .void) (hne : u ≠ t) (least : ∀ j < i, ¬Mismatch sig tags j) :
    FirstViolation sig name args tags (.argumentType name (.ofInt i) (.tag t) (.tag u))
  | nan {i : Nat} {t : Tag} (hn : args.length = sig.arity) (typed : ∀ j, ¬Mismatch sig tags j)
    (ht : sig.arguments[i]? = some t) (hu : tags[i]? = some .nan) (least : ∀ j < i, tags[j]? ≠ some .nan) :
    FirstViolation sig name args tags (.nanDetected name (.ofInt i) (.tag t))
  | undefined {i : Nat} {t : Tag} (hn : args.length = sig.arity) (typed : ∀ j, ¬Mismatch sig tags j)
    (noNaN : .nan ∉ tags) (ht : sig.arguments[i]? = some t) (hv : args[i]? = some .undefined)
    (least : ∀ j < i, args[j]? ≠ some .undefined) :
    FirstViolation sig name args tags (.undefinedArgument name (.ofInt i) (.tag t))

/-- A signature admits arguments with these tags. -/
structure Admits (sig : Signature) (args : List Value) (tags : List Tag) : Prop where
  count : args.length = sig.arity
  typed : ∀ i, ¬Mismatch sig tags i
  noNaN : .nan ∉ tags
  noUndefined : .undefined ∉ args

theorem eq_of_least {p : Nat → Prop} {i j : Nat} (hi : p i) (hj : p j) (least : ∀ k < i, ¬p k)
    (least' : ∀ k < j, ¬p k) : i = j := by
  rcases Nat.lt_trichotomy i j with h | h | h
  · exact absurd hi (least' i h)
  · exact h
  · exact absurd hj (least j h)

namespace FirstViolation
variable {sig : Signature} {name : Value} {args : List Value} {tags : List Tag} {r r' : Report}

theorem not_admits (hr : FirstViolation sig name args tags r) : ¬Admits sig args tags := by
  intro ha
  cases hr with
  | count hn => exact hn ha.count
  | type hn ht hu hvoid hne least => exact ha.typed _ ⟨_, _, ht, hu, hvoid, hne⟩
  | nan hn typed ht hu least => exact ha.noNaN (List.mem_of_getElem? hu)
  | undefined hn typed noNaN ht hv least => exact ha.noUndefined (List.mem_of_getElem? hv)

/-- Arguments have one first violation at most. -/
theorem unique (hr : FirstViolation sig name args tags r) (hr' : FirstViolation sig name args tags r') : r = r' := by
  cases hr with
  | count hn => cases hr' <;> first | rfl | contradiction
  | type hn ht hu hvoid hne least =>
    cases hr' with
    | count hn' => contradiction
    | type hn' ht' hu' hvoid' hne' least' =>
      obtain rfl := eq_of_least ⟨_, _, ht, hu, hvoid, hne⟩ ⟨_, _, ht', hu', hvoid', hne'⟩ least least'
      cases ht.symm.trans ht'
      cases hu.symm.trans hu'
      rfl
    | nan hn' typed' => exact absurd ⟨_, _, ht, hu, hvoid, hne⟩ (typed' _)
    | undefined hn' typed' => exact absurd ⟨_, _, ht, hu, hvoid, hne⟩ (typed' _)
  | nan hn typed ht hu least =>
    cases hr' with
    | count hn' => contradiction
    | type hn' ht' hu' hvoid' hne' => exact absurd ⟨_, _, ht', hu', hvoid', hne'⟩ (typed _)
    | nan hn' typed' ht' hu' least' =>
      obtain rfl := eq_of_least (p := fun i => tags[i]? = some .nan) hu hu' least least'
      cases ht.symm.trans ht'
      rfl
    | undefined hn' typed' noNaN' => exact absurd (List.mem_of_getElem? hu) noNaN'
  | undefined hn typed noNaN ht hv least =>
    cases hr' with
    | count hn' => contradiction
    | type hn' ht' hu' hvoid' hne' => exact absurd ⟨_, _, ht', hu', hvoid', hne'⟩ (typed _)
    | nan hn' typed' ht' hu' => exact absurd (List.mem_of_getElem? hu') noNaN
    | undefined hn' typed' noNaN' ht' hv' least' =>
      obtain rfl := eq_of_least (p := fun i => args[i]? = some .undefined) hv hv' least least'
      cases ht.symm.trans ht'
      rfl

end FirstViolation

/-- The report of a result that its tag violates. -/
inductive ResultViolation (sig : Signature) (name : Value) (u : Tag) : Report → Prop
  | type (hvoid : sig.result ≠ .void) (hne : u ≠ sig.result) :
    ResultViolation sig name u (.returnType name (.tag sig.result) (.tag u))
  | nan (hvoid : sig.result = .void) (hu : u = .nan) :
    ResultViolation sig name u (.nanDetected name .null (.tag .void))

/-- A signature admits a result with this tag. -/
def AdmitsResult (sig : Signature) (u : Tag) : Prop := if sig.result = .void then u ≠ .nan else u = sig.result

theorem ResultViolation.not_admitsResult {sig : Signature} {name : Value} {u : Tag} {r : Report}
    (hr : ResultViolation sig name u r) : ¬AdmitsResult sig u := by
  unfold AdmitsResult
  cases hr with
  | type hvoid hne => simpa [hvoid] using hne
  | nan hvoid hu => simpa [hvoid] using hu

/-- A result has one violation at most. -/
theorem ResultViolation.unique {sig : Signature} {name : Value} {u : Tag} {r r' : Report}
    (hr : ResultViolation sig name u r) (hr' : ResultViolation sig name u r') : r = r' := by
  cases hr <;> cases hr' <;> first | rfl | contradiction

/-- The outcome of a call of a checked function on a store. The rules exclude each other: the first
    violation of the arguments is reported and nothing is called; or else the implementation runs once, with
    the arguments, and what it raises is passed on; or else the result is classified and returned as it
    is, unless its tag violates the signature. -/
inductive CallOutcome (c : Checked Value) (args : List Value) (tags : List Tag) (implementation : Exec Value)
    (s : Store) : Except Stop Value × Store → Prop
  | violated {r : Report} {t : Store} (hr : FirstViolation c.signature c.name args tags r)
    (hs : Store.OnlyCompared args s t) :
    CallOutcome c args tags implementation s (.error (.failed (.report r)), t)
  | raised {e : Stop} {t u : Store} (ha : Admits c.signature args tags) (hs : Store.OnlyCompared args s t)
    (hrun : implementation.on t = (.error e, u)) :
    CallOutcome c args tags implementation s (.error e, u)
  | unclassified {v : Value} {e : Stop} {t u w : Store} (ha : Admits c.signature args tags)
    (hs : Store.OnlyCompared args s t) (hrun : implementation.on t = (.ok v, u))
    (hv : v.classify.on u = (.error e, w)) :
    CallOutcome c args tags implementation s (.error e, w)
  | misreturned {v : Value} {tag : Tag} {r : Report} {t u w : Store} (ha : Admits c.signature args tags)
    (hs : Store.OnlyCompared args s t) (hrun : implementation.on t = (.ok v, u))
    (hv : v.classify.on u = (.ok tag, w)) (hr : ResultViolation c.signature c.name tag r) :
    CallOutcome c args tags implementation s (.error (.failed (.report r)), w)
  | returned {v : Value} {tag : Tag} {t u w : Store} (ha : Admits c.signature args tags)
    (hs : Store.OnlyCompared args s t) (hrun : implementation.on t = (.ok v, u))
    (hv : v.classify.on u = (.ok tag, w)) (hr : AdmitsResult c.signature tag) :
    CallOutcome c args tags implementation s (.ok v, w)

/-! ### The checks of the arguments -/

namespace Checked
variable {c : Checked Value} {vs args : List Value} {tags : List Tag} {s : Store}

theorem judgeTag_answers {p : Nat} {t u : Tag} {v : Value} (h : v.KeepsTag s u) (hv : v ∈ vs) :
    Exec.Answers vs s (c.judgeTag p t v) (if t.accepts u then .ok ()
      else .error (.failed (.report (.argumentType c.name (.ofInt p) (.tag t) (.tag u))))) := by
  refine (h.answers hv).bind ?_
  cases t.accepts u <;> exact .of_on fun _ => rfl

theorem judgeNaN_answers {p : Nat} {t u : Tag} {v : Value} (h : v.KeepsTag s u) (hv : v ∈ vs) :
    Exec.Answers vs s (c.judgeNaN p t v) (if u = .nan
      then .error (.failed (.report (.nanDetected c.name (.ofInt p) (.tag t)))) else .ok ()) := by
  refine (h.answers hv).bind ?_
  split <;> exact .of_on fun _ => rfl

theorem judgeUndefined_of_ne {p : Nat} {t : Tag} {v : Value} (hv : v ≠ .undefined) (s : Store) :
    (c.judgeUndefined p t v).on s = (.ok (), s) := by
  cases v with
  | undefined => exact absurd rfl hv
  | _ => rfl

theorem judgeUndefined_answers {p : Nat} {t : Tag} {v : Value} (hv : v ≠ .undefined) :
    Exec.Answers vs s (c.judgeUndefined p t v) (.ok ()) :=
  .of_on (judgeUndefined_of_ne hv)

theorem exists_tag (h : List.Forall₂ (Value.KeepsTag s) args tags) {i : Nat} {v : Value} (hv : args[i]? = some v) :
    ∃ u, tags[i]? = some u ∧ v.KeepsTag s u := by
  induction h generalizing i with
  | nil => cases hv
  | cons hk _ ih =>
    cases i with
    | zero =>
      cases hv
      exact ⟨_, rfl, hk⟩
    | succ i => exact ih hv

theorem exists_argument (h : List.Forall₂ (Value.KeepsTag s) args tags) {i : Nat} {u : Tag}
    (hu : tags[i]? = some u) : ∃ v, args[i]? = some v ∧ v.KeepsTag s u := by
  have hlt : i < args.length := h.length_eq ▸ (List.getElem?_eq_some_iff.mp hu).1
  obtain ⟨w, hw, hk⟩ := exists_tag h (List.getElem?_eq_getElem hlt)
  rw [hu] at hw
  cases hw
  exact ⟨_, List.getElem?_eq_getElem hlt, hk⟩

theorem checkCount_answers (hn : args.length = c.signature.arity) :
    Exec.Answers vs s (c.checkCount args.length 0) (.ok ()) := by
  refine .of_on fun s => ?_
  simp [checkCount, hn]

theorem judgeTag_passes (h : List.Forall₂ (Value.KeepsTag s) args tags) {j : Nat}
    (hj : ¬Mismatch c.signature tags j) {t : Tag} {v : Value} (ht : c.signature.arguments[j]? = some t)
    (hv : args[j]? = some v) : Exec.Answers args s (c.judgeTag (0 + j) t v) (.ok ()) := by
  obtain ⟨u, hu, hk⟩ := exists_tag h hv
  have hacc : t.accepts u = true := by
    rw [Tag.accepts_iff]
    by_contra hne
    rw [not_or] at hne
    exact hj ⟨t, u, ht, hu, hne.1, hne.2⟩
  simpa [hacc] using judgeTag_answers (c := c) (p := 0 + j) (t := t) hk (List.mem_of_getElem? hv)

theorem judgeNaN_passes (h : List.Forall₂ (Value.KeepsTag s) args tags) {j : Nat} (hj : tags[j]? ≠ some .nan)
    {t : Tag} {v : Value} (hv : args[j]? = some v) :
    Exec.Answers args s (c.judgeNaN (0 + j) t v) (.ok ()) := by
  obtain ⟨u, hu, hk⟩ := exists_tag h hv
  have hne : u ≠ .nan := fun he => hj (he ▸ hu)
  simpa [hne] using judgeNaN_answers (c := c) (p := 0 + j) (t := t) hk (List.mem_of_getElem? hv)

theorem judgeUndefined_passes {j : Nat} (hj : args[j]? ≠ some .undefined) {t : Tag} {v : Value}
    (hv : args[j]? = some v) : Exec.Answers args s (c.judgeUndefined (0 + j) t v) (.ok ()) :=
  judgeUndefined_answers fun he => hj (he ▸ hv)

theorem checkTags_answers (h : List.Forall₂ (Value.KeepsTag s) args tags)
    (typed : ∀ j, ¬Mismatch c.signature tags j) :
    Exec.Answers args s (c.checkTags 0 c.signature.arguments args) (.ok ()) := by
  rw [checkTags_eq_pass]
  exact pass_answers_ok fun j t v ht hv => judgeTag_passes h (typed j) ht hv

theorem checkNaN_answers (h : List.Forall₂ (Value.KeepsTag s) args tags) (noNaN : .nan ∉ tags) :
    Exec.Answers args s (c.checkNaN 0 c.signature.arguments args) (.ok ()) := by
  rw [checkNaN_eq_pass]
  exact pass_answers_ok fun j t v _ hv => judgeNaN_passes h (fun hj => noNaN (List.mem_of_getElem? hj)) hv

theorem checkUndefined_answers (noUndefined : .undefined ∉ args) :
    Exec.Answers args s (c.checkUndefined 0 c.signature.arguments args) (.ok ()) := by
  rw [checkUndefined_eq_pass]
  exact pass_answers_ok fun j t v _ hv => judgeUndefined_passes (fun hj => noUndefined (List.mem_of_getElem? hj)) hv

/-- Arguments that a signature admits pass all checks. -/
theorem checkArguments_answers_ok (h : List.Forall₂ (Value.KeepsTag s) args tags)
    (ha : Admits c.signature args tags) : Exec.Answers args s (c.checkArguments args 0) (.ok ()) :=
  (checkCount_answers ha.count).bind <| (checkTags_answers h ha.typed).bind <|
    (checkNaN_answers h ha.noNaN).bind (checkUndefined_answers ha.noUndefined)

/-- The checks report the first violation. -/
theorem checkArguments_answers_error (h : List.Forall₂ (Value.KeepsTag s) args tags) {r : Report}
    (hr : FirstViolation c.signature c.name args tags r) :
    Exec.Answers args s (c.checkArguments args 0) (.error (.failed (.report r))) := by
  cases hr with
  | count hn =>
    refine .bind_error (.of_on fun s => ?_)
    simp [checkCount, hn, raise]
  | @type i t u hn ht hu hvoid hne least =>
    obtain ⟨v, hv, hk⟩ := exists_argument h hu
    refine (checkCount_answers hn).bind (.bind_error ?_)
    rw [checkTags_eq_pass]
    refine pass_answers_error ht hv (fun j hj _ _ ht hv => judgeTag_passes h (least j hj) ht hv) ?_
    have hacc : t.accepts u = false := by
      rw [Bool.eq_false_iff, ne_eq, Tag.accepts_iff, not_or]
      exact ⟨hvoid, hne⟩
    simpa [hacc] using judgeTag_answers (c := c) (p := 0 + i) (t := t) hk (List.mem_of_getElem? hv)
  | @nan i t hn typed ht hu least =>
    obtain ⟨v, hv, hk⟩ := exists_argument h hu
    refine (checkCount_answers hn).bind ((checkTags_answers h typed).bind (.bind_error ?_))
    rw [checkNaN_eq_pass]
    refine pass_answers_error ht hv (fun j hj _ _ _ hv => judgeNaN_passes h (least j hj) hv) ?_
    simpa using judgeNaN_answers (c := c) (p := 0 + i) (t := t) hk (List.mem_of_getElem? hv)
  | @undefined i t hn typed noNaN ht hv least =>
    refine (checkCount_answers hn).bind ((checkTags_answers h typed).bind ((checkNaN_answers h noNaN).bind ?_))
    rw [checkUndefined_eq_pass]
    refine pass_answers_error ht hv (fun j hj _ _ _ hv => judgeUndefined_passes (least j hj) hv) ?_
    rw [Nat.zero_add]
    exact .of_on fun _ => rfl

end Checked

/-! ### The outcome -/

theorem exists_least {p : Nat → Prop} (h : ∃ i, p i) : ∃ i, p i ∧ ∀ j < i, ¬p j := by
  classical
  exact ⟨Nat.find h, Nat.find_spec h, fun _ => Nat.find_min h⟩

/-- Arguments violate a signature or are admitted by it. -/
theorem firstViolation_or_admits (sig : Signature) (name : Value) {args : List Value} {tags : List Tag}
    (hlen : args.length = tags.length) :
    (∃ r, FirstViolation sig name args tags r) ∨ Admits sig args tags := by
  by_cases hn : args.length = sig.arity
  swap
  · exact .inl ⟨_, .count hn⟩
  by_cases htyped : ∃ i, Mismatch sig tags i
  · obtain ⟨i, ⟨t, u, ht, hu, hvoid, hne⟩, least⟩ := exists_least htyped
    exact .inl ⟨_, .type hn ht hu hvoid hne least⟩
  rw [not_exists] at htyped
  by_cases hnan : ∃ i : Nat, tags[i]? = some Tag.nan
  · obtain ⟨i, hu, least⟩ := exists_least hnan
    have hv := List.getElem?_eq_getElem (hlen ▸ (List.getElem?_eq_some_iff.mp hu).1 : i < args.length)
    obtain ⟨t, ht⟩ := Signature.exists_expected hn hv
    exact .inl ⟨_, .nan hn htyped ht hu least⟩
  have noNaN : Tag.nan ∉ tags := fun h => hnan (List.mem_iff_getElem?.mp h)
  by_cases hundefined : ∃ i : Nat, args[i]? = some Value.undefined
  · obtain ⟨i, hv, least⟩ := exists_least hundefined
    obtain ⟨t, ht⟩ := Signature.exists_expected hn hv
    exact .inl ⟨_, .undefined hn htyped noNaN ht hv least⟩
  exact .inr ⟨hn, htyped, noNaN, fun h => hundefined (List.mem_iff_getElem?.mp h)⟩

theorem resultViolation_or_admitsResult (sig : Signature) (name : Value) (u : Tag) :
    (∃ r, ResultViolation sig name u r) ∨ AdmitsResult sig u := by
  unfold AdmitsResult
  by_cases hvoid : sig.result = .void
  · by_cases hu : u = .nan
    · exact .inl ⟨_, .nan hvoid hu⟩
    · exact .inr (by simpa [hvoid] using hu)
  · by_cases hu : u = sig.result
    · exact .inr (by simpa [hvoid] using hu)
    · exact .inl ⟨_, .type hvoid hu⟩

namespace Checked
variable {c : Checked Value} {s t : Store} {v : Value} {u : Tag}

theorem checkResult_violated {r : Report} (hv : v.classify.on s = (.ok u, t))
    (hr : ResultViolation c.signature c.name u r) :
    (c.checkResult v).on s = (.error (.failed (.report r)), t) := by
  rw [checkResult, Exec.on_bind_ok hv]
  cases hr with
  | type hvoid hne => simp [hvoid, hne, raise]
  | nan hvoid hu => simp [hvoid, hu, raise]

theorem checkResult_admitted (hv : v.classify.on s = (.ok u, t)) (hr : AdmitsResult c.signature u) :
    (c.checkResult v).on s = (.ok (), t) := by
  rw [checkResult, Exec.on_bind_ok hv]
  unfold AdmitsResult at hr
  split at hr <;> simp [*]

/-- Arguments that violate the signature are reported, and nothing is called. -/
theorem guard_violated {args : List Value} {tags : List Tag} (h : List.Forall₂ (Value.KeepsTag s) args tags)
    {r : Report} (hr : FirstViolation c.signature c.name args tags r) (call : List Value → Exec Value) :
    ∃ t, (c.guard args 0 call).on s = (.error (.failed (.report r)), t) ∧ Store.OnlyCompared args s t := by
  obtain ⟨t, ht, hst⟩ := checkArguments_answers_error h hr s (.refl args s)
  exact ⟨t, Exec.on_bind_error ht, hst⟩

end Checked

/-- A call under checks has the outcome that the rules give it, if its arguments keep their tags. -/
theorem callOutcome_guard {s : Store} {args : List Value} {tags : List Tag}
    (h : List.Forall₂ (Value.KeepsTag s) args tags) (c : Checked Value) (call : List Value → Exec Value) :
    CallOutcome c args tags (call args) s ((c.guard args 0 call).on s) := by
  rcases firstViolation_or_admits c.signature c.name h.length_eq with ⟨r, hr⟩ | ha
  · obtain ⟨t, ht, hst⟩ := Checked.guard_violated h hr call
    rw [ht]
    exact .violated hr hst
  obtain ⟨t, ht, hst⟩ := Checked.checkArguments_answers_ok h ha s (.refl args s)
  rw [Checked.guard, Exec.on_bind_ok ht]
  rcases hrun : (call args).on t with ⟨e | v, u⟩
  · rw [Exec.on_bind_error hrun]
    exact .raised ha hst hrun
  rw [Exec.on_bind_ok hrun]
  rcases hv : v.classify.on u with ⟨e | tag, w⟩
  · rw [Exec.on_bind_error (by rw [Checked.checkResult, Exec.on_bind_error hv])]
    exact .unclassified ha hst hrun hv
  rcases resultViolation_or_admitsResult c.signature c.name tag with ⟨r, hr⟩ | hr
  · rw [Exec.on_bind_error (Checked.checkResult_violated hv hr)]
    exact .misreturned ha hst hrun hv hr
  · rw [Exec.on_bind_ok (Checked.checkResult_admitted hv hr)]
    exact .returned ha hst hrun hv hr

/-- The outcome of a call of a checked function, whatever its arguments: the first violation is reported
    and the implementation not called, or it is called once, with the arguments, and what it raises is
    passed on, and what it returns is checked. -/
theorem callOutcome_invoke {s : Store} {args : List Value} {tags : List Tag}
    (h : List.Forall₂ (Value.KeepsTag s) args tags) (id : ObjectId) (c : Checked Value) (depth : Nat) :
    CallOutcome c args tags (invoke depth c.implementation args []) s ((invoke (depth + 1) (.checked id c) args []).on s) :=
  callOutcome_guard h c (byPosition (invoke depth) c.implementation)

/-- A late mismatch is reported before an early NaN. -/
theorem callOutcome_invoke_mismatch :
    let c : Checked Value := ⟨⟨[.void, .number], .number⟩, .null, .ofString "f", .empty⟩
    let args : List Value := [.real 1 .nan, .text 2 "a"]
    List.Forall₂ (Value.KeepsTag .initial) args [.nan, .string] ∧
      CallOutcome c args [.nan, .string] (invoke 1 c.implementation args []) .initial
        ((invoke 2 (.checked 3 c) args []).on .initial) ∧
      ((invoke 2 (.checked 3 c) args []).on .initial).1 =
        .error (.failed (.report (.argumentType (.ofString "f") (.ofInt 1) (.tag .number) (.tag .string)))) := by
  have h : List.Forall₂ (Value.KeepsTag .initial) [.real 1 .nan, .text 2 "a"] [.nan, .string] :=
    .cons (fun _ => rfl) (.cons (fun _ => rfl) .nil)
  exact ⟨h, callOutcome_invoke h 3 _ 1, rfl⟩

end CallGuard
