import CallGuard.Proofs.Distinction
import CallGuard.Proofs.Scrutiny

/-! The signatures under which one call returns. For arguments and a result that keep their tags there is
    a principal signature, made of just these tags, and a call returns its result under the signatures that
    weaken it and no others: those in which each tag is that of the principal one or the wildcard, except
    that NaN is returned under no wildcard. So weakening a signature never makes a call fail, but for a
    result that is NaN; and where an argument is NaN or missing, no signature lets the call return
    (`principal_invoke`). -/

namespace CallGuard

/-! ### Weaker signatures -/

/-- A tag is another or the wildcard. -/
def Tag.Weakens (t u : Tag) : Prop := t = .void ∨ t = u

/-- Each tag of a signature is the one in its place in another, or the wildcard. -/
structure Signature.Weakens (sig' sig : Signature) : Prop where
  arguments : List.Forall₂ Tag.Weakens sig'.arguments sig.arguments
  result : sig'.result.Weakens sig.result

theorem Tag.Weakens.trans {t u w : Tag} (h : t.Weakens u) (h' : u.Weakens w) : t.Weakens w := by
  rcases h with rfl | rfl
  · exact .inl rfl
  · exact h'

/-- A tag is NaN just where one is that it weakens, unless NaN is weakened to the wildcard. -/
theorem Tag.Weakens.eq_nan_iff {t u : Tag} (h : t.Weakens u) (hnan : u = .nan → t ≠ .void) : t = .nan ↔ u = .nan := by
  rcases h with rfl | rfl
  · constructor
    · intro hvoid
      cases hvoid
    · exact fun hu => absurd rfl (hnan hu)
  · exact Iff.rfl

theorem forall₂_trans {α : Type} {R : α → α → Prop} (htrans : ∀ a b c, R a b → R b c → R a c)
    {as bs cs : List α} (h : List.Forall₂ R as bs) (h' : List.Forall₂ R bs cs) : List.Forall₂ R as cs := by
  induction h generalizing cs with
  | nil => exact h'
  | cons hab _ ih =>
    cases h' with
    | cons hbc hrest => exact .cons (htrans _ _ _ hab hbc) (ih hrest)

theorem Signature.Weakens.trans {sig sig' sig'' : Signature} (h : sig''.Weakens sig') (h' : sig'.Weakens sig) :
    sig''.Weakens sig where
  arguments := forall₂_trans (R := Tag.Weakens) (fun _ _ _ => Tag.Weakens.trans) h.arguments h'.arguments
  result := h.result.trans h'.result

/-! ### What is admitted -/

section
variable {sig : Signature} {args : List Value} {tags : List Tag}

/-- A signature mismatches no argument just where its tags weaken those of the arguments. -/
theorem weakens_iff_not_mismatch (hn : sig.arguments.length = tags.length) :
    List.Forall₂ Tag.Weakens sig.arguments tags ↔ ∀ i, ¬Mismatch sig tags i := by
  rw [List.forall₂_iff_get]
  constructor
  · rintro ⟨-, h⟩ i ⟨t, u, ht, hu, hvoid, hne⟩
    obtain ⟨hi, rfl⟩ := List.getElem?_eq_some_iff.mp ht
    obtain ⟨hi', rfl⟩ := List.getElem?_eq_some_iff.mp hu
    rcases h i hi hi' with hw | hw
    · exact hvoid hw
    · exact hne hw.symm
  · refine fun h => ⟨hn, fun i hi hi' => ?_⟩
    by_contra hw
    obtain ⟨hvoid, hne⟩ := not_or.mp hw
    exact h i ⟨_, _, List.getElem?_eq_getElem hi, List.getElem?_eq_getElem hi', hvoid, Ne.symm hne⟩

theorem admits_iff_weakens (hlen : args.length = tags.length) :
    Admits sig args tags ↔ List.Forall₂ Tag.Weakens sig.arguments tags ∧ .nan ∉ tags ∧ .undefined ∉ args := by
  constructor
  · intro ha
    have hn : sig.arguments.length = tags.length := ha.count.symm.trans hlen
    exact ⟨(weakens_iff_not_mismatch hn).mpr ha.typed, ha.noNaN, ha.noUndefined⟩
  · rintro ⟨hw, noNaN, noUndefined⟩
    have hn : sig.arguments.length = tags.length := hw.length_eq
    exact ⟨hlen.trans hn.symm, (weakens_iff_not_mismatch hn).mp hw, noNaN, noUndefined⟩

/-- The wildcard takes any result but NaN. -/
theorem admitsResult_iff_weakens {r : Tag} :
    AdmitsResult sig r ↔ sig.result.Weakens r ∧ (r = .nan → sig.result ≠ .void) := by
  unfold AdmitsResult Tag.Weakens
  by_cases hvoid : sig.result = .void
  · simp [hvoid]
  · rw [if_neg hvoid]
    constructor
    · exact fun hr => ⟨.inr hr.symm, fun _ => hvoid⟩
    · rintro ⟨hw | hw, -⟩
      · exact absurd hw hvoid
      · exact hw.symm

end

/-! ### Calls under different signatures -/

namespace Store

/-- The store after both passes have looked at arguments, on which the implementation is called. -/
def inspected (s : Store) (args : List Value) : Store :=
  s.compared (args.filter Value.isCompared ++ args.filter Value.isCompared)

end Store

namespace Checked
variable {c : Checked Value} {args : List Value} {tags : List Tag} {s u : Store} {v : Value} {r : Tag}

/-- The function under another signature. -/
def under (c : Checked Value) (sig : Signature) : Checked Value := { c with signature := sig }

/-- A call by position returns a value. -/
def Returns (c : Checked Value) (id : ObjectId) (depth : Nat) (args : List Value) (s : Store) (v : Value) : Prop :=
  ∃ t, (invoke (depth + 1) (.checked id c) args []).on s = (.ok v, t)

theorem checkArguments_admitted (h : List.Forall₂ (Value.KeepsTag s) args tags) (ha : Admits c.signature args tags) :
    (c.checkArguments args 0).on s = (.ok (), s.inspected args) := by
  obtain ⟨t, ht, -⟩ := checkArguments_answers_ok h ha s (.refl args s)
  have hscrutiny := scrutiny_checkArguments ha.count s
  rw [ht] at hscrutiny
  cases hscrutiny
  exact ht

theorem Returns.admits {id : ObjectId} {depth : Nat} (h : List.Forall₂ (Value.KeepsTag s) args tags)
    (hreturns : c.Returns id depth args s v) : Admits c.signature args tags := by
  obtain ⟨t, ht⟩ := hreturns
  have hcall : CallOutcome c args tags (invoke depth c.implementation args []) s (.ok v, t) :=
    ht ▸ callOutcome_guard h c (byPosition (invoke depth) c.implementation)
  cases hcall with
  | returned ha => exact ha

/-- Only calls with arguments that are let through return. -/
theorem Returns.admitted {id : ObjectId} {depth : Nat} (hreturns : c.Returns id depth args s v) :
    args.length = c.signature.arity ∧ Admitted c s args := by
  obtain ⟨t, ht⟩ := hreturns
  have hguard : (c.guard args 0 (byPosition (invoke depth) c.implementation)).on s = (.ok v, t) := ht
  have hn : args.length = c.signature.arity := by
    by_contra hn
    have hcount : (c.checkCount args.length 0).on s =
        (.error (.failed (.report (.argumentCount (.ofInt c.signature.arity) (.ofInt args.length) c.name))), s) := by
      simp [checkCount, hn, raise]
    rw [guard, Exec.on_bind_error (by rw [checkArguments, Exec.on_bind_error hcount])] at hguard
    cases hguard
  have hcall := scrutinizedCall_guard hn (byPosition (invoke depth) c.implementation) s
  rw [hguard] at hcall
  cases hcall with
  | answered h =>
    cases h with
    | admitted ha => exact ⟨hn, ha⟩

/-- A call that returns has no argument that is missing, and none that is NaN every time. -/
theorem Returns.not_refused {id : ObjectId} {depth : Nat} (hreturns : c.Returns id depth args s v) {w : Value}
    (hw : w ∈ args) : w ≠ .undefined ∧ ¬w.KeepsTag s .nan := by
  obtain ⟨hn, ha⟩ := hreturns.admitted
  refine ⟨fun hundefined => ha.noUndefined (hundefined ▸ hw), fun hnan => ?_⟩
  obtain ⟨i, hi⟩ := List.mem_iff_getElem?.mp hw
  obtain ⟨t, ht⟩ := Signature.exists_expected hn hi
  obtain ⟨u, hu, hne⟩ := ha.noNaN i t w ht hi
  have hclassify := on_classify_storeAt (s := s.compared (args.filter Value.isCompared)) hi
  have hagain := hnan (args.filter Value.isCompared ++ (args.take i).filter Value.isCompared)
  rw [← Store.compared_compared, ← storeAt, hclassify, hu] at hagain
  cases hagain
  exact hne rfl

/-- A call returns what the implementation returns if both the arguments and the result are admitted. -/
theorem returns_iff (h : List.Forall₂ (Value.KeepsTag s) args tags) (id : ObjectId) {depth : Nat}
    (hrun : (invoke depth c.implementation args []).on (s.inspected args) = (.ok v, u)) (hv : v.KeepsTag u r) :
    c.Returns id depth args s v ↔ Admits c.signature args tags ∧ AdmitsResult c.signature r := by
  have hguard : invoke (depth + 1) (.checked id c) args [] =
      c.guard args 0 (byPosition (invoke depth) c.implementation) := rfl
  have hpast (ha : Admits c.signature args tags) : (invoke (depth + 1) (.checked id c) args []).on s =
      (do c.checkResult v; return v : Exec Value).on u := by
    rw [hguard, guard, Exec.on_bind_ok (checkArguments_admitted h ha)]
    exact Exec.on_bind_ok hrun
  constructor
  · intro hreturns
    have ha := hreturns.admits h
    refine ⟨ha, ?_⟩
    obtain ⟨t, ht⟩ := hreturns
    rw [hpast ha] at ht
    rcases resultViolation_or_admitsResult c.signature c.name r with ⟨report, hr⟩ | hr
    · rw [Exec.on_bind_error (checkResult_violated hv.on_classify hr)] at ht
      cases ht
    · exact hr
  · rintro ⟨ha, hr⟩
    exact ⟨_, (hpast ha).trans (Exec.on_bind_ok (checkResult_admitted hv.on_classify hr))⟩

end Checked

/-- A call whose arguments keep their tags, none NaN and none missing, and whose implementation returns what
    keeps its tag, returns it under the signatures that weaken the principal one and no others, unless NaN
    would be returned under a wildcard. Weakening one of them keeps it so, unless the tag of the result was
    NaN. Where an argument is NaN or missing, nothing is returned under any signature. -/
theorem principal_invoke (c : Checked Value) (id : ObjectId) (depth : Nat) (args : List Value) (s : Store) :
    (∀ tags : List Tag, List.Forall₂ (Value.KeepsTag s) args tags → .nan ∉ tags → .undefined ∉ args →
      ∀ (v : Value) (r : Tag) (u : Store),
        (invoke depth c.implementation args []).on (s.inspected args) = (.ok v, u) → v.KeepsTag u r →
        (∀ sig : Signature, (c.under sig).Returns id depth args s v ↔
          sig.Weakens ⟨tags, r⟩ ∧ (r = .nan → sig.result ≠ .void)) ∧
        ∀ sig sig' : Signature, (c.under sig).Returns id depth args s v → sig'.Weakens sig →
          ((c.under sig').Returns id depth args s v ↔ ¬(sig.result = .nan ∧ sig'.result = .void))) ∧
    ((∃ w ∈ args, w = .undefined ∨ w.KeepsTag s .nan) → ∀ (sig : Signature) (v : Value),
      ¬(c.under sig).Returns id depth args s v) := by
  constructor
  · intro tags h noNaN noUndefined v r u hrun hv
    have hreturns (sig : Signature) : (c.under sig).Returns id depth args s v ↔
        sig.Weakens ⟨tags, r⟩ ∧ (r = .nan → sig.result ≠ .void) := by
      rw [Checked.returns_iff (c := c.under sig) h id hrun hv, admits_iff_weakens h.length_eq,
        admitsResult_iff_weakens]
      constructor
      · rintro ⟨⟨hw, -, -⟩, hr, hnan⟩
        exact ⟨⟨hw, hr⟩, hnan⟩
      · rintro ⟨⟨hw, hr⟩, hnan⟩
        exact ⟨⟨hw, noNaN, noUndefined⟩, hr, hnan⟩
    refine ⟨hreturns, fun sig sig' hsig hweakens => ?_⟩
    obtain ⟨hw, hnan⟩ := (hreturns sig).mp hsig
    have hresult : sig.result = .nan ↔ r = .nan := hw.result.eq_nan_iff hnan
    rw [hreturns sig', and_iff_right (hweakens.trans hw), not_and, hresult]
  · rintro ⟨w, hw, hbad⟩ sig v hreturns
    obtain ⟨hundefined, hnan⟩ := hreturns.not_refused hw
    rcases hbad with h | h
    · exact hundefined h
    · exact hnan h

/-- A function that returns NaN: what is expected of its argument may be weakened, its result may not. -/
theorem principal_invoke_nan :
    let c : Checked Value := ⟨⟨[.number], .nan⟩, constantly .nan, .ofString "f", .empty⟩
    let args : List Value := [.integer 2 7]
    let s := Store.initial.inspected args
    List.Forall₂ (Value.KeepsTag .initial) args [.number] ∧ .nan ∉ [Tag.number] ∧ .undefined ∉ args ∧
      (invoke 1 c.implementation args []).on s = (.ok (.real 1 .nan), { s with next := 2, calls := [(0, args)] }) ∧
      (Value.real 1 .nan).KeepsTag { s with next := 2, calls := [(0, args)] } .nan ∧
      (c.under ⟨[.number], .nan⟩).Returns 3 1 args .initial (.real 1 .nan) ∧
      (c.under ⟨[.void], .nan⟩).Returns 3 1 args .initial (.real 1 .nan) ∧
      ¬(c.under ⟨[.number], .void⟩).Returns 3 1 args .initial (.real 1 .nan) ∧
      (Value.real 4 .nan).KeepsTag .initial .nan ∧
      ∀ (sig : Signature) (v : Value), ¬(c.under sig).Returns 3 1 [.integer 2 7, .real 4 .nan] .initial v := by
  intro c args s
  have hargs : List.Forall₂ (Value.KeepsTag .initial) args [.number] := .cons (fun _ => rfl) .nil
  have noNaN : .nan ∉ [Tag.number] := by decide
  have noUndefined : .undefined ∉ args := by simp [args]
  have hrun : (invoke 1 c.implementation args []).on s =
      (.ok (.real 1 .nan), { s with next := 2, calls := [(0, args)] }) := rfl
  have hv : (Value.real 1 .nan).KeepsTag { s with next := 2, calls := [(0, args)] } .nan := fun _ => rfl
  obtain ⟨hreturns, hweaker⟩ := (principal_invoke c 3 1 args .initial).1 _ hargs noNaN noUndefined _ _ _ hrun hv
  have hprincipal : (c.under ⟨[.number], .nan⟩).Returns 3 1 args .initial (.real 1 .nan) :=
    (hreturns _).mpr ⟨⟨.cons (.inr rfl) .nil, .inr rfl⟩, fun _ => by decide⟩
  have hargument := (hweaker _ ⟨[.void], .nan⟩ hprincipal ⟨.cons (.inl rfl) .nil, .inr rfl⟩).mpr (by simp)
  have hresult := (hweaker _ ⟨[.number], .void⟩ hprincipal ⟨.cons (.inr rfl) .nil, .inl rfl⟩).not.mpr (by simp)
  have hnan : (Value.real 4 .nan).KeepsTag .initial .nan := fun _ => rfl
  exact ⟨hargs, noNaN, noUndefined, hrun, hv, hprincipal, hargument, hresult, hnan,
    (principal_invoke c 3 1 _ .initial).2 ⟨_, by simp, .inr hnan⟩⟩

end CallGuard
