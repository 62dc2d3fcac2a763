import CallGuard.Proofs.Classification

/-! The passes over the arguments of a call. The three checks that go through the arguments are one scheme
    with a judge of its own each: a pass ends at the first position that its judge refuses, and has
    looked at all positions that have both a tag and an argument where it refuses none. -/

namespace CallGuard

theorem Tag.accepts_iff {t u : Tag} : t.accepts u = true ↔ t = .void ∨ u = t := by
  simp [Tag.accepts]

/-- As many arguments as expected have a tag that is expected of each. -/
theorem Signature.exists_expected {sig : Signature} {args : List Value} (hn : args.length = sig.arity) {i : Nat} {v : Value}
    (hv : args[i]? = some v) : ∃ t, sig.arguments[i]? = some t :=
  ⟨_, List.getElem?_eq_getElem (Nat.lt_of_lt_of_eq (List.getElem?_eq_some_iff.mp hv).1 hn)⟩

namespace Checked
variable {c : Checked Value} {vs args : List Value} {ts tags : List Tag} {s : Store}

/-- A pass over arguments with the tags that are expected of them, from a position on. -/
def pass (judge : Nat → Tag → Value → Exec Unit) (position : Nat) : List Tag → List Value → Exec Unit
  | t :: ts, v :: vs => do
    judge position t v
    pass judge (position + 1) ts vs
  | _, _ => pure ()

/-- Refuses an argument whose tag is not the expected one. -/
def judgeTag (c : Checked Value) (position : Nat) (t : Tag) (v : Value) : Exec Unit := do
  let u ← v.classify
  if t.accepts u then pure () else raise (.argumentType c.name (.ofInt position) (.tag t) (.tag u))

/-- Refuses an argument that is NaN. -/
def judgeNaN (c : Checked Value) (position : Nat) (t : Tag) (v : Value) : Exec Unit := do
  let u ← v.classify
  if u = .nan then raise (.nanDetected c.name (.ofInt position) (.tag t)) else pure ()

/-- Refuses an argument that is missing. -/
def judgeUndefined (c : Checked Value) (position : Nat) (t : Tag) (v : Value) : Exec Unit :=
  match v with
  | .undefined => raise (.undefinedArgument c.name (.ofInt position) (.tag t))
  | _ => pure ()

/-- What judges one position after another is a pass. -/
theorem eq_pass {check : Nat → List Tag → List Value → Exec Unit} {judge : Nat → Tag → Value → Exec Unit}
    (nil : ∀ p vs, check p [] vs = pure ()) (nil' : ∀ p ts, check p ts [] = pure ())
    (cons : ∀ p t ts v vs, check p (t :: ts) (v :: vs) = do judge p t v; check (p + 1) ts vs) (p : Nat)
    (ts : List Tag) (args : List Value) : check p ts args = pass judge p ts args := by
  induction ts generalizing p args with
  | nil => exact nil p args
  | cons t ts ih =>
    cases args with
    | nil => exact nil' p (t :: ts)
    | cons v args => rw [cons, pass, ih]

theorem checkTags_eq_pass (c : Checked Value) : ∀ p ts args, c.checkTags p ts args = pass c.judgeTag p ts args := by
  refine eq_pass (fun _ _ => rfl) (fun _ ts => by cases ts <;> rfl) fun p t ts v vs => ?_
  simp only [checkTags, judgeTag, bind_assoc]
  refine bind_congr fun u => ?_
  split <;> rfl

theorem checkNaN_eq_pass (c : Checked Value) : ∀ p ts args, c.checkNaN p ts args = pass c.judgeNaN p ts args := by
  refine eq_pass (fun _ _ => rfl) (fun _ ts => by cases ts <;> rfl) fun p t ts v vs => ?_
  simp only [checkNaN, judgeNaN, bind_assoc]
  refine bind_congr fun u => ?_
  split <;> rfl

theorem checkUndefined_eq_pass (c : Checked Value) :
    ∀ p ts args, c.checkUndefined p ts args = pass c.judgeUndefined p ts args := by
  refine eq_pass (fun _ _ => rfl) (fun _ ts => by cases ts <;> rfl) fun p t ts v vs => ?_
  simp only [checkUndefined, judgeUndefined]
  cases v <;> rfl

/-- Where a judge lets every position pass and each leaves a store as the next one wants it, a pass gets
    through. -/
theorem pass_ok {judge : Nat → Tag → Value → Exec Unit} {R : Nat → Store → Prop} {p : Nat}
    (h : ∀ j t v, ts[j]? = some t → args[j]? = some v → ∀ s, R j s →
      ∃ s', (judge (p + j) t v).on s = (.ok (), s') ∧ R (j + 1) s')
    (hs : R 0 s) : ∃ s', (pass judge p ts args).on s = (.ok (), s') ∧ R (min ts.length args.length) s' := by
  induction ts generalizing p args s R with
  | nil => exact ⟨s, rfl, by simpa using hs⟩
  | cons t ts ih =>
    cases args with
    | nil => exact ⟨s, rfl, by simpa using hs⟩
    | cons v args =>
      obtain ⟨s₁, hj, hs₁⟩ := h 0 t v rfl rfl s hs
      obtain ⟨s₂, hpass, hs₂⟩ := ih (R := fun j => R (j + 1)) (p := p + 1) (fun j t' v' ht hv => by
        rw [Nat.add_right_comm, Nat.add_assoc]
        exact h (j + 1) t' v' ht hv) hs₁
      refine ⟨s₂, (Exec.on_bind_ok hj).trans hpass, ?_⟩
      rwa [List.length_cons, List.length_cons, Nat.succ_min_succ]

/-- A pass ends at the first position that its judge refuses. -/
theorem pass_error {judge : Nat → Tag → Value → Exec Unit} {R : Nat → Store → Prop} {p i : Nat} {t : Tag} {v : Value}
    {e : Stop} (ht : ts[i]? = some t) (hv : args[i]? = some v)
    (before : ∀ j < i, ∀ t v, ts[j]? = some t → args[j]? = some v → ∀ s, R j s →
      ∃ s', (judge (p + j) t v).on s = (.ok (), s') ∧ R (j + 1) s')
    (here : ∀ s, R i s → ∃ s', (judge (p + i) t v).on s = (.error e, s') ∧ R (i + 1) s') (hs : R 0 s) :
    ∃ s', (pass judge p ts args).on s = (.error e, s') ∧ R (i + 1) s' := by
  induction i generalizing p ts args s R with
  | zero =>
    cases ts with
    | nil => cases ht
    | cons t' ts =>
      cases args with
      | nil => cases hv
      | cons v' args =>
        cases ht
        cases hv
        obtain ⟨s₁, hj, hs₁⟩ := here s hs
        exact ⟨s₁, Exec.on_bind_error hj, hs₁⟩
  | succ i ih =>
    cases ts with
    | nil => cases ht
    | cons t' ts =>
      cases args with
      | nil => cases hv
      | cons v' args =>
        have shift (j : Nat) : p + 1 + j = p + (j + 1) := by omega
        obtain ⟨s₁, hj, hs₁⟩ := before 0 (Nat.succ_pos i) t' v' rfl rfl s hs
        obtain ⟨s₂, hpass, hs₂⟩ := ih (R := fun j => R (j + 1)) (p := p + 1) ht hv (fun j hj t v ht hv => by
          rw [shift]
          exact before (j + 1) (Nat.succ_lt_succ hj) t v ht hv) (by rwa [shift]) hs₁
        exact ⟨s₂, (Exec.on_bind_ok hj).trans hpass, hs₂⟩

theorem pass_answers_ok {judge : Nat → Tag → Value → Exec Unit} {p : Nat}
    (h : ∀ j t v, ts[j]? = some t → args[j]? = some v → Exec.Answers vs s (judge (p + j) t v) (.ok ())) :
    Exec.Answers vs s (pass judge p ts args) (.ok ()) := by
  intro s' hs'
  refine pass_ok (R := fun _ => Store.OnlyCompared vs s') (fun j t v ht hv u hu => ?_) (.refl vs s')
  obtain ⟨w, hw, huw⟩ := h j t v ht hv u (hs'.trans hu)
  exact ⟨w, hw, hu.trans huw⟩

theorem pass_answers_error {judge : Nat → Tag → Value → Exec Unit} {p i : Nat} {t : Tag} {v : Value} {e : Stop}
    (ht : ts[i]? = some t) (hv : args[i]? = some v)
    (before : ∀ j < i, ∀ t v, ts[j]? = some t → args[j]? = some v →
      Exec.Answers vs s (judge (p + j) t v) (.ok ()))
    (hi : Exec.Answers vs s (judge (p + i) t v) (.error e)) :
    Exec.Answers vs s (pass judge p ts args) (.error e) := by
  intro s' hs'
  refine pass_error (R := fun _ => Store.OnlyCompared vs s') ht hv (fun j hj t v ht hv u hu => ?_) (fun u hu => ?_)
    (.refl vs s')
  · obtain ⟨w, hw, huw⟩ := before j hj t v ht hv u (hs'.trans hu)
    exact ⟨w, hw, hu.trans huw⟩
  · obtain ⟨w, hw, huw⟩ := hi u (hs'.trans hu)
    exact ⟨w, hw, hu.trans huw⟩

/-- Where a pass gets through, its judge has let every position pass. -/
theorem exists_judge_of_pass {judge : Nat → Tag → Value → Exec Unit} {p i : Nat} {t : Tag} {v : Value} {u : Store}
    (h : (pass judge p ts args).on s = (.ok (), u)) (ht : ts[i]? = some t) (hv : args[i]? = some v) :
    ∃ s' t', (judge (p + i) t v).on s' = (.ok (), t') := by
  induction ts generalizing p i s args with
  | nil => cases ht
  | cons t' ts ih =>
    cases args with
    | nil => cases hv
    | cons v' args =>
      obtain ⟨_, s', hj, h⟩ := Exec.on_bind_eq_ok h
      cases i with
      | zero =>
        cases ht
        cases hv
        exact ⟨s, s', hj⟩
      | succ i =>
        rw [Nat.add_comm i, ← Nat.add_assoc]
        exact ih h ht hv

end Checked
end CallGuard
