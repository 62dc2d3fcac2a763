import CallGuard.Proofs.Steps

/-! Comparisons that nothing notices. Two stores are alike if they differ by comparisons only, and every
    value gives the same answer on both after whichever further comparisons. Operations come to the same on
    stores that are alike and leave stores that are alike, calls by induction on how deep they nest
    (`sameOn_invoke`). Comparing values that keep their tags once more is not noticed
    (`Store.OnlyCompared.alike`). -/

namespace CallGuard

namespace Store

/-- Two stores that differ by comparisons only, and by none on which an answer hangs. -/
structure Alike (s t : Store) : Prop where
  rest : t = { s with comparisons := t.comparisons }
  outcome : ∀ (v : Value) (ws : List Value),
    v.selfTest.outcome (v.comparisonsIn (t.compared ws)) = v.selfTest.outcome (v.comparisonsIn (s.compared ws))

namespace Alike
variable {s t : Store}

theorem calls (h : s.Alike t) : t.calls = s.calls := by rw [h.rest]

theorem compared (h : s.Alike t) (ws : List Value) : (s.compared ws).Alike (t.compared ws) where
  rest := by rw [h.rest]; rfl
  outcome v xs := by rw [compared_compared, compared_compared]; exact h.outcome v (ws ++ xs)

end Alike

/-- Values whose comparisons are taken for each other's have been compared as often and answer alike. -/
theorem outcome_eq_of_isSubject {v w : Value} (h : v.isSubject w = true) (s : Store) :
    v.selfTest.outcome (v.comparisonsIn s) = w.selfTest.outcome (w.comparisonsIn s) := by
  simp only [Value.isSubject, Bool.and_eq_true, beq_iff_eq] at h
  obtain ⟨⟨-, hid⟩, htest⟩ := h
  have hsubject : v.isSubject = w.isSubject := by
    funext x
    simp only [Value.isSubject, hid, htest]
  rw [Value.comparisonsIn, Value.comparisonsIn, hsubject, htest]

/-- Nothing notices that values are compared that keep their tags. -/
theorem OnlyCompared.alike {vs : List Value} {s t : Store} (h : OnlyCompared vs s t)
    (hv : ∀ v ∈ vs, ∃ u, v.KeepsTag s u) : s.Alike t := by
  obtain ⟨ws, hws, rfl⟩ := h
  refine ⟨rfl, fun v xs => ?_⟩
  by_cases hsubject : ∃ w ∈ ws, v.isSubject w = true
  · obtain ⟨w, hw, hsub⟩ := hsubject
    obtain ⟨u, hu⟩ := hv w (hws w hw).1
    rw [outcome_eq_of_isSubject hsub, outcome_eq_of_isSubject hsub, compared_compared,
      hu.outcome (hws w hw).2, hu.outcome (hws w hw).2]
  · have hnone : ws.filter v.isSubject = [] :=
      List.filter_eq_nil_iff.mpr fun w hw hsub => hsubject ⟨w, hw, hsub⟩
    simp [Value.comparisonsIn, compared, hnone]

end Store

theorem Value.KeepsTag.alike {v : Value} {s t : Store} {u : Tag} (h : v.KeepsTag s u) (hst : s.Alike t) :
    v.KeepsTag t u := by
  intro ws
  have hu := h ws
  rw [Value.on_classify, Value.tagAfter] at hu ⊢
  rwa [hst.outcome v ws]

/-- An operation that does the same on stores that are alike. -/
def SameOn {α : Type} (x : Exec α) : Prop :=
  ∀ s t, s.Alike t → (x.on t).1 = (x.on s).1 ∧ (x.on s).2.Alike (x.on t).2

namespace SameOn

theorem of_comparisons {α : Type} {x : Exec α}
    (h : ∀ s ws, x.on { s with comparisons := ws } = ((x.on s).1, { (x.on s).2 with comparisons := ws })) :
    SameOn x := by
  intro s t hst
  obtain ⟨ws, rfl⟩ : ∃ ws, t = { s with comparisons := ws } := ⟨_, hst.rest⟩
  have hs : (x.on s).2.comparisons = s.comparisons := congrArg (fun r => r.2.comparisons) (h s s.comparisons)
  rw [h s ws]
  refine ⟨rfl, rfl, fun v xs => ?_⟩
  have := hst.outcome v xs
  simp only [Value.comparisonsIn, Store.compared, hs] at this ⊢
  exact this

theorem closed : Closed SameOn where
  elementary hx := of_comparisons hx.comparisons
  askNaN v := by
    intro s t hst
    have := hst.outcome v []
    rw [Store.compared_nil, Store.compared_nil] at this
    rw [Value.on_askNaN, Value.on_askNaN, this]
    exact ⟨rfl, hst.compared _⟩
  bind := by
    intro α β x k hx hk s t hst
    obtain ⟨hsame, halike⟩ := hx s t hst
    rw [Exec.on_bind, Exec.on_bind]
    rcases hs : x.on s with ⟨e | a, s'⟩ <;> rcases ht : x.on t with ⟨e' | a', t'⟩ <;>
      rw [hs, ht] at hsame halike <;> cases hsame
    · exact ⟨rfl, halike⟩
    · exact hk a s' t' halike
  recover := by
    intro α x handler hx hhandler s t hst
    obtain ⟨hsame, halike⟩ := hx s t hst
    rcases hs : x.on s with ⟨(f | _ | _) | a, s'⟩ <;> rcases ht : x.on t with ⟨e' | a', t'⟩ <;>
      rw [hs, ht] at hsame halike <;> cases hsame
    · rw [Exec.on_recover_failed hs, Exec.on_recover_failed ht]
      exact hhandler f s' t' halike
    all_goals
      rw [Exec.on_recover_other handler hs (by simp), Exec.on_recover_other handler ht (by simp)]
      exact ⟨rfl, halike⟩

end SameOn

/-- A call does the same on stores that are alike. -/
theorem sameOn_invoke (fuel : Nat) (f : Value) (args : List Value) (named : List (String × Value)) :
    SameOn (invoke fuel f args named) := by
  induction fuel generalizing f args named with
  | zero => exact SameOn.closed.throw _
  | succ fuel ih =>
    refine SameOn.closed.enter ih (fun id r _ => .of_comparisons fun _ _ => rfl) fun id c _ => ?_
    exact SameOn.closed.guard c args _ (ih _ _ _)

end CallGuard
