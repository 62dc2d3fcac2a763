import CallGuard.Proofs.Running

/-! Classification as a function of how often the value has been compared with itself before, and the
    comparisons that it leaves behind. Self-comparisons are the least that an operation can leave: stores
    that differ by nothing else have the same calls on record (`OnlyCompared.calls`). A value keeps its tag
    if it is given the same one however often it is classified from now on. -/

namespace CallGuard

/-! ### The answer to the question -/

namespace Value
variable {v : Value} {s : Store}

/-- Whether classifying a value asks it whether it is NaN. -/
def isAsked (v : Value) : Bool := !v.traits.missing && v.traits.number

/-- The tag of a value after a number of self-comparisons. -/
def tagAfter (v : Value) (k : Nat) : Except Failure Tag :=
  if v.isAsked then (v.selfTest.outcome k).map v.traits.tag else .ok (v.traits.tag false)

/-- The self-comparisons that one classification of a value makes. -/
def selfComparisons (v : Value) : List Value := if v.isAsked && v.selfTest.compares then [v] else []

theorem on_askNaN (v : Value) (s : Store) :
    v.askNaN.on s = ((v.selfTest.outcome (v.comparisonsIn s)).mapError .failed,
      s.compared (if v.selfTest.compares then [v] else [])) := by
  unfold askNaN
  cases hc : v.selfTest.compares <;>
    simp [Exec.on_bind, Exec.recordComparison, Exec.on_lift, Store.compared]

theorem on_classify (v : Value) (s : Store) :
    v.classify.on s = ((v.tagAfter (v.comparisonsIn s)).mapError .failed, s.compared v.selfComparisons) := by
  unfold classify tagAfter selfComparisons isAsked
  cases hask : !v.traits.missing && v.traits.number
  · simp
  · simp only [↓reduceIte, Exec.on_bind, on_askNaN, Bool.true_and]
    cases v.selfTest.outcome (v.comparisonsIn s) <;> simp [Except.map]

end Value

/-! ### Stores that differ by comparisons -/

namespace Store

/-- From `s` to `t`, nothing happened but self-comparisons of some of the values, all of which are asked. -/
def OnlyCompared (vs : List Value) (s t : Store) : Prop :=
  ∃ ws, (∀ w ∈ ws, w ∈ vs ∧ w.isAsked = true) ∧ t = s.compared ws

namespace OnlyCompared
variable {vs : List Value} {s t u : Store}

theorem refl (vs : List Value) (s : Store) : OnlyCompared vs s s := ⟨[], by simp, by simp⟩

theorem trans (h₁ : OnlyCompared vs s t) (h₂ : OnlyCompared vs t u) : OnlyCompared vs s u := by
  obtain ⟨ws, hws, rfl⟩ := h₁
  obtain ⟨xs, hxs, rfl⟩ := h₂
  refine ⟨ws ++ xs, fun w hw => ?_, by simp⟩
  rcases List.mem_append.mp hw with hw | hw
  · exact hws w hw
  · exact hxs w hw

theorem calls (h : OnlyCompared vs s t) : t.calls = s.calls := by
  obtain ⟨ws, -, rfl⟩ := h
  rfl

end OnlyCompared

end Store

namespace Exec
variable {α β : Type} {vs : List Value} {s : Store}

/-- From a store on, an operation comes to the same answer whatever is compared before it, and does
    nothing but compare some of the values. -/
def Answers (vs : List Value) (s : Store) (x : Exec α) (r : Except Stop α) : Prop :=
  ∀ s', Store.OnlyCompared vs s s' → ∃ t, x.on s' = (r, t) ∧ Store.OnlyCompared vs s' t

namespace Answers
variable {x : Exec α} {k : α → Exec β}

theorem of_on {r : Except Stop α} (h : ∀ s, x.on s = (r, s)) : Answers vs s x r :=
  fun s' _ => ⟨s', h s', .refl vs s'⟩

theorem bind {a : α} {r : Except Stop β} (hx : Answers vs s x (.ok a)) (hk : Answers vs s (k a) r) :
    Answers vs s (x >>= k) r := by
  intro s' hs'
  obtain ⟨t, ht, hst⟩ := hx s' hs'
  obtain ⟨u, hu, htu⟩ := hk t (hs'.trans hst)
  exact ⟨u, (on_bind_ok ht).trans hu, hst.trans htu⟩

theorem bind_error {e : Stop} (hx : Answers vs s x (.error e)) : Answers vs s (x >>= k) (.error e) := by
  intro s' hs'
  obtain ⟨t, ht, hst⟩ := hx s' hs'
  exact ⟨t, on_bind_error ht, hst⟩

end Answers

end Exec

/-! ### Kept tags -/

namespace Value
variable {v : Value} {s t : Store} {vs : List Value}

theorem onlyCompared_selfComparisons (hv : v ∈ vs) (s : Store) :
    Store.OnlyCompared vs s (s.compared v.selfComparisons) := by
  refine ⟨_, fun w hw => ?_, rfl⟩
  unfold selfComparisons at hw
  split at hw
  · next hask =>
    rw [List.mem_singleton.mp hw]
    exact ⟨hv, (Bool.and_eq_true_iff.mp hask).1⟩
  · simp at hw

/-- From a store on, a value is given the same tag however often values are compared with themselves. -/
def KeepsTag (s : Store) (v : Value) (t : Tag) : Prop := ∀ ws, (v.classify.on (s.compared ws)).1 = .ok t

namespace KeepsTag
variable {u : Tag}

theorem later (h : v.KeepsTag s u) (hc : Store.OnlyCompared vs s t) : v.KeepsTag t u := by
  obtain ⟨ws, -, rfl⟩ := hc
  intro xs
  rw [Store.compared_compared]
  exact h (ws ++ xs)

/-- A value that keeps its tag from the start on has it on every store. -/
theorem everywhere (h : v.KeepsTag .initial u) (s : Store) : (v.classify.on s).1 = .ok u := by
  have hs := h s.comparisons
  rw [Value.on_classify] at hs ⊢
  simpa [comparisonsIn, Store.compared, Store.initial] using hs

/-- Classifying a value that keeps its tag gives the tag and does nothing but compare. -/
theorem on_classify (h : v.KeepsTag s u) : v.classify.on s = (.ok u, s.compared v.selfComparisons) := by
  have h₀ := h []
  rw [Store.compared_nil] at h₀
  rw [Value.on_classify] at h₀ ⊢
  exact Prod.ext h₀ rfl

theorem answers (h : v.KeepsTag s u) (hv : v ∈ vs) : Exec.Answers vs s v.classify (.ok u) :=
  fun s' hs' => ⟨_, (h.later hs').on_classify, onlyCompared_selfComparisons hv s'⟩

/-- A value that keeps its tag and is asked whether it is NaN gives the same answer every time. -/
theorem outcome (h : v.KeepsTag s u) (hask : v.isAsked = true) (ws : List Value) :
    v.selfTest.outcome (v.comparisonsIn (s.compared ws)) = .ok (u == .nan) := by
  have hu := h ws
  rw [Value.on_classify, tagAfter, if_pos hask] at hu
  have htraits : v.traits.missing = false ∧ v.traits.number = true := by simpa [isAsked] using hask
  have hnan (b : Bool) : (v.traits.tag b == .nan) = b := by
    rw [Bool.eq_iff_iff, beq_iff_eq, Traits.tag_eq_nan_iff]
    simp [htraits]
  cases ho : v.selfTest.outcome (v.comparisonsIn (s.compared ws)) with
  | error f => simp [ho, Except.map] at hu
  | ok b =>
    rw [ho] at hu
    cases hu
    rw [hnan]

end KeepsTag

end Value
end CallGuard
