import CallGuard.Session

/-! Running operations on a store: what an operation comes to that is put together of others. The first
    that stops ends the whole, and what was left behind until then stays. -/

namespace CallGuard

namespace Exec
variable {α β : Type} {s t : Store}

@[simp] theorem on_pure (a : α) (s : Store) : (pure a : Exec α).on s = (.ok a, s) := rfl

@[simp] theorem on_throw (e : Stop) (s : Store) : (throw e : Exec α).on s = (.error e, s) := rfl

@[simp] theorem on_fail (f : Failure) (s : Store) : (fail f : Exec α).on s = (.error (.failed f), s) := rfl

@[simp] theorem on_get (s : Store) : (get : Exec Store).on s = (.ok s, s) := rfl

@[simp] theorem on_modify (f : Store → Store) (s : Store) : (modify f : Exec Unit).on s = (.ok (), f s) := rfl

@[simp] theorem on_fresh (s : Store) : fresh.on s = (.ok s.next, { s with next := s.next + 1 }) := rfl

@[simp] theorem on_log (r : LogRecord) (s : Store) : (log r).on s = (.ok (), { s with logs := s.logs ++ [r] }) := rfl

theorem on_bind (x : Exec α) (k : α → Exec β) (s : Store) :
    (x >>= k).on s = match x.on s with
      | (.ok a, s') => (k a).on s'
      | (.error e, s') => (.error e, s') := by
  show (match x.on s with | (a, s') => (ExceptT.bindCont k a : StateM Store (Except Stop β)) s') = _
  rcases x.on s with ⟨_ | _, _⟩ <;> rfl

theorem on_bind_ok {x : Exec α} {k : α → Exec β} {a : α} (h : x.on s = (.ok a, t)) :
    (x >>= k).on s = (k a).on t := by
  rw [on_bind, h]

theorem on_bind_error {x : Exec α} {k : α → Exec β} {e : Stop} (h : x.on s = (.error e, t)) :
    (x >>= k).on s = (.error e, t) := by
  rw [on_bind, h]

theorem on_bind_eq_ok {x : Exec α} {k : α → Exec β} {b : β} (h : (x >>= k).on s = (.ok b, t)) :
    ∃ a u, x.on s = (.ok a, u) ∧ (k a).on u = (.ok b, t) := by
  rw [on_bind] at h
  rcases hx : x.on s with ⟨_ | a, u⟩ <;> rw [hx] at h
  · cases h
  · exact ⟨a, u, rfl, h⟩

theorem on_map (f : α → β) (x : Exec α) (s : Store) : (f <$> x).on s = ((x.on s).1.map f, (x.on s).2) := by
  rw [map_eq_pure_bind, on_bind]
  rcases x.on s with ⟨_ | _, _⟩ <;> rfl

theorem on_map_eq_ok {f : α → β} {x : Exec α} {b : β} (h : (f <$> x).on s = (.ok b, t)) :
    ∃ a, x.on s = (.ok a, t) ∧ f a = b := by
  rw [on_map] at h
  rcases hx : x.on s with ⟨_ | a, u⟩ <;> rw [hx] at h
  · cases h
  · cases h
    exact ⟨a, rfl, rfl⟩

/-- After a failure, an operation goes on with what is left behind. -/
theorem on_recover_failed {x : Exec α} {handler : Failure → Option (Exec α)} {f : Failure}
    (h : x.on s = (.error (.failed f), t)) : (recover x handler).on s = ((handler f).getD (fail f)).on t := by
  have hrun : x.run.run s = (.error (.failed f), t) := h
  rw [on, recover, ExceptT.run_mk, StateT.run_bind, hrun]
  rfl

/-- An operation that does not fail comes to what it came to before. -/
theorem on_recover_other {x : Exec α} {r : Except Stop α} (handler : Failure → Option (Exec α))
    (h : x.on s = (r, t)) (hr : ∀ f, r ≠ .error (.failed f)) : (recover x handler).on s = (r, t) := by
  have hrun : x.run.run s = (r, t) := h
  rw [on, recover, ExceptT.run_mk, StateT.run_bind, hrun]
  rcases r with (f | _ | _) | a
  · exact absurd rfl (hr f)
  all_goals rfl

theorem on_recover_eq_ok {x : Exec α} {handler : Failure → Option (Exec α)} {a : α}
    (h : (recover x handler).on s = (.ok a, t)) : x.on s = (.ok a, t) ∨
      ∃ f u, x.on s = (.error (.failed f), u) ∧ ((handler f).getD (fail f)).on u = (.ok a, t) := by
  rcases hx : x.on s with ⟨r, u⟩
  by_cases hr : ∃ f, r = .error (.failed f)
  · obtain ⟨f, rfl⟩ := hr
    exact .inr ⟨f, u, rfl, (on_recover_failed hx).symm.trans h⟩
  · exact .inl ((on_recover_other handler hx (not_exists.mp hr)).symm.trans h)

theorem on_map_eq_error {f : α → β} {x : Exec α} {e : Stop} :
    (f <$> x).on s = (.error e, t) ↔ x.on s = (.error e, t) := by
  rw [on_map]
  rcases x.on s with ⟨_ | _, _⟩ <;> simp [Except.map]

theorem mapM_eq_pure_map {f : α → Exec β} {g : α → β} {as : List α} (h : ∀ a ∈ as, f a = pure (g a)) :
    as.mapM f = pure (as.map g) := by
  induction as with
  | nil => rfl
  | cons a as ih =>
    obtain ⟨ha, has⟩ := List.forall_mem_cons.mp h
    rw [List.mapM_cons, ha, ih has]
    rfl

@[simp] theorem mapError_ok {ε ε' : Type} (f : ε → ε') (a : α) : (Except.ok a : Except ε α).mapError f = .ok a := rfl

@[simp] theorem mapError_error {ε ε' : Type} (f : ε → ε') (e : ε) :
    (Except.error e : Except ε α).mapError f = .error (f e) := rfl

theorem on_lift {ε : Type} (cause : ε → Failure) (x : Except ε α) (s : Store) :
    (lift cause x).on s = (x.mapError fun e => .failed (cause e), s) := by
  cases x <;> rfl

end Exec

namespace Store

/-- The store after further self-comparisons. -/
def compared (s : Store) (ws : List Value) : Store := { s with comparisons := s.comparisons ++ ws }

@[simp] theorem compared_nil (s : Store) : s.compared [] = s := by simp [compared]

@[simp] theorem compared_compared (s : Store) (ws xs : List Value) :
    (s.compared ws).compared xs = s.compared (ws ++ xs) := by simp [compared]

@[simp] theorem calls_compared (s : Store) (ws : List Value) : (s.compared ws).calls = s.calls := rfl

end Store
end CallGuard
