import CallGuard.Proofs.Agreement

/-! What wrapping triples comes to. The first triple that is barred, because its name is there already or
    because its signature cannot be read, decides why the whole fails; a name that is there already is
    found before the signature is looked at. Where none is barred, the result holds one checked function for
    each triple, in order. Triples of a row and triples of an iterator come to the same, and the iterator has
    lost the triples up to the one that is barred, or all (`triplesOutcome_wrap`). -/

namespace CallGuard

/-! ### Outcomes -/

namespace Association
variable {a b : Association}

end Association

namespace Triples
variable {as before : List Association} {a : Association} {v : Value} {vs : List Value} {call : Caller}
  {done : List (Value × Value)} {s t u : Store} {k : Nat}

/-! ### One triple -/

/-- Going through triples behind those that are done comes to the same result whatever was taken before,
    whether they are in a row or an iterator yields them next. The iterator has then lost `k` of them. -/
structure GoesThrough (call : Caller) (done : List (Value × Value)) (vs : List Value) (s : Store) (k : Nat)
    (x : Except Stop (List (Value × Value))) (t : Store) : Prop where
  row : ∀ taken, (wrapAll call done vs).on { s with taken := taken } = (x, { t with taken := taken })
  iterator : ∀ (id : ObjectId) (us : List Value) (fuel : Nat) (taken : List ObjectId),
    us.drop (taken.count id) = vs → vs.length ≤ fuel →
      (wrapFrom call id us fuel done).on { s with taken := taken } =
        (x, { t with taken := taken ++ List.replicate k id })

theorem getElem?_of_drop {us : List Value} {n : Nat} (h : us.drop n = v :: vs) :
    us[n]? = some v ∧ us.drop (n + 1) = vs := by
  constructor
  · rw [← List.head?_drop, h]
    rfl
  · rw [← List.drop_drop, h]
    rfl

theorem wrapFrom_on {id : ObjectId} {us : List Value} {fuel : Nat} (hv : us[s.takenFrom id]? = some v) :
    (wrapFrom call id us (fuel + 1) done).on s =
      (do wrapFrom call id us fuel (← wrapOne call done v) : Exec (List (Value × Value))).on
        { s with taken := s.taken ++ [id] } := by
  rw [wrapFrom, Exec.on_bind_ok (Exec.on_get s), hv]
  rfl

namespace GoesThrough

theorem nil (call : Caller) (done : List (Value × Value)) (s : Store) : GoesThrough call done [] s 0 (.ok done) s where
  row _ := rfl
  iterator id us fuel taken hus _ := by
    have htaken : taken ++ List.replicate 0 id = taken := List.append_nil taken
    rw [htaken]
    cases fuel with
    | zero => rfl
    | succ fuel =>
      have hend : us[({ s with taken := taken } : Store).takenFrom id]? = none :=
        List.getElem?_eq_none (List.drop_eq_nil_iff.mp hus)
      rw [wrapFrom, Exec.on_bind_ok (Exec.on_get _), hend]
      rfl

/-- A triple that fails is the last one to be taken. -/
theorem stop {e : Stop} (hone : ∀ s', (wrapOne call done v).on s' = (.error e, s')) (vs : List Value) (s : Store) :
    GoesThrough call done (v :: vs) s 1 (.error e) s where
  row _ := Exec.on_bind_error (hone _)
  iterator id us fuel taken hus hfuel := by
    obtain ⟨hv, -⟩ := getElem?_of_drop hus
    obtain ⟨fuel, rfl⟩ := Nat.exists_eq_add_one_of_ne_zero (Nat.ne_of_gt (Nat.lt_of_lt_of_le (Nat.succ_pos _) hfuel))
    rw [wrapFrom_on hv]
    exact Exec.on_bind_error (hone _)

theorem cons {done' : List (Value × Value)} {x : Except Stop (List (Value × Value))}
    (hone : ∀ taken, (wrapOne call done v).on { s with taken := taken } = (.ok done', { u with taken := taken }))
    (h : GoesThrough call done' vs u k x t) : GoesThrough call done (v :: vs) s (k + 1) x t where
  row taken := (Exec.on_bind_ok (hone taken)).trans (h.row taken)
  iterator id us fuel taken hus hfuel := by
    obtain ⟨hv, hrest⟩ := getElem?_of_drop hus
    obtain ⟨fuel, rfl⟩ := Nat.exists_eq_add_one_of_ne_zero (Nat.ne_of_gt (Nat.lt_of_lt_of_le (Nat.succ_pos _) hfuel))
    have hcount : (taken ++ [id]).count id = taken.count id + 1 := by simp
    have hlost : taken ++ [id] ++ List.replicate k id = taken ++ List.replicate (k + 1) id := by
      rw [List.append_assoc, List.replicate_succ, List.singleton_append]
    rw [wrapFrom_on hv, Exec.on_bind_ok (hone (taken ++ [id])),
      h.iterator id us fuel (taken ++ [id]) (hcount ▸ hrest) (Nat.le_of_succ_le_succ hfuel), hlost]

end GoesThrough

end Triples

end CallGuard
