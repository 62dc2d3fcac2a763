import CallGuard.Proofs.Running

/-! What wrapping comes to under a name that is given: it is refused where the implementation is none, it
    fails where the signature cannot be read, and in all other cases it gives a checked function of the
    signature, the implementation and the name. Only what is made along the way differs from store to
    store. -/

namespace CallGuard

namespace Exec
variable {α β : Type}

/-- An operation that gives a result, the same whatever was told or taken before, and leaves nothing behind
    but the identities that it handed out. -/
def Makes (x : Exec α) : Prop :=
  ∀ s : Store, ∃ a n, ∀ logs taken, x.on { s with logs := logs, taken := taken } =
    (.ok a, { s with next := n, logs := logs, taken := taken })

namespace Makes

theorem pure (a : α) : Makes (Pure.pure a) := fun s => ⟨a, s.next, fun _ _ => rfl⟩

theorem bind {x : Exec α} {k : α → Exec β} (hx : Makes x) (hk : ∀ a, Makes (k a)) : Makes (x >>= k) := by
  intro s
  obtain ⟨a, n, hs⟩ := hx s
  obtain ⟨b, m, ht⟩ := hk a { s with next := n }
  exact ⟨b, m, fun logs taken => (on_bind_ok (hs logs taken)).trans (ht logs taken)⟩

theorem map {x : Exec α} (f : α → β) (hx : Makes x) : Makes (f <$> x) := by
  rw [map_eq_pure_bind]
  exact hx.bind fun a => .pure (f a)

theorem fresh : Makes Exec.fresh := fun s => ⟨s.next, s.next + 1, fun _ _ => rfl⟩

theorem adopt (v : Value) : Makes (Exec.adopt v) := by
  unfold Exec.adopt
  split
  · exact fresh.bind fun i => .pure _
  · exact .pure v

theorem mapOption {f : α → Exec β} (hf : ∀ a, Makes (f a)) (o : Option α) : Makes (o.mapM f) := by
  cases o with
  | none => exact .pure none
  | some a => exact .map some (hf a)

theorem adoptMetadata (m : Metadata Value) : Makes m.adopt :=
  (mapOption adopt m.module).bind fun _ => (mapOption adopt m.name).bind fun _ =>
    (mapOption adopt m.qualname).bind fun _ => (mapOption adopt m.doc).bind fun _ => .pure _

end Makes

end Exec

namespace Value
variable {call : Caller} {signature implementation name : Value} {s : Store}

theorem ne_null_of_isText {v : Value} (h : v.isText = true) : v ≠ .null := by
  rintro rfl
  cases h

theorem isNameOrNull_of_isText {v : Value} (h : v.isText = true) : v.isNameOrNull = true := by
  unfold isNameOrNull
  split
  · rfl
  · exact h

theorem wrap_misused (hf : implementation.isImplementation = false) :
    (wrap call signature implementation name).on s = (.error (.failed (.misuse .parameter)), s) := by
  simp [wrap, hf, Exec.on_bind]

theorem wrap_unreadable (hf : implementation.isImplementation = true) (hname : name.isNameOrNull = true)
    {f : SignatureFault} (hread : Signature.read signature = .error f) :
    (wrap call signature implementation name).on s = (.error (.failed (.signature f)), s) := by
  simp [wrap, hf, hname, hread, Exec.on_bind, Exec.on_lift]

/-- Whatever else is wrapped under a name becomes a checked function, which is told of. Neither the name nor
    what was told or taken before makes another difference. -/
theorem wrap_readable_under (call : Caller) (hf : implementation.isImplementation = true)
    {sig : Signature} (hread : Signature.read signature = .ok sig) (s : Store) :
    ∃ id m n, ∀ name logs taken, name.isText = true →
      (wrap call signature implementation name).on { s with logs := logs, taken := taken } =
        (.ok (.checked id ⟨sig, implementation, name, m⟩),
          { s with next := n, logs := logs ++ [.wrapping name sig], taken := taken }) := by
  obtain ⟨m, n, hm⟩ := Exec.Makes.adoptMetadata implementation.metadata { s with next := s.next + 2 }
  refine ⟨s.next, m, n, fun name logs taken hname => ?_⟩
  unfold wrap
  split
  · exact absurd rfl (ne_null_of_isText hname)
  · simp only [hf, isNameOrNull_of_isText hname, Bool.and_self, ↓reduceIte, hread, Exec.lift, pure_bind]
    rw [Exec.on_bind_ok (Exec.on_log _ _), Exec.on_bind_ok (Exec.on_fresh _), Exec.on_bind_ok (Exec.on_fresh _),
      Exec.on_bind_ok (hm _ _)]
    rfl

theorem wrap_readable (call : Caller) (hf : implementation.isImplementation = true) (hname : name.isText = true)
    {sig : Signature} (hread : Signature.read signature = .ok sig) (s : Store) :
    ∃ id m n, (wrap call signature implementation name).on s =
      (.ok (.checked id ⟨sig, implementation, name, m⟩),
        { s with next := n, logs := s.logs ++ [.wrapping name sig] }) := by
  obtain ⟨id, m, n, hw⟩ := wrap_readable_under call hf hread s
  exact ⟨id, m, n, hw name s.logs s.taken hname⟩

/-- Only what is read of a signature matters to wrapping. -/
theorem wrap_congr {signature' : Value} (h : Signature.read signature = Signature.read signature') :
    wrap call signature implementation name = wrap call signature' implementation name := by
  unfold wrap
  rw [h]

/-- The name under which a function is wrapped. -/
def displayed (call : Caller) (implementation name : Value) : Exec Value :=
  match name with
  | .null => Checked.defaultName call implementation
  | _ => pure name

theorem displayed_of_isText (hname : name.isText = true) (s : Store) :
    (displayed call implementation name).on s = (.ok name, s) := by
  unfold displayed
  split
  · cases hname
  · rfl

/-- Wrapping with a signature that can be read is naming, telling of it, and making the function. -/
theorem wrap_eq {sig : Signature} (hf : implementation.isImplementation = true) (hname : name.isNameOrNull = true)
    (hread : Signature.read signature = .ok sig) :
    wrap call signature implementation name = (do
      let display ← displayed call implementation name
      Exec.log (.wrapping display sig)
      let id ← Exec.fresh
      let _ ← Exec.fresh
      return .checked id ⟨sig, implementation, display, ← implementation.metadata.adopt⟩) := by
  simp only [wrap, hf, hname, Bool.and_self, ↓reduceIte, hread, Exec.lift, pure_bind]
  cases name <;> rfl

/-- Whatever can be wrapped and named is wrapped. -/
theorem wrap_displayed {sig : Signature} (hf : implementation.isImplementation = true)
    (hname : name.isNameOrNull = true) (hread : Signature.read signature = .ok sig) {display : Value} {u : Store}
    (hdisplay : (displayed call implementation name).on s = (.ok display, u)) :
    ∃ id m t, (wrap call signature implementation name).on s =
      (.ok (.checked id ⟨sig, implementation, display, m⟩), t) := by
  obtain ⟨m, n, hm⟩ := Exec.Makes.adoptMetadata implementation.metadata { u with next := u.next + 2 }
  refine ⟨u.next, m, { u with next := n, logs := u.logs ++ [.wrapping display sig] }, ?_⟩
  rw [wrap_eq hf hname hread, Exec.on_bind_ok hdisplay, Exec.on_bind_ok (Exec.on_log _ _),
    Exec.on_bind_ok (Exec.on_fresh _), Exec.on_bind_ok (Exec.on_fresh _), Exec.on_bind_ok (hm _ _)]
  rfl

/-- Whatever wrapping gives is a checked function of what was read and named, with the metadata of its
    implementation. -/
theorem exists_of_wrap {g : Value} {t : Store} (h : (wrap call signature implementation name).on s = (.ok g, t)) :
    ∃ sig id display m u v w, Signature.read signature = .ok sig ∧
      (displayed call implementation name).on s = (.ok display, u) ∧
      implementation.metadata.adopt.on v = (.ok m, w) ∧ g = .checked id ⟨sig, implementation, display, m⟩ := by
  cases hf : implementation.isImplementation && name.isNameOrNull with
  | false =>
    have hfail : (wrap call signature implementation name).on s = (.error (.failed (.misuse .parameter)), s) := by
      simp [wrap, hf, Exec.on_bind]
    cases hfail.symm.trans h
  | true =>
    rw [Bool.and_eq_true] at hf
    cases hread : Signature.read signature with
    | error f => cases (wrap_unreadable hf.1 hf.2 hread).symm.trans h
    | ok sig =>
      rw [wrap_eq hf.1 hf.2 hread] at h
      obtain ⟨display, u, hdisplay, h⟩ := Exec.on_bind_eq_ok h
      rw [Exec.on_bind_ok (Exec.on_log _ _), Exec.on_bind_ok (Exec.on_fresh _),
        Exec.on_bind_ok (Exec.on_fresh _)] at h
      obtain ⟨m, _, hm, h⟩ := Exec.on_bind_eq_ok h
      cases h
      exact ⟨sig, _, display, m, u, _, _, rfl, hdisplay, hm, rfl⟩

/-- Whatever wrapping gives is a checked function of the signature, the implementation and the name. -/
theorem wrap_eq_ok {sig : Signature} {g : Value} {t : Store} (hread : Signature.read signature = .ok sig)
    (h : (wrap call signature implementation name).on s = (.ok g, t)) :
    ∃ id display m u, (displayed call implementation name).on s = (.ok display, u) ∧
      g = .checked id ⟨sig, implementation, display, m⟩ := by
  obtain ⟨sig', id, display, m, u, -, -, hread', hdisplay, -, rfl⟩ := exists_of_wrap h
  cases hread.symm.trans hread'
  exact ⟨id, display, m, u, hdisplay, rfl⟩

end Value

end CallGuard
