import CallGuard.Proofs.Running

/-! Calls of checked functions with named arguments. A signature speaks of arguments by position only, so
    such a call is refused before anything is classified or called, and the store stays as it was. The
    refusal is a violation of the number of arguments, and counts those by position and those by name. One
    name is beyond this: a checked function takes itself as `self`, so an argument of that name is given
    twice, and the call fails before the number of its arguments is looked at (`enter_named`). -/

namespace CallGuard

theorem isSome_lookup_iff {α β : Type} [BEq α] [LawfulBEq α] {a : α} {es : List (α × β)} :
    (es.lookup a).isSome = true ↔ a ∈ es.map Prod.fst := by
  induction es with
  | nil => simp
  | cons e es ih =>
    rw [List.lookup_cons, List.map_cons, List.mem_cons]
    cases h : a == e.1
    · rw [ih, or_iff_right (by simpa using h)]
    · simp [beq_iff_eq.mp h]

namespace Checked
variable {c : Checked Value} {args : List Value} {named : List (String × Value)} {s : Store}

/-- Named arguments are too many in any number. -/
theorem checkCount_named {given count : Nat} (h : count ≠ 0) (s : Store) :
    (c.checkCount given count).on s =
      (.error (.failed (.report (.argumentCount (.ofInt c.signature.arity) (.ofInt (given + count)) c.name))), s) := by
  simp [checkCount, h, raise]

theorem run_named (h : named ≠ []) (hself : "self" ∉ named.map Prod.fst) (call : Caller) :
    (c.run args named call).on s =
      (.error (.failed (.report
        (.argumentCount (.ofInt c.signature.arity) (.ofInt (args.length + named.length)) c.name))), s) := by
  have hlookup : (named.lookup "self").isSome = false := by
    rw [Bool.eq_false_iff, ne_eq, isSome_lookup_iff]
    exact hself
  have hcount : named.length ≠ 0 := fun h₀ => h (List.length_eq_zero_iff.mp h₀)
  simp only [run, hlookup, Bool.false_eq_true, ↓reduceIte, guard, checkArguments, bind_assoc]
  exact Exec.on_bind_error (checkCount_named hcount s)

theorem run_named_self (hself : "self" ∈ named.map Prod.fst) (call : Caller) :
    (c.run args named call).on s = (.error (.failed (.binding (.twice "CheckedFunction.__call__" "self"))), s) := by
  rw [run, if_pos (isSome_lookup_iff.mpr hself)]
  exact Exec.on_bind_error (Exec.on_fail _ s)

end Checked

/-- Every call of a checked function with named arguments is refused and leaves the store as it was,
    whatever its arguments are, however values are called and whatever the implementation does. The
    number of arguments is reported, unless one of them is named like the function itself. -/
theorem enter_named (id : ObjectId) (c : Checked Value) (args : List Value) {named : List (String × Value)}
    (h : named ≠ []) (s : Store) :
    ∃ failure,
      (∀ call through, (Value.enter call through (.checked id c) args named).on s = (.error (.failed failure), s)) ∧
      (∀ depth, (invoke (depth + 1) (.checked id c) args named).on s = (.error (.failed failure), s)) ∧
      ("self" ∉ named.map Prod.fst → failure = .report
        (.argumentCount (.ofInt c.signature.arity) (.ofInt (args.length + named.length)) c.name)) ∧
      ("self" ∈ named.map Prod.fst → failure = .binding (.twice "CheckedFunction.__call__" "self")) := by
  by_cases hself : "self" ∈ named.map Prod.fst
  · exact ⟨_, fun _ through => Checked.run_named_self hself (through c), fun _ => Checked.run_named_self hself _,
      fun hnot => absurd hself hnot, fun _ => rfl⟩
  · exact ⟨_, fun _ through => Checked.run_named h hself (through c), fun _ => Checked.run_named h hself _,
      fun _ => rfl, fun hin => absurd hin hself⟩

/-- A function of one number. -/
def ofOneNumber : Checked Value := ⟨⟨[.number], .number⟩, .null, .ofString "f", .empty⟩

/-- One named argument is refused though the signature has one argument. -/
theorem enter_named_one :
    let named : List (String × Value) := [("x", .real 1 .nan)]
    named ≠ [] ∧ ∃ failure,
      (invoke 2 (.checked 3 ofOneNumber) [] named).on .initial = (.error (.failed failure), .initial) ∧
        failure = .report (.argumentCount (.ofInt 1) (.ofInt 1) (.ofString "f")) := by
  have h : [("x", Value.real 1 .nan)] ≠ [] := by simp
  obtain ⟨failure, -, hinvoke, hcount, -⟩ := enter_named 3 ofOneNumber [] h .initial
  exact ⟨h, failure, hinvoke 1, hcount (by decide)⟩

/-- An argument that is named like the function itself is refused too, but not for the number of
    arguments. -/
theorem enter_named_self :
    let named : List (String × Value) := [("self", .integer 1 1)]
    ((invoke 2 (.checked 3 ofOneNumber) [] named).on .initial).1 =
        .error (.failed (.binding (.twice "CheckedFunction.__call__" "self"))) ∧
      ((invoke 2 (.checked 3 ofOneNumber) [] named).on .initial).1 ≠
        .error (.failed (.report (.argumentCount (.ofInt 1) (.ofInt 1) (.ofString "f")))) := by
  refine ⟨rfl, fun h => ?_⟩
  cases h

end CallGuard
