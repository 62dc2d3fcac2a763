import CallGuard.Proofs.Adoption
import CallGuard.Proofs.AttributeReading
import CallGuard.Proofs.Nesting
import CallGuard.Proofs.Scrutiny

/-! Calls of bound functions. A checked function that is bound to a value is called as it is called directly
    with that value in front of the arguments: the value is counted and checked with them, as the one at the
    first position, whatever it is. Only to nothing is a function not bound, as when it is read through a class,
    and then nothing comes in front of the arguments (`callsWith_boundTo`). -/

namespace CallGuard

/-- Calling a value is calling a checked function with a value in front of the arguments: it comes to the same
    and leaves the same behind, with calls nested one level deeper and, unless they nest too deep, to the same
    depth. The value in front counts, and is checked, with the arguments. -/
structure CallsWith (b : Value) (id : ObjectId) (c : Checked Value) (x : Value) : Prop where
  within : ∀ depth args named, invoke (depth + 1) b args named = invoke depth (.checked id c) (x :: args) named
  call : ∀ args named, (Value.call b args named).Refines (Value.call (.checked id c) (x :: args) named)
  miscounted : ∀ depth args s, args.length + 1 ≠ c.signature.arity →
    (invoke (depth + 2) b args []).on s =
      (.error (.failed (.report (.argumentCount (.ofInt c.signature.arity) (.ofInt (args.length + 1)) c.name))), s)
  scrutinized : ∀ depth args s, args.length + 1 = c.signature.arity →
    ScrutinizedCall c (x :: args) (invoke depth c.implementation (x :: args) []) s ((invoke (depth + 2) b args []).on s)

/-- A method of a checked function calls it with what the method is bound to. -/
theorem callsWith_method (i id : ObjectId) (c : Checked Value) (x : Value) :
    CallsWith (.method i (.checked id c) x) id c x where
  within _ _ _ := rfl
  call args named := by
    obtain ⟨depth, hdepth⟩ : ∃ depth, nestingLimit = depth + 1 := ⟨3999, rfl⟩
    unfold Value.call
    rw [hdepth]
    exact refines_invoke_succ depth (.checked id c) (x :: args) named
  miscounted depth args s hn := by
    have hcount : (c.checkCount (x :: args).length 0).on s =
        (.error (.failed (.report (.argumentCount (.ofInt c.signature.arity) (.ofInt (args.length + 1)) c.name))),
          s) := by
      simp [Checked.checkCount, Checked.raise, hn]
    show (c.guard (x :: args) 0 (byPosition (invoke depth) c.implementation)).on s = _
    rw [Checked.guard, Checked.checkArguments]
    exact Exec.on_bind_error (Exec.on_bind_error hcount)
  scrutinized depth args s hn := by
    have hlength : (x :: args).length = c.signature.arity := hn
    exact Checked.scrutinizedCall_guard hlength (byPosition (invoke depth) c.implementation) s

/-- A checked function that is bound to anything but nothing, be it false, missing or NaN, is called with that in
    front, also where the bound function was given an identity. It is bound to the objects of a class that holds
    it, when it is read through one of them. Bound to nothing, as it is when it is read through the class, it
    stays as it is; only for the names of the class itself the class answers on its own. -/
theorem callsWith_boundTo (id : ObjectId) (c : Checked Value) :
    (∀ x, x ≠ .null → ∀ b, ((Value.checked id c).boundTo x).TakenAs b → CallsWith b id c x) ∧
      (Value.checked id c).boundTo .null = .checked id c ∧
      ∀ className attributes name, attributes.lookup name = some (.checked id c) → ∀ j : ObjectId,
        (∀ i : ObjectId, (Value.object i (.ownClass j className attributes)).readAttribute name =
          .ok ((Value.checked id c).boundTo (.object i (.ownClass j className attributes)))) ∧
        (name ≠ "__name__" → name ≠ "__qualname__" →
          (Value.ownClass j className attributes).readAttribute name = .ok ((Value.checked id c).boundTo .null)) := by
  refine ⟨?_, rfl, ?_⟩
  · intro x hx b hb
    have hmethod : (Value.checked id c).boundTo x = .method 0 (.checked id c) x := by
      cases x with
      | null => exact absurd rfl hx
      | _ => rfl
    rw [hmethod] at hb
    cases hb with
    | same => exact callsWith_method 0 id c x
    | made _ i => exact callsWith_method i id c x
  · intro className attributes name h j
    exact ⟨fun i => Value.readAttribute_object h i j,
      fun hname hqualname => Value.readAttribute_ownClass h hname hqualname j⟩

/-- A function that is bound to what is missing refuses it at the first position, and one that is bound to zero
    takes it like any other argument. -/
theorem callsWith_boundTo_missing :
    let c : Checked Value :=
      ⟨⟨[.void, .number], .number⟩, .routine 2 ⟨"second", .empty, .argument 1⟩, .ofString "second", .empty⟩
    let attributes : List (String × Value) := [("second", .checked 1 c)]
    let object : Value := .object 7 (.ownClass 6 "Pair" attributes)
    (∀ x ∈ [Value.undefined, .real 4 .nan, .integer 5 0, .boolean false],
      x ≠ .null ∧ CallsWith ((Value.checked 1 c).boundTo x) 1 c x) ∧
      attributes.lookup "second" = some (.checked 1 c) ∧
      object.readAttribute "second" = .ok ((Value.checked 1 c).boundTo object) ∧
      (Value.ownClass 6 "Pair" attributes).readAttribute "second" = .ok (.checked 1 c) ∧
      ((invoke 3 ((Value.checked 1 c).boundTo .undefined) [.integer 8 1] []).on .initial).1 =
        .error (.failed (.report (.undefinedArgument (.ofString "second") (.ofInt 0) (.tag .void)))) ∧
      ((invoke 3 ((Value.checked 1 c).boundTo (.integer 5 0)) [.integer 8 1] []).on .initial).1 =
        .ok (.integer 8 1) := by
  intro c attributes object
  obtain ⟨hcalls, hnull, hread⟩ := callsWith_boundTo 1 c
  have hlookup : attributes.lookup "second" = some (.checked 1 c) := rfl
  obtain ⟨hobject, hclass⟩ := hread "Pair" attributes "second" hlookup 6
  refine ⟨fun x hx => ?_, hlookup, hobject 7, hclass (by decide) (by decide), rfl, rfl⟩
  have hne : x ≠ .null := by
    rintro rfl
    simp at hx
  exact ⟨hne, hcalls x hne _ .same⟩

end CallGuard
