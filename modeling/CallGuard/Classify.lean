import CallGuard.Store

/-! Classification: the tag of a value. It follows from the value's traits and, for numbers, from the
    answer to one question, whether the number is NaN. Decimals give their own account; every other
    number is compared with itself, once for each classification, and the comparison is recorded. -/

namespace CallGuard

/-- What an answer comes to. -/
def Reply.outcome : Reply → Except Failure Bool
  | truth b => .ok b
  | raised e => .error (.ofThrown e)
  | ambiguous a => .error (Failure.ambiguous a)

namespace SelfTest

/-- The outcome of a self-test that comes after `k` others of the same object. -/
def outcome (t : SelfTest) (k : Nat) : Except Failure Bool :=
  match t with
  | account answer => answer.outcome
  | comparison unequal => .ok unequal
  | ambiguous a => .error (Failure.ambiguous a)
  | replies r => (r.after k).outcome

/-- Whether a self-test compares the value with itself. -/
def compares : SelfTest → Bool
  | account _ => false
  | _ => true

end SelfTest

namespace Value

/-- Whether a recorded comparison is one of a value: of the object with its identity, asked as it is. -/
def isSubject (v w : Value) : Bool := v.id?.isSome && w.id? == v.id? && w.selfTest == v.selfTest

/-- How often a value has been compared with itself. -/
def comparisonsIn (v : Value) (s : Store) : Nat := (s.comparisons.filter v.isSubject).length

/-- Asks a number whether it is NaN. -/
def askNaN (v : Value) : Exec Bool := do
  let before := v.comparisonsIn (← get)
  if v.selfTest.compares then Exec.recordComparison v
  Exec.lift id (v.selfTest.outcome before)

/-- The tag of a value. -/
def classify (v : Value) : Exec Tag := do
  let nan ← if !v.traits.missing && v.traits.number then v.askNaN else pure false
  return v.traits.tag nan

end Value
end CallGuard
