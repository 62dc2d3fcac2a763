import CallGuard.Store

/-! Asking values for their length, their truth, their items and the like. An object of a class that is made on the
    way answers through the attributes of its class, which are called for it; what is asked of an iterator
    is taken from it. -/

namespace CallGuard

/-- How a value is called with arguments. -/
abbrev Caller := Value → List Value → Exec Value

/-- How a value is called with arguments by position and by name. -/
abbrev Invoker := Value → List Value → List (String × Value) → Exec Value

/-- Calls with arguments by position only. -/
def byPosition (call : Invoker) : Caller := fun f args => call f args []

namespace Value

/-- The attribute under which a class gives the length of its objects. -/
def lengthName : String := "__len__"

/-- The attribute under which a class gives the truth of its objects. -/
def truthName : String := "__bool__"

/-- The attribute under which a class gives the magnitude of its objects. -/
def magnitudeName : String := "__abs__"

/-- The attributes under which a class gives its objects as integers: the first that it has counts. -/
def integerNames : List String := ["__int__", "__index__"]

/-- The attribute under which a class gives an iterator over its objects. -/
def iteratorName : String := "__iter__"

/-- The attribute under which a class gives the items of its objects. -/
def itemName : String := "__getitem__"

/-- What the class of an object answers to arguments under a name, if it answers at all. -/
def askClassWith (call : Caller) (name : String) (args : List Value) (v : Value) : Exec (Option Value) :=
  match v with
  | .object _ family =>
    match family.ownAttribute? name with
    | some f => some <$> call (v.readThrough f) args
    | none => return none
  | _ => return none

/-- What the class of an object answers under a name, if it answers at all. -/
def askClass (call : Caller) (name : String) (v : Value) : Exec (Option Value) := v.askClassWith call name []

/-- The length that a class gives. -/
def givenLength (answer : Value) : Except MeasureFault Nat :=
  match answer.index? with
  | none => .error (.lengthNotInteger answer.fullTypeName)
  | some n =>
    if n < 0 then .error .negativeLength
    else if greatestLength < n then .error .lengthOutOfReach
    else .ok n.toNat

/-- The length of a value whose class has no say in it. -/
def plainLength (v : Value) : Except MeasureFault Nat :=
  match v.length? with
  | some n => if greatestLength < n then .error .lengthTooGreat else .ok n
  | none => .error (.noLength v.fullTypeName)

/-- The length of a value. -/
def askLength (call : Caller) (v : Value) : Exec Nat := do
  match ← v.askClass call lengthName with
  | some answer => Exec.lift Failure.measure (givenLength answer)
  | none => Exec.lift Failure.measure v.plainLength

/-- The truth of a value. The truth that a class gives comes before the length that it gives. -/
def askTruth (call : Caller) (v : Value) : Exec Bool := do
  match ← v.askClass call truthName with
  | some (.boolean b) => return b
  | some answer => Exec.fail (.measure (.truthNotBoolean answer.fullTypeName))
  | none =>
    match ← v.askClass call lengthName with
    | some answer => return (← Exec.lift Failure.measure (givenLength answer)) != 0
    | none => Exec.lift Failure.ambiguous v.isTrue

/-- At most `n` items of a value from where it stands. Those of an iterator are taken from it. -/
def takeItems? (n : Nat) (v : Value) : Exec (Option (List Value)) :=
  match v with
  | .iterator id vs => do
    let taken := (vs.drop ((← get).takenFrom id)).take n
    taken.forM fun _ => Exec.recordTaken id
    return some taken
  | v => return v.items?.map (List.take n)

/-- Refuses a value that is too long to be held item by item. -/
def checkLength (v : Value) : Exec Unit :=
  match v.length? with
  | some n =>
    if greatestLength < n then Exec.fail (.measure .lengthTooGreat)
    else if greatestRow < n then Exec.fail .noMemory
    else pure ()
  | none => pure ()

/-- Whether a value is an iterator: it gives items, and has no length. -/
def isIterator : Value → Bool
  | .iterator .. => true
  | .stock _ s => s.nature = .source false
  | _ => false

/-- All items of a value from where it stands. -/
def listItems (call : Caller) (v : Value) : Exec (List Value) := do
  let source ← match ← v.askClass call iteratorName with
    | some answer =>
      if answer.isIterator then pure answer
      else Exec.fail (.measure (.itemsNotTaken answer.fullTypeName))
    | none => pure v
  checkLength source
  match ← source.takeItems? greatestRow with
  | some vs => vs.mapM Exec.adopt
  | none => Exec.fail (.measure (.notIterable v.fullTypeName))

/-- The item of a value under a key. -/
def askItem (call : Caller) (v key : Value) : Exec Value := do
  match ← v.askClassWith call itemName [key] with
  | some answer => return answer
  | none => Exec.lift Failure.item (v.item key)

/-- The magnitude of a value. -/
def askMagnitude (call : Caller) (v : Value) : Exec Value := do
  match ← v.askClass call magnitudeName with
  | some answer => return answer
  | none => Exec.lift Failure.conversion v.magnitude

/-- The value as an integer, as its class gives it under the first of some names that it has. -/
def askIntegerUnder (call : Caller) (v : Value) : List String → Exec (Option Int)
  | [] => return none
  | name :: names => do
    match ← v.askClass call name with
    | none => askIntegerUnder call v names
    | some answer =>
      match answer.core.integer? with
      | some n => return some n
      | none => Exec.fail (.measure (.integerNotInteger name answer.fullTypeName))

/-- A value as an integer. -/
def askInteger (call : Caller) (v : Value) : Exec Int := do
  match ← v.askIntegerUnder call integerNames with
  | some n => return n
  | none => Exec.lift Failure.conversion v.toInteger

/-- Whether a value equals another as its class says, if it says. -/
def askEqualOneWay (call : Caller) (v w : Value) : Exec (Option Bool) := do
  match ← v.askClassWith call equalityName [w] with
  | none => return none
  | some (.stock i s) =>
    if s.name = "NotImplemented" then return none else some <$> (Value.stock i s).askTruth call
  | some answer => some <$> answer.askTruth call

/-- Whether two values are equal. The class of either may say so, that of the first one before. -/
def askEqual (call : Caller) (v w : Value) : Exec Bool := do
  match ← v.askEqualOneWay call w with
  | some b => return b
  | none =>
    match ← w.askEqualOneWay call v with
    | some b => return b
    | none => Exec.lift Failure.comparison (v.equal w)

end Value
end CallGuard
