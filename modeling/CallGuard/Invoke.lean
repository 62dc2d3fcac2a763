import CallGuard.Building
import CallGuard.Checks
import CallGuard.Functions

/-! Calling values. A routine records its arguments and then runs its body; a checked function calls its
    implementation under its checks; a bound function is called with its object in front of the
    arguments, and an object as the class of the object says. Calls may nest to a depth that is given as
    fuel. -/

namespace CallGuard

namespace Exec

/-- A list as a new object. -/
def newList (vs : List Value) : Exec Value := do return .sequence (← fresh) .list vs

/-- A tuple as a new object. -/
def newTuple (vs : List Value) : Exec Value := do return .sequence (← fresh) .tuple vs

end Exec

namespace Body

/-- What a routine returns at its `k`-th call, counted from one. The last turn repeats for ever. -/
def turn (bs : List Blueprint) (k : Nat) : Blueprint := (bs[k - 1]? <|> bs.getLast?).getD (.atom .null)

/-- The argument at a place, counted from the back where it is negative. -/
def argumentAt (args : List Value) (i : Int) : Exec Value :=
  match (Value.placeIn args.length i).bind fun place => args[place]? with
  | some v => pure v
  | none => Exec.fail .noArgument

mutual

/-- Runs a body for the routine with an identity and the arguments of a call. How values are called is a
    parameter. -/
def eval (id : ObjectId) (args : List Value) (call : Caller) : Body Blueprint → Exec Value
  | .argument i => argumentAt args i
  | .arguments => Exec.newTuple args
  | .constant b => b.build call
  | .named name => Exec.valueOf name
  | .count => do Exec.adopt (.ofInt ((← get).callsOf id).length)
  | .turns bs => do (turn bs ((← get).callsOf id).length).build call
  | .list es => do Exec.newList (← evalAll id args call es)
  | .arithmetic op l r => do
    let a ← eval id args call l
    let b ← eval id args call r
    Exec.adopt (← Exec.lift Failure.operand (a.operate op b))
  | .equal l r => do
    let a ← eval id args call l
    let b ← eval id args call r
    return .boolean (← a.askEqual call b)
  | .choose condition yes no => do
    let c ← eval id args call condition
    if ← c.askTruth call then eval id args call yes else eval id args call no
  | .call f es => do
    let g ← eval id args call f
    let vs ← evalAll id args call es
    call g vs
  | .throw e => Exec.fail (.ofThrown e)

/-- Runs bodies one after another. -/
def evalAll (id : ObjectId) (args : List Value) (call : Caller) : List (Body Blueprint) → Exec (List Value)
  | [] => pure []
  | e :: es => do
    let v ← eval id args call e
    let vs ← evalAll id args call es
    return v :: vs

end

end Body

namespace Routine

/-- The parameters of a call of a routine that can be given by name: none. -/
def parameters : Parameters := ⟨"Fn.__call__", ["self"], [], [], []⟩

/-- A call of a routine: it is recorded, and the body runs. -/
def run (r : Routine Value) (id : ObjectId) (args : List Value) (named : List (String × Value)) (call : Caller) :
    Exec Value := do
  let _ ← Exec.lift Failure.binding (parameters.bindNamed [] named)
  Exec.recordCall id args
  r.body.eval id args call

end Routine

namespace Checked

/-- A call of a checked function. No argument can be named like the function's own. -/
def run (c : Checked Value) (args : List Value) (named : List (String × Value)) (call : Caller) : Exec Value := do
  if (named.lookup "self").isSome then
    Exec.fail (.binding (.twice "CheckedFunction.__call__" "self"))
  c.guard args named.length (call c.implementation)

end Checked

namespace Value

/-- A new object of a class. What the class does with it is called. -/
def start (call : Invoker) (id : ObjectId) (name : String) (attributes : List (String × Value))
    (args : List Value) (named : List (String × Value)) : Exec Value :=
  match attributes.lookup startName with
  | some g => do
    let self := object (← Exec.fresh) (.ownClass id name attributes)
    match ← call (self.readThrough g) args named with
    | .null => return self
    | answer => Exec.fail (.calling (.startReturned answer.fullTypeName))
  | none =>
    if args.isEmpty && named.isEmpty then do
      return .object (← Exec.fresh) (.ownClass id name attributes)
    else Exec.fail (.calling (.takesNoArguments name))

/-- What calling a value comes to. How values are called inside it is a parameter, and so is how a
    checked function calls its implementation. -/
def enter (call : Invoker) (through : Checked Value → Caller) (f : Value) (args : List Value)
    (named : List (String × Value)) : Exec Value :=
  match f with
  | .routine id r => r.run id args named (byPosition call)
  | .checked _ c => c.run args named (through c)
  | .method _ g self => call g (self :: args) named
  | .stock _ s => s.call (byPosition call) args named
  | .custom _ c =>
    if c.traits.callable then pure .null else Exec.fail (.calling (.notCallable c.className))
  | .ownClass id name attributes => start call id name attributes args named
  | .object id family =>
    match family.ownAttribute? callName with
    | some g => call ((Value.object id family).readThrough g) args named
    | none => Exec.fail (.calling (.notCallable (Value.object id family).fullTypeName))
  | v => Exec.fail (.calling (.notCallable v.fullTypeName))

end Value

/-- Calls a value with arguments by position and by name, with calls nested at most as deep as the
    fuel. -/
def invoke : (fuel : Nat) → Invoker
  | 0 => fun _ _ _ => throw .exhausted
  | fuel + 1 => Value.enter (invoke fuel) fun _ => byPosition (invoke fuel)

/-- The depth to which calls may nest. -/
def nestingLimit : Nat := 4000

/-- Calls a value. -/
def Value.call (f : Value) (args : List Value) (named : List (String × Value)) : Exec Value :=
  invoke nestingLimit f args named

/-- How values are called with arguments by position only. -/
def caller : Caller := byPosition Value.call

/-- The routine at the bottom of a tower of checked and bound functions. -/
def Value.bottom : Value → Value
  | .checked _ ⟨_, implementation, _, _⟩ => implementation.bottom
  | .method _ function _ => function.bottom
  | v => v

end CallGuard
