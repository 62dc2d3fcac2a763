import CallGuard.Lookup

/-! The callables of the environment: what they take and what they return. What becomes of a call of the rest of
    them is left open, and no operation goes on behind it. -/

namespace CallGuard

namespace Stock

/-- Refuses arguments by name. -/
def refuseNamed (function : String) (named : List (String × Value)) : Exec Unit :=
  unless named.isEmpty do Exec.fail (.calling (.noNamedArguments function))

/-- A call of a function of one argument. -/
def callUnary (function : String) (args : List Value) (named : List (String × Value))
    (run : Value → Exec Value) : Exec Value := do
  refuseNamed function named
  match args with
  | [v] => run v
  | _ => Exec.fail (.calling (.oneArgument function args.length))

/-- The length of a value as a new integer. -/
def tellLength (call : Caller) (args : List Value) (named : List (String × Value)) : Exec Value :=
  callUnary "len" args named fun v => do Exec.adopt (.ofInt (← v.askLength call))

/-- The magnitude of a number as a new number. -/
def tellMagnitude (call : Caller) (args : List Value) (named : List (String × Value)) : Exec Value :=
  callUnary "abs" args named fun v => do Exec.adopt (← v.askMagnitude call)

/-- A list of the items of a value. -/
def makeList (call : Caller) (args : List Value) (named : List (String × Value)) : Exec Value := do
  refuseNamed "list" named
  match args with
  | [] => return .sequence (← Exec.fresh) .list []
  | [v] => do
    let vs ← v.listItems call
    return .sequence (← Exec.fresh) .list vs
  | _ => Exec.fail (.calling (.atMostOne "list" args.length))

/-- The name of the parameter for a base. -/
def baseName : String := "base"

/-- An integer made of a value, in a base if one is given. -/
def makeInteger (call : Caller) (args : List Value) (named : List (String × Value)) : Exec Value := do
  if 2 < args.length + named.length then
    Exec.fail (.calling (.atMostTwo "int" (args.length + named.length)))
  if let some (name, _) := named.find? fun e => e.1 != baseName then
    Exec.fail (.calling (.unknownName "int" name))
  let n ← match args, named.lookup baseName with
    | [], none => pure 0
    | [], some _ => Exec.fail (.calling (.noText "int"))
    | [v], some base => Exec.lift Failure.conversion (v.toIntegerIn base)
    | [v], none => v.askInteger call
    | v :: base :: _, _ => Exec.lift Failure.conversion (v.toIntegerIn base)
  Exec.adopt (.ofInt n)

/-- The tag that a value names, as a value. -/
def findTag (call : Caller) (v : Value) : Exec Value := Value.tag <$> Tag.closedSet.find .usual call v

/-- The parameters of a call of the class of tags. With names for members it would make another class. -/
def tagClassParameters : Parameters :=
  ⟨"EnumType.__call__", ["cls"], ["value"], ["names"], ["module", "qualname", "type", "start", "boundary"]⟩

/-- A call of the class of tags. -/
def callTagClass (call : Caller) (args : List Value) (named : List (String × Value)) : Exec Value := do
  let bound ← Exec.lift Failure.binding (tagClassParameters.bind args named)
  let v := (bound.lookup "value").getD .null
  match bound.lookup "names" with
  | none => findTag call v
  | some .null => findTag call v
  | some _ => Exec.fail (.calling (.notExtensible v "TypeTag"))

/-- The parameters of a call of the class of the value for missing values. -/
def missingClassParameters : Parameters := ⟨"UndefinedType.__new__", ["cls"], [], [], []⟩

/-- A call of a callable of the environment. -/
def call (call : Caller) (s : Stock) (args : List Value) (named : List (String × Value)) : Exec Value :=
  let without (fault : CallFault) (x : Exec Value) : Exec Value :=
    if args.isEmpty && named.isEmpty then x else Exec.fail (.calling fault)
  match s.name with
  | "len" => tellLength call args named
  | "staticmethod" => tellLength call args named
  | "partial" => tellLength call args named
  | "abs" => tellMagnitude call args named
  | "bound builtin" => callUnary "list.append" args named fun _ => pure .null
  | "class list" => makeList call args named
  | "class int" => makeInteger call args named
  | "class TypeTag" => callTagClass call args named
  | "class UndefinedType" => do
    let _ ← Exec.lift Failure.binding (missingClassParameters.bind args named)
    return .undefined
  | "class NoneType" => without (.takesNothing "NoneType") (pure .null)
  | "class Number" => without (.takesNoArguments "Number") (throw (.leftOpen s.name))
  | _ => if s.traits.callable then throw (.leftOpen s.name) else Exec.fail (.calling (.notCallable s.fullTypeName))

end Stock
end CallGuard
