import CallGuard.Report
import CallGuard.Value.Truth

/-! Making a report from arguments, as a caller does who raises one by hand. Arguments are bound to
    parameters by position and by name. A name that is no parameter or is given twice is refused first,
    then too many arguments, then missing ones. -/

namespace CallGuard

/-- The parameters of a function: those that the caller does not write, the required ones, those that may
    be left out, and those that are given by name only. -/
structure Parameters where
  function : String
  implicit : List String
  required : List String
  optional : List String
  namedOnly : List String

/-- Why arguments do not fit parameters. -/
inductive BindingFault
  | unexpected (function name : String)
  | twice (function name : String)
  | tooMany (function : String) (least most given named : Nat)
  | missing (function : String) (names : List String)

namespace BindingFault

/-- The ending of a noun by its count. -/
def plural (n : Nat) : String := if n = 1 then "" else "s"

/-- Quoted names as an enumeration. -/
def enumerated : List String → String
  | [] => ""
  | [a] => a
  | [a, b] => a ++ " and " ++ b
  | as => ", ".intercalate as.dropLast ++ ", and " ++ as.getLast?.getD ""

/-- The wording of a fault. Counts include the arguments that the caller does not write. -/
def message : BindingFault → String
  | unexpected f name => f ++ "() got an unexpected keyword argument '" ++ name ++ "'"
  | twice f name => f ++ "() got multiple values for argument '" ++ name ++ "'"
  | tooMany f least most given named =>
    let takes := if least = most then toString most else "from " ++ toString least ++ " to " ++ toString most
    let ending := if least = most then plural most else "s"
    let extra :=
      if named = 0 then ""
      else " positional argument" ++ plural given ++ " (and " ++ toString named ++ " keyword-only argument"
        ++ plural named ++ ")"
    f ++ "() takes " ++ takes ++ " positional argument" ++ ending ++ " but " ++ toString given ++ extra
      ++ (if given = 1 ∧ named = 0 then " was" else " were") ++ " given"
  | missing f names =>
    f ++ "() missing " ++ toString names.length ++ " required positional argument" ++ plural names.length
      ++ ": " ++ enumerated (names.map fun n => "'" ++ n ++ "'")

end BindingFault

namespace Parameters

/-- The parameters that can be given by position, in order. -/
def positional (p : Parameters) : List String := p.required ++ p.optional

/-- The named arguments in order, each to a parameter that no position has taken. -/
def bindNamed (p : Parameters) (taken : List String) :
    List (String × Value) → Except BindingFault (List (String × Value))
  | [] => .ok []
  | (name, v) :: rest =>
    if taken.contains name || p.implicit.contains name then .error (.twice p.function name)
    else if p.positional.contains name || p.namedOnly.contains name then
      (p.bindNamed taken rest).map ((name, v) :: ·)
    else .error (.unexpected p.function name)

/-- The values of the parameters that are given one. -/
def bind (p : Parameters) (args : List Value) (named : List (String × Value)) :
    Except BindingFault (List (String × Value)) := do
  let byPosition := p.positional.zip args
  let byName ← p.bindNamed (byPosition.map Prod.fst) named
  if p.positional.length < args.length then
    let unwritten := p.implicit.length
    throw (.tooMany p.function (p.required.length + unwritten) (p.positional.length + unwritten)
      (args.length + unwritten)
      (byName.filter fun e => p.namedOnly.contains e.1).length)
  let bound := byPosition ++ byName
  let absent := p.required.filter fun n => (bound.lookup n).isNone
  unless absent.isEmpty do throw (.missing p.function absent)
  return bound

end Parameters

namespace Report

/-- The parameters of the reports of a class. -/
def parameters (c : ReportClass) : Parameters :=
  let function := c.text ++ ".__init__"
  match c with
  | .smell => ⟨function, ["self"], [], ["message"], ["function_name", "position", "expected", "actual"]⟩
  | .kind .unknownType => ⟨function, ["self"], ["value"], [], []⟩
  | .kind .argumentCount => ⟨function, ["self"], ["expected", "actual", "function_name"], [], []⟩
  | .kind .argumentType => ⟨function, ["self"], ["function_name", "position", "expected", "actual"], [], []⟩
  | .kind .nanDetected => ⟨function, ["self"], ["function_name", "position", "expected"], [], []⟩
  | .kind .undefinedArgument => ⟨function, ["self"], ["function_name", "position", "expected"], [], []⟩
  | .kind .returnType => ⟨function, ["self"], ["function_name", "expected", "actual"], [], []⟩

/-- The report of a class with these values of its parameters. A general report takes the default
    message in place of a false one. -/
def ofBound (c : ReportClass) (bound : List (String × Value)) : Except Ambiguity Report := do
  let get (name : String) : Value := (bound.lookup name).getD .null
  match c with
  | .smell =>
    let message := get "message"
    let kept := if ← message.isTrue then message else .ofString ReportClass.defaultMessage
    return .smell kept (get "function_name") (get "position") (get "expected") (get "actual")
  | .kind .unknownType => return .unknownType (get "value")
  | .kind .argumentCount => return .argumentCount (get "expected") (get "actual") (get "function_name")
  | .kind .argumentType =>
    return .argumentType (get "function_name") (get "position") (get "expected") (get "actual")
  | .kind .nanDetected => return .nanDetected (get "function_name") (get "position") (get "expected")
  | .kind .undefinedArgument =>
    return .undefinedArgument (get "function_name") (get "position") (get "expected")
  | .kind .returnType => return .returnType (get "function_name") (get "expected") (get "actual")

end Report
end CallGuard
