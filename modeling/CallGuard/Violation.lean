/-! Kinds of violation: the closed set of ways in which a call can break its signature, and the one way
    in which a value can have no tag. -/

namespace CallGuard

/-- A kind of violation. -/
inductive Violation
  | unknownType
  | argumentCount
  | argumentType
  | nanDetected
  | undefinedArgument
  | returnType
  deriving DecidableEq, Inhabited

namespace Violation

/-- All kinds, in the order in which they are listed to a reader. -/
def all : List Violation :=
  [unknownType, argumentCount, argumentType, nanDetected, undefinedArgument, returnType]

/-- The label of a kind in the closed set. -/
def label : Violation → String
  | unknownType => "UNKNOWN_TYPE"
  | argumentCount => "ARGUMENT_COUNT"
  | argumentType => "ARGUMENT_TYPE"
  | nanDetected => "NAN_DETECTED"
  | undefinedArgument => "UNDEFINED_ARGUMENT"
  | returnType => "RETURN_TYPE"

/-- The text of a kind, by which it is looked up. -/
def text : Violation → String
  | unknownType => "unknown_type"
  | argumentCount => "argument_count"
  | argumentType => "argument_type"
  | nanDetected => "nan_detected"
  | undefinedArgument => "undefined_argument"
  | returnType => "return_type"

/-- The kind as a diagnostic shows it. -/
def written (k : Violation) : String := "<ViolationKind." ++ k.label ++ ": '" ++ k.text ++ "'>"

end Violation
end CallGuard
