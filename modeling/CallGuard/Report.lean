import CallGuard.Value.Written

/-! Reports: the errors that this library raises of its own. A report of a violation says which function
    broke its signature, at which position, what was expected there and what was found; its message is a
    sentence about that. The general report, of which all others are kinds, carries what it is given. -/

namespace CallGuard

/-- The classes of reports, the general one first. -/
inductive ReportClass
  | smell
  | kind (k : Violation)
  deriving DecidableEq

namespace ReportClass

/-- All classes of reports. -/
def all : List ReportClass := smell :: Violation.all.map kind

/-- The name of a class. -/
def text : ReportClass → String
  | smell => "CodeSmellError"
  | kind .unknownType => "UnknownTypeError"
  | kind .argumentCount => "IncorrectArgumentCountError"
  | kind .argumentType => "IncorrectArgumentTypeError"
  | kind .nanDetected => "NaNDetectedError"
  | kind .undefinedArgument => "UndefinedArgumentError"
  | kind .returnType => "IncorrectReturnTypeError"

/-- The class with a name. -/
def ofText? (s : String) : Option ReportClass := all.find? fun c => c.text == s

/-- The kind of violation that a class reports, none for the general class. -/
def violation? : ReportClass → Option Violation
  | smell => none
  | kind k => some k

/-- The general error of the language that a class also is: a wrong value where NaN or a missing value
    is found, a wrong type elsewhere. -/
def general? : ReportClass → Option String
  | smell => none
  | kind .nanDetected => some "ValueError"
  | kind .undefinedArgument => some "ValueError"
  | kind _ => some "TypeError"

/-- The classes among the report class and the two general ones that a report of a class is of. -/
def isa (c : ReportClass) : List String := smell.text :: c.general?.toList

/-- The classes that a class comes before in the search for an attribute, itself first. -/
def lineage (c : ReportClass) : List String :=
  (match c with
    | smell => [smell.text]
    | c => [c.text, smell.text]) ++ c.general?.toList ++ ["Exception", "BaseException", "object"]

/-- The report classes that a class is a kind of, itself included. -/
def ancestors (c : ReportClass) : List ReportClass := all.filter fun d => d == smell || d == c

/-- The message of a report that is given none. -/
def defaultMessage : String := "Code smell in the code!"

end ReportClass

/-- A report. -/
inductive Report
  | smell (message functionName position expected actual : Value)
  | unknownType (value : Value)
  | argumentCount (expected actual functionName : Value)
  | argumentType (functionName position expected actual : Value)
  | nanDetected (functionName position expected : Value)
  | undefinedArgument (functionName position expected : Value)
  | returnType (functionName expected actual : Value)

namespace Report

/-- The class of a report. -/
def family : Report → ReportClass
  | smell .. => .smell
  | unknownType .. => .kind .unknownType
  | argumentCount .. => .kind .argumentCount
  | argumentType .. => .kind .argumentType
  | nanDetected .. => .kind .nanDetected
  | undefinedArgument .. => .kind .undefinedArgument
  | returnType .. => .kind .returnType

/-- The sentence of a report of a violation, and the shown message of a general one. -/
def text : Report → String
  | smell message _ _ _ _ => message.shown
  | unknownType v => "Unknown type for value " ++ v.written ++ "."
  | argumentCount expected actual name =>
    "Incorrect number of arguments for function \"" ++ name.formatted ++ "\": Expected " ++ expected.formatted
      ++ ", but got " ++ actual.formatted ++ "."
  | argumentType name position expected actual =>
    "Function \"" ++ name.formatted ++ "\" argument " ++ position.formatted ++ " called with " ++ actual.formatted
      ++ ", expecting " ++ expected.formatted ++ "."
  | nanDetected name .null expected =>
    "Found a NaN returned from function \"" ++ name.formatted ++ "\", expected " ++ expected.formatted ++ "."
  | nanDetected name position expected =>
    "Found a NaN argument " ++ position.formatted ++ " passed to function \"" ++ name.formatted
      ++ "\", expected " ++ expected.formatted ++ "."
  | undefinedArgument name position expected =>
    "Found an undefined argument " ++ position.formatted ++ " passed to function \"" ++ name.formatted
      ++ "\", expected " ++ expected.formatted ++ "."
  | returnType name expected actual =>
    "Function \"" ++ name.formatted ++ "\" returned " ++ actual.formatted ++ ", expected " ++ expected.formatted ++ "."

/-- The message of a report: a text, but for a general report that is given something else. -/
def message : Report → Value
  | smell message _ _ _ _ => message
  | r => .ofString r.text

/-- The display name of the function that a report is about. -/
def functionName : Report → Value
  | smell _ name _ _ _ => name
  | unknownType _ => .null
  | argumentCount _ _ name => name
  | argumentType name _ _ _ => name
  | nanDetected name _ _ => name
  | undefinedArgument name _ _ => name
  | returnType name _ _ => name

/-- The position of the argument that a report is about. -/
def position : Report → Value
  | smell _ _ position _ _ => position
  | argumentType _ position _ _ => position
  | nanDetected _ position _ => position
  | undefinedArgument _ position _ => position
  | _ => .null

/-- What was expected. -/
def expected : Report → Value
  | smell _ _ _ expected _ => expected
  | unknownType _ => .null
  | argumentCount expected _ _ => expected
  | argumentType _ _ expected _ => expected
  | nanDetected _ _ expected => expected
  | undefinedArgument _ _ expected => expected
  | returnType _ expected _ => expected

/-- What was found. A report of NaN names it by its text. -/
def actual : Report → Value
  | smell _ _ _ _ actual => actual
  | argumentCount _ actual _ => actual
  | argumentType _ _ _ actual => actual
  | nanDetected .. => .ofString Tag.nan.text
  | returnType _ _ actual => actual
  | _ => .null

/-- The value that a report of an unknown type keeps. -/
def value? : Report → Option Value
  | unknownType v => some v
  | _ => none

/-- The general report with a text as its message, and the default message in place of the empty one. -/
def ofText (s : String) : Report :=
  .smell (.ofString (if s = "" then ReportClass.defaultMessage else s)) .null .null .null .null

end Report
end CallGuard
