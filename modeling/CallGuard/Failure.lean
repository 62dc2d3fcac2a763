import CallGuard.Attributes
import CallGuard.Calling
import CallGuard.Measure
import CallGuard.Signature.Reading
import CallGuard.Value.Conversion
import CallGuard.Value.Items

/-! Failures: all the ways in which an operation can end without a result, by cause. Reports are the
    library's own errors and misuse is what its functions refuse at their door; the rest are errors of
    values, which pass through checks unchanged. The class and the wording of a failure follow from its
    cause. -/

namespace CallGuard

/-- The side of a public function on which a value was misused. -/
inductive Misuse
  | parameter
  | result
  deriving DecidableEq

/-- The name of the error of misuse. -/
def Misuse.className : Misuse → String
  | parameter => "BeartypeCallHintParamViolation"
  | result => "BeartypeCallHintReturnViolation"

/-- A value names no member of a closed set. -/
structure NamingFault where
  className : String
  written : String

/-- The wording of a fault. -/
def NamingFault.message (f : NamingFault) : String := f.written ++ " is not a valid " ++ f.className

/-- Why a value has no written form: what its class gives is no text, or an integer has too many digits. -/
inductive WritingFault
  | notText (typeName : String)
  | tooLong

namespace WritingFault

/-- The name of the class of a fault. -/
def className : WritingFault → String
  | notText _ => "TypeError"
  | tooLong => "ValueError"

/-- The wording of a fault. -/
def message : WritingFault → String
  | notText typeName => "__repr__ returned non-string (type " ++ typeName ++ ")"
  | tooLong =>
    "Exceeds the limit (" ++ toString Numeral.greatestCount
      ++ " digits) for integer string conversion; use sys.set_int_max_str_digits() to increase the limit"

end WritingFault

/-- Why the entries of a module cannot be wrapped. -/
inductive ModuleFault
  | badMarker (v : Value)
  | duplicateName (v : Value)
  | nameInOctets (markerType : String)

namespace ModuleFault

/-- The name of the class of a fault. -/
def className : ModuleFault → String
  | nameInOctets _ => "TypeError"
  | _ => "ValueError"

/-- The wording of a fault. -/
def message : ModuleFault → String
  | badMarker v => "The signature marker must be a single character, got " ++ v.written
  | duplicateName v => "Duplicate function name " ++ v.written
  | nameInOctets markerType => "endswith first arg must be bytes or a tuple of bytes, not " ++ markerType

end ModuleFault

/-- Why a tag does not come before or after a value: the type of the value has no order with texts, or
    what the value wraps has none, or it is an array or scalar whose elements have none. -/
inductive OrderFault
  | unordered (typeName : String)
  | wrappedUnordered (typeName : String)
  | elements (format : String)

namespace OrderFault

/-- The name of the class of a fault. -/
def className : OrderFault → String
  | elements _ => "_UFuncNoLoopError"
  | _ => "TypeError"

/-- The wording of a fault. What is wrapped is asked whether it comes after the tag. -/
def message : OrderFault → String
  | wrappedUnordered typeName => "'>' not supported between instances of '" ++ typeName ++ "' and 'TypeTag'"
  | unordered typeName => "'<' not supported between instances of 'TypeTag' and '" ++ typeName ++ "'"
  | elements format =>
    "ufunc 'greater' did not contain a loop with signature matching types (<class 'numpy.dtypes." ++ format
      ++ "DType'>, <class 'numpy.dtypes.StrDType'>) -> None"

end OrderFault

/-- Why an operation has no result. -/
inductive Failure
  | report (r : Report)
  | thrown (e : Thrown)
  | misuse (m : Misuse)
  | refused (r : Refusal)
  | signature (f : SignatureFault)
  | naming (f : NamingFault)
  | writing (f : WritingFault)
  | module (f : ModuleFault)
  | binding (f : BindingFault)
  | calling (f : CallFault)
  | access (f : AttributeFault)
  | item (f : ItemFault)
  | key (f : KeyFault)
  | comparison (f : ComparisonFault)
  | order (f : OrderFault)
  | operand (f : OperandFault)
  | conversion (f : ConversionFault)
  | measure (f : MeasureFault)
  | noArgument
  | unboundVariable (name : String)
  | noMemory
  | nulInEnvironment

namespace Failure

/-- The name of the class of a failure. -/
def className : Failure → String
  | report r => r.family.text
  | thrown e => e.family.text
  | misuse m => m.className
  | refused r => r.className
  | signature (.notIterable _) => "TypeError"
  | signature _ => "ValueError"
  | naming _ => "ValueError"
  | writing f => f.className
  | module f => f.className
  | binding _ => "TypeError"
  | calling _ => "TypeError"
  | access _ => "AttributeError"
  | item f => f.className
  | key _ => "TypeError"
  | comparison f => f.className
  | order f => f.className
  | operand f => f.className
  | conversion f => f.className
  | measure f => f.className
  | noArgument => "IndexError"
  | unboundVariable _ => "KeyError"
  | noMemory => QuantityFault.noMemory.className
  | nulInEnvironment => "ValueError"

/-- The wording of a failure. Misuse has none of its own. -/
def message : Failure → String
  | report r => r.text
  | thrown e => e.text
  | misuse _ => ""
  | refused r => r.message
  | signature f => f.message
  | naming f => f.message
  | writing f => f.message
  | module f => f.message
  | binding f => f.message
  | calling f => f.message
  | access f => f.message
  | item f => f.message
  | key f => f.message
  | comparison f => f.message
  | order f => f.message
  | operand f => f.message
  | conversion f => f.message
  | measure f => f.message
  | noArgument => "tuple index out of range"
  | unboundVariable name => Text.quoted name
  | noMemory => QuantityFault.noMemory.message
  | nulInEnvironment => "embedded null byte"

/-- The class of the environment that the class of a failure is a kind of, itself where it is one. -/
def general (f : Failure) : String :=
  match f with
  | report r => r.family.general?.getD f.className
  | order (.elements _) => "TypeError"
  | f => f.className

/-- The report of a failure, if it is one. -/
def report? : Failure → Option Report
  | report r => some r
  | _ => none

/-- A thrown error as a failure. The general report is thrown like any other error. -/
def ofThrown (e : Thrown) : Failure :=
  match e.family with
  | .smell => .report (.ofText e.text)
  | _ => .thrown e

/-- The failure of a truth that cannot be told. -/
def ambiguous (a : Ambiguity) : Failure := .comparison (.ambiguous a)

end Failure
end CallGuard
