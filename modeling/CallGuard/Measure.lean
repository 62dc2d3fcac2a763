import CallGuard.Value.Written

/-! What is said of lengths, truths and parts that a value does not have, or that its class gives wrongly. -/

namespace CallGuard

/-- Why a value has no length, no truth, no integer, no items or not three parts. -/
inductive MeasureFault
  | noLength (typeName : String)
  | lengthTooGreat
  | lengthOutOfReach
  | negativeLength
  | lengthNotInteger (typeName : String)
  | truthNotBoolean (typeName : String)
  | integerNotInteger (name typeName : String)
  | itemsNotTaken (typeName : String)
  | notIterable (typeName : String)
  | noParts (typeName : String)
  | tooFewParts (n : Nat)
  | tooManyParts

namespace MeasureFault

/-- The name of the class of a fault. -/
def className : MeasureFault → String
  | lengthTooGreat => "OverflowError"
  | lengthOutOfReach => "OverflowError"
  | negativeLength => "ValueError"
  | tooFewParts _ => "ValueError"
  | tooManyParts => "ValueError"
  | _ => "TypeError"

/-- The wording of a fault. -/
def message : MeasureFault → String
  | noLength typeName => "object of type '" ++ typeName ++ "' has no len()"
  | lengthTooGreat => "Python int too large to convert to C ssize_t"
  | lengthOutOfReach => "cannot fit 'int' into an index-sized integer"
  | negativeLength => "__len__() should return >= 0"
  | lengthNotInteger typeName => "'" ++ typeName ++ "' object cannot be interpreted as an integer"
  | truthNotBoolean typeName => "__bool__ should return bool, returned " ++ typeName
  | integerNotInteger name typeName => name ++ " returned non-int (type " ++ typeName ++ ")"
  | itemsNotTaken typeName => "iter() returned non-iterator of type '" ++ typeName ++ "'"
  | notIterable typeName => "'" ++ typeName ++ "' object is not iterable"
  | noParts typeName => "cannot unpack non-iterable " ++ typeName ++ " object"
  | tooFewParts n => "not enough values to unpack (expected 3, got " ++ toString n ++ ")"
  | tooManyParts => "too many values to unpack (expected 3)"

end MeasureFault
end CallGuard
