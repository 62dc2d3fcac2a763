import CallGuard.Number.Reading
import CallGuard.Value.Operands

/-! Values as integers and their magnitudes. A number is cut off at its point, and a text or a row of
    octets is read, in base ten unless another base is given, which only goes with texts and octets. -/

namespace CallGuard

/-- Why a value is no integer, or has no magnitude. -/
inductive ConversionFault
  | unreadable (base : Int) (written : String)
  | tooLong (digits : Nat)
  | notNumber (typeName : String)
  | notText
  | noBase
  | notInteger (typeName : String)
  | severalElements
  | noMagnitude (typeName : String)
  | quantity (f : QuantityFault)

namespace ConversionFault

/-- The name of the class of a fault. -/
def className : ConversionFault → String
  | unreadable .. => "ValueError"
  | tooLong _ => "ValueError"
  | noBase => "ValueError"
  | quantity f => f.className
  | _ => "TypeError"

/-- The wording of a fault. -/
def message : ConversionFault → String
  | unreadable base written =>
    "invalid literal for int() with base " ++ toString base ++ ": " ++ String.ofList (written.toList.take 200)
  | tooLong digits =>
    "Exceeds the limit (" ++ toString Numeral.greatestCount ++ " digits) for integer string conversion: value has "
      ++ toString digits ++ " digits; use sys.set_int_max_str_digits() to increase the limit"
  | notNumber typeName =>
    "int() argument must be a string, a bytes-like object or a real number, not '" ++ typeName ++ "'"
  | notText => "int() can't convert non-string with explicit base"
  | noBase => "int() base must be >= 2 and <= 36, or 0"
  | notInteger typeName => "'" ++ typeName ++ "' object cannot be interpreted as an integer"
  | severalElements => "only 0-dimensional arrays can be converted to Python scalars"
  | noMagnitude typeName => "bad operand type for abs(): '" ++ typeName ++ "'"
  | quantity f => f.message

end ConversionFault

namespace Scalar

/-- The scalar as a quantity, a complex one by its real part. -/
def quantity? : Scalar → Option Quantity
  | real _ r => some (.real r)
  | complex _ re _ => some (.real re)
  | integer _ _ n => some (.integer n)
  | boolean b => some (.integer (if b then 1 else 0))
  | duration (some n) => some (.integer n)
  | _ => none

/-- The magnitude of a scalar. The least integer of a format has none in it and stays as it is. -/
def magnitude? : Scalar → Option Scalar
  | real w r => some (real w r.abs)
  | complex w re im => some (real w (Real.distance w.binary re im))
  | integer signed bits n =>
    some (integer signed bits (if signed ∧ n.natAbs = Nat.pow 2 (bits - 1) then n else n.natAbs))
  | boolean b => some (boolean b)
  | duration d => some (duration (d.map fun n => n.natAbs))
  | _ => none

end Scalar

namespace Value

/-- The octets that a value gives to a reader of octets. -/
def readableOctets? (v : Value) : Option (List UInt8) :=
  match v with
  | .stock _ s =>
    match s.name with
    | "memoryview" => some [97]
    | "array.array" => some [1, 0, 0, 0]
    | _ => none
  | v => v.octets?

/-- The text that octets write, if they are all of ASCII and none is a separator of records. -/
def octetsText (bs : List UInt8) : Option String :=
  if bs.all fun b => decide (b < 128) && !(decide (28 ≤ b) && decide (b < 32)) then
    some (String.ofList (bs.map fun b => Char.ofNat b.toNat))
  else none

/-- The integer that a text writes in a base. The written form of what is read goes into the report. -/
def readInteger (base : Nat) (written : String) (text : Option String) : Except ConversionFault Int :=
  match text.map (Numeral.readInteger base) with
  | some (.ok n) => .ok n
  | some (.error (.tooLong digits)) => .error (.tooLong digits)
  | _ => .error (.unreadable base written)

/-- The integer that octets write in a base. -/
def readOctets (base : Nat) (bs : List UInt8) : Except ConversionFault Int :=
  readInteger base (Text.quotedOctets (bs.take 200)) (octetsText bs)

/-- A value as an integer. -/
def toInteger (v : Value) : Except ConversionFault Int :=
  let truncated (q : Option Quantity) : Except ConversionFault Int :=
    match q.bind Quantity.truncate? with
    | some r => r.mapError .quantity
    | none => .error (.notNumber v.fullTypeName)
  match v.core, v.likeText?, v.readableOctets? with
  | .scalar _ (.text s), _, _ => readInteger 10 (Text.quoted s) (some s)
  | .array .., _, _ => .error .severalElements
  | _, some s, _ => readInteger 10 v.written (some s)
  | _, none, some bs => readOctets 10 bs
  | .scalar _ s, none, none => truncated s.quantity?
  | _, none, none => truncated v.quantity?

/-- A value as an integer in a base. -/
def toIntegerIn (v base : Value) : Except ConversionFault Int := do
  match base.index? with
  | none => throw (.notInteger base.fullTypeName)
  | some b =>
    unless b = 0 ∨ (2 ≤ b ∧ b ≤ 36) do throw .noBase
    match v.text?, v.octets? with
    | some s, _ => readInteger b.toNat v.written (some s)
    | none, some bs => readOctets b.toNat bs
    | none, none => throw .notText

/-- The magnitude of a value. -/
def magnitude (v : Value) : Except ConversionFault Value :=
  match v.core, v.quantity? with
  | _, some q => (q.magnitude.mapError .quantity).map Quantity.toValue
  | .scalar _ s, none => (s.magnitude?.map (Value.scalar 0)).elim (.error (.noMagnitude v.fullTypeName)) .ok
  | _, none => .error (.noMagnitude v.fullTypeName)

end Value
end CallGuard
