import CallGuard.Number.Numerals
import CallGuard.Text.Quoted

/-! Scalars of the array library. A scalar knows the format that it is kept in, which its written form
    names; real and complex numbers, integers and durations are numbers, truth values are not. Real and
    complex scalars hold numbers of their format only: a number from elsewhere is rounded first. -/

namespace CallGuard

/-- The width of a real scalar. -/
inductive Width
  | half
  | single
  | double
  | wide
  deriving DecidableEq

namespace Width

/-- All widths. -/
def all : List Width := [half, single, double, wide]

/-- The name of real numbers of a width. -/
def realName : Width → String
  | half => "float16"
  | single => "float32"
  | double => "float64"
  | wide => "longdouble"

/-- The name of complex numbers with parts of a width. -/
def complexName : Width → String
  | half => "complex32"
  | single => "complex64"
  | double => "complex128"
  | wide => "clongdouble"

/-- The binary format of a width. -/
def binary : Width → Binary
  | half => .half
  | single => .single
  | double => .double
  | wide => .wide

/-- How numbers of a width are written: the narrower they are, the sooner with a power of ten. -/
def numerals : Width → Numerals
  | half => ⟨.half, 1000⟩
  | single => ⟨.single, 1000000⟩
  | double => .double
  | wide => ⟨.wide, 10000000000000000⟩

end Width

/-- A scalar. A duration counts days, a moment is kept in its text, and either may be absent. -/
inductive Scalar
  | real (width : Width) (r : Real)
  | complex (width : Width) (re im : Real)
  | integer (signed : Bool) (bits : Nat) (n : Int)
  | boolean (b : Bool)
  | text (s : String)
  | octets (bytes : List UInt8)
  | duration (days : Option Int)
  | moment (s : String)
  deriving DecidableEq

namespace Scalar

/-- A real scalar nearest to a number. -/
def ofReal (w : Width) (r : Real) : Scalar := real w (r.round w.binary)

/-- A complex scalar nearest to a number. -/
def ofComplex (w : Width) (re im : Real) : Scalar := complex w (re.round w.binary) (im.round w.binary)

/-- Whether a format of integers holds an integer. -/
def holds (signed : Bool) (bits : Nat) (n : Int) : Bool :=
  if signed then decide (-(Nat.pow 2 (bits - 1) : Int) ≤ n) && decide (n < Nat.pow 2 (bits - 1))
  else decide (0 ≤ n) && decide (n < Nat.pow 2 bits)

/-- The name of a scalar's type. -/
def typeName : Scalar → String
  | real w _ => w.realName
  | complex w _ _ => w.complexName
  | integer signed bits _ => (if signed then "int" else "uint") ++ toString bits
  | boolean _ => "bool"
  | text _ => "str_"
  | octets _ => "bytes_"
  | duration _ => "timedelta64"
  | moment _ => "datetime64"

/-- The name of a scalar's format where formats are told apart by name alone. -/
def formatName : Scalar → String
  | real .half _ => "Float16"
  | real .single _ => "Float32"
  | real .double _ => "Float64"
  | real .wide _ => "LongDouble"
  | complex .single _ _ => "Complex64"
  | complex .double _ _ => "Complex128"
  | complex _ _ _ => "CLongDouble"
  | integer signed bits _ => (if signed then "Int" else "UInt") ++ toString bits
  | boolean _ => "Bool"
  | text _ => "Str"
  | octets _ => "Bytes"
  | duration _ => "TimeDelta64"
  | moment _ => "DateTime64"

/-- The scalar as a diagnostic shows it. -/
def written : Scalar → String
  | real .wide r => "np.longdouble('" ++ Width.wide.numerals.text r ++ "')"
  | real w r => "np." ++ w.realName ++ "(" ++ w.numerals.text r ++ ")"
  | complex w re im => "np." ++ w.complexName ++ "(" ++ w.numerals.parts re im ++ ")"
  | s@(integer _ _ n) => "np." ++ s.typeName ++ "(" ++ toString n ++ ")"
  | boolean b => if b then "np.True_" else "np.False_"
  | text s => "np.str_(" ++ Text.quoted s ++ ")"
  | octets bs => "np.bytes_(" ++ Text.quotedOctets bs ++ ")"
  | duration (some n) => "np.timedelta64(" ++ toString n ++ ",'D')"
  | duration none => "np.timedelta64('NaT','D')"
  | moment s => "np.datetime64('" ++ s ++ "')"

/-- The text of a scalar. -/
def shown : Scalar → String
  | real w r => w.numerals.text r
  | complex w re im => w.numerals.complex re im
  | integer _ _ n => toString n
  | boolean b => if b then "True" else "False"
  | text s => s
  | octets bs => Text.quotedOctets bs
  | duration (some n) => toString n ++ " days"
  | duration none => "NaT"
  | moment s => s

/-- The number of characters of a text, or of octets. -/
def extent : Scalar → Nat
  | text s => s.length
  | octets bs => bs.length
  | _ => 0

/-- The text of a scalar in a sentence: numbers of all widths are written there as those of 64 bits. -/
def formatted : Scalar → String
  | real _ r => Numerals.double.text (r.round .double)
  | complex _ re im => Numerals.double.complex (re.round .double) (im.round .double)
  | s => s.shown

/-- Whether a scalar is of a type of numbers. -/
def isNumber : Scalar → Bool
  | real .. => true
  | complex .. => true
  | integer .. => true
  | duration _ => true
  | _ => false

/-- Whether a scalar differs from itself. -/
def isNaN : Scalar → Bool
  | real _ r => r.isNaN
  | complex _ re im => re.isNaN || im.isNaN
  | duration d => d.isNone
  | _ => false

/-- The first moment, from which all others are counted, to the greatest precision. -/
def firstMoment : List Char := "1970-01-01T00:00:00.000000000".toList

/-- Whether a text names the first moment, to some precision. -/
def isFirstMoment (s : String) : Bool := decide (4 ≤ s.length) && s.toList.isPrefixOf firstMoment

/-- Whether a scalar counts as true. -/
def isTrue : Scalar → Bool
  | real _ r => !r.isZero
  | complex _ re im => !(re.isZero && im.isZero)
  | integer _ _ n => n != 0
  | boolean b => b
  | text s => s != ""
  | octets bs => !bs.isEmpty
  | duration d => d != some 0
  | moment s => !isFirstMoment s

/-- The number of a scalar, by its real and its imaginary part. -/
def number? : Scalar → Option (Extended × Extended)
  | real _ r => some (r.extended, .zero)
  | complex _ re im => some (re.extended, im.extended)
  | integer _ _ n => some (.finite n, .zero)
  | boolean b => some (.finite (if b then 1 else 0), .zero)
  | _ => none

end Scalar
end CallGuard
