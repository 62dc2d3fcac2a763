import CallGuard.Number.Shortest

/-! Binary numbers: the numbers of a binary format with both zeros, the infinities, and the number that
    stands for no number. An operation is carried out exactly and rounded once. -/

namespace CallGuard

/-- A number of a binary format. -/
inductive Real
  | nan
  | infinite (negative : Bool)
  | finite (negative : Bool) (magnitude : Rat)
  deriving DecidableEq

namespace Real

/-- Positive zero. -/
def zero : Real := finite false 0

/-- A rational number, zero being positive. -/
def ofRat (q : Rat) : Real := finite (decide (q < 0)) q.abs

/-- The place of the number on the extended line. -/
def extended : Real → Extended
  | nan => .undefined
  | infinite negative => .infinite negative
  | finite negative m => .finite (if negative then -m else m)

/-- Whether the number stands for no number. -/
def isNaN : Real → Bool
  | nan => true
  | _ => false

/-- Whether the number is a zero of either sign. -/
def isZero : Real → Bool
  | finite _ m => m == 0
  | _ => false

/-- Whether the number has a minus in front. -/
def isNegative : Real → Bool
  | nan => false
  | infinite negative => negative
  | finite negative _ => negative

/-- The number without its sign. -/
def abs : Real → Real
  | nan => nan
  | infinite _ => infinite false
  | finite _ m => finite false m

/-- The number with the other sign. -/
def negate : Real → Real
  | nan => nan
  | infinite negative => infinite !negative
  | finite negative m => finite (!negative) m

/-- The nearest number of a format. A number that is rounded to zero keeps its sign. -/
def round (b : Binary) : Real → Real
  | finite negative m =>
    match b.nearest m with
    | .finite q => finite negative q
    | _ => infinite negative
  | r => r

/-- The sum of two numbers. A sum of zero is negative only if both numbers are. -/
def add (b : Binary) : Real → Real → Real
  | nan, _ => nan
  | _, nan => nan
  | infinite s, infinite t => if s = t then infinite s else nan
  | infinite s, _ => infinite s
  | _, infinite t => infinite t
  | finite s m, finite t n =>
    let q := (if s then -m else m) + (if t then -n else n)
    if q = 0 then finite (s && t) 0 else round b (ofRat q)

/-- The product of two numbers. -/
def multiply (b : Binary) : Real → Real → Real
  | nan, _ => nan
  | _, nan => nan
  | finite s m, finite t n => round b (finite (s != t) (m * n))
  | x, y => if x.isZero || y.isZero then nan else infinite (x.isNegative != y.isNegative)

@[simp] theorem isNaN_round (b : Binary) (r : Real) : (r.round b).isNaN = r.isNaN := by
  cases r with
  | finite s m => simp only [round]; split <;> rfl
  | _ => rfl

/-- A number stands for no number exactly if it has no place on the line. -/
theorem extended_eq_undefined_iff {r : Real} : r.extended = .undefined ↔ r.isNaN = true := by
  cases r <;> simp [extended, isNaN]

end Real
end CallGuard
