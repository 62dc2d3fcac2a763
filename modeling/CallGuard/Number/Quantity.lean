import CallGuard.Number.Decimal
import CallGuard.Number.Root

/-! Quantities: the numbers that are reckoned with, of all kinds. Two quantities of different kinds are
    brought to the wider of the two, from integers over fractions and binary numbers to complex ones.
    Decimal numbers only go with decimal numbers and integers. -/

namespace CallGuard

/-- The operations of reckoning. -/
inductive Arithmetic
  | add
  | subtract
  | multiply
  deriving DecidableEq

/-- A number that is reckoned with. -/
inductive Quantity
  | integer (n : Int)
  | fraction (q : Rat)
  | real (r : Real)
  | complex (re im : Real)
  | decimal (d : Decimal)

/-- Why reckoning has no result. -/
inductive QuantityFault
  | decimal (f : DecimalFault)
  | integerTooGreat
  | fractionTooGreat
  | distanceTooGreat
  | undefinedReal
  | infiniteReal
  | undefinedDecimal
  | infiniteDecimal
  | noMemory
  deriving DecidableEq

namespace QuantityFault

/-- The name of the class of a fault. -/
def className : QuantityFault → String
  | decimal f => f.className
  | undefinedReal => "ValueError"
  | undefinedDecimal => "ValueError"
  | noMemory => "MemoryError"
  | _ => "OverflowError"

/-- The wording of a fault. -/
def message : QuantityFault → String
  | decimal f => f.message
  | integerTooGreat => "int too large to convert to float"
  | fractionTooGreat => "integer division result too large for a float"
  | distanceTooGreat => "absolute value too large"
  | undefinedReal => "cannot convert float NaN to integer"
  | infiniteReal => "cannot convert float infinity to integer"
  | undefinedDecimal => "cannot convert NaN to integer"
  | infiniteDecimal => "cannot convert Infinity to integer"
  | noMemory => ""

end QuantityFault

namespace Arithmetic

/-- The sign of an operation. -/
def sign : Arithmetic → String
  | add => "+"
  | subtract => "-"
  | multiply => "*"

/-- The operation on integers. -/
def integers : Arithmetic → Int → Int → Int
  | add, m, n => m + n
  | subtract, m, n => m - n
  | multiply, m, n => m * n

/-- The operation on rational numbers. -/
def rationals : Arithmetic → Rat → Rat → Rat
  | add, p, q => p + q
  | subtract, p, q => p - q
  | multiply, p, q => p * q

/-- The operation on binary numbers of 64 bits. -/
def reals : Arithmetic → Real → Real → Real
  | add, r, s => Real.add .double r s
  | subtract, r, s => Real.add .double r s.negate
  | multiply, r, s => Real.multiply .double r s

/-- The operation on complex numbers, by their parts. -/
def complexes : Arithmetic → Real × Real → Real × Real → Real × Real
  | multiply, (a, b), (c, d) =>
    (subtract.reals (multiply.reals a c) (multiply.reals b d), add.reals (multiply.reals a d) (multiply.reals b c))
  | op, (a, b), (c, d) => (op.reals a c, op.reals b d)

/-- The operation on decimal numbers. -/
def decimals : Arithmetic → Decimal → Decimal → Except DecimalFault Decimal
  | add, x, y => x.add y
  | subtract, x, y => x.add y.negate
  | multiply, x, y => x.multiply y

end Arithmetic

namespace Quantity

/-- A rational number as a binary number of 64 bits. -/
def nearestReal (fault : QuantityFault) (q : Rat) : Except QuantityFault Real :=
  match (Real.ofRat q).round .double with
  | .infinite _ => .error fault
  | r => .ok r

/-- A quantity as a binary number, if it is no wider than one. -/
def toReal? : Quantity → Option (Except QuantityFault Real)
  | integer n => some (nearestReal .integerTooGreat n)
  | fraction q => some (nearestReal .fractionTooGreat q)
  | real r => some (.ok r)
  | _ => none

/-- A quantity as a complex number by its parts, if it is no wider than one. -/
def toComplex? : Quantity → Option (Except QuantityFault (Real × Real))
  | complex re im => some (.ok (re, im))
  | q => q.toReal?.map fun r => r.map (·, .zero)

/-- A quantity as a decimal number, if it goes with them. -/
def toDecimal? : Quantity → Option Decimal
  | decimal d => some d
  | integer n => some (.finite (decide (n < 0)) n.natAbs 0)
  | _ => none

/-- A quantity as a rational number, if it is exact. -/
def toRat? : Quantity → Option Rat
  | integer n => some n
  | fraction q => some q
  | _ => none

/-- Whether a quantity is a decimal number. -/
def isDecimal : Quantity → Bool
  | decimal _ => true
  | _ => false

/-- Whether a quantity is complex. -/
def isComplex : Quantity → Bool
  | complex .. => true
  | _ => false

/-- An operation on two quantities of one kind after another: on decimals, on exact numbers, on binary
    numbers, on complex numbers. -/
def combine? (op : Arithmetic) (x y : Quantity) : Option (Except QuantityFault Quantity) :=
  if x.isDecimal || y.isDecimal then
    match x.toDecimal?, y.toDecimal? with
    | some a, some b => some (((op.decimals a b).mapError .decimal).map .decimal)
    | _, _ => none
  else if x.isComplex || y.isComplex then
    match x.toComplex?, y.toComplex? with
    | some a, some b => some do
      let (re, im) := op.complexes (← a) (← b)
      return .complex re im
    | _, _ => none
  else
    match x, y with
    | .integer m, .integer n => some (.ok (.integer (op.integers m n)))
    | x, y =>
      match x.toRat?, y.toRat? with
      | some p, some q => some (.ok (.fraction (op.rationals p q)))
      | _, _ =>
        match x.toReal?, y.toReal? with
        | some a, some b => some do return .real (op.reals (← a) (← b))
        | _, _ => none

/-- The magnitude of a quantity. -/
def magnitude : Quantity → Except QuantityFault Quantity
  | integer n => .ok (.integer n.natAbs)
  | fraction q => .ok (.fraction q.abs)
  | real r => .ok (.real r.abs)
  | decimal d => (d.abs.mapError .decimal).map .decimal
  | complex (.finite s x) (.finite t y) =>
    match Real.distance .double (.finite s x) (.finite t y) with
    | .infinite _ => .error .distanceTooGreat
    | r => .ok (.real r)
  | complex re im => .ok (.real (Real.distance .double re im))

/-- A rational number without what stands behind its point. -/
def whole (q : Rat) : Int := q.num.tdiv q.den

/-- A quantity without what stands behind its point, unless it is complex. -/
def truncate? : Quantity → Option (Except QuantityFault Int)
  | integer n => some (.ok n)
  | fraction q => some (.ok (whole q))
  | real .nan => some (.error .undefinedReal)
  | real (.infinite _) => some (.error .infiniteReal)
  | real (.finite s m) => some (.ok (whole (if s then -m else m)))
  | decimal (.nan ..) => some (.error .undefinedDecimal)
  | decimal (.infinite _) => some (.error .infiniteDecimal)
  | decimal (.finite s c e) =>
    if c = 0 ∨ e < -(Decimal.digits c).length then some (.ok 0)
    else if (Decimal.reach : Int) < e then some (.error .noMemory)
    else
      let n := whole ((c : Rat) * scale 10 e)
      some (.ok (if s then -n else n))
  | complex .. => none

/-- Only complex quantities have no whole part. -/
theorem truncate?_eq_none_iff {x : Quantity} : x.truncate? = none ↔ x.isComplex = true := by
  cases x with
  | real r => cases r <;> simp [truncate?, isComplex]
  | decimal d =>
    cases d <;> simp only [truncate?, isComplex]
    · repeat' split
      all_goals simp
    · simp
    · simp
  | _ => simp [truncate?, isComplex]

end Quantity
end CallGuard
