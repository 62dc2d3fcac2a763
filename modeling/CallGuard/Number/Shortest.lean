import CallGuard.Number.Binary

/-! The fewest decimal digits that tell a number of a binary format from all others of the format. For
    one, two and more digits in turn, the two neighbours of the number on the decimal grid are read back,
    the nearer one first; the first that is read as the number is taken (`nearest_of_readsBack`). -/

namespace CallGuard

/-- A positive number in decimal: its digits behind a point, times the power of ten with an exponent. -/
structure Digits where
  digits : List Char
  point : Int
  deriving DecidableEq

namespace Digits

/-- The decimal digits of a natural number. -/
def ofNat (n : Nat) : List Char := Nat.toDigits 10 n

/-- Digits without the zeros at their end. -/
def trimmed (ds : List Char) : List Char := (ds.reverse.dropWhile (· == '0')).reverse

/-- The natural number `n` times the power of ten with exponent `e`. -/
def ofScaled (n : Nat) (e : Int) : Digits := ⟨trimmed (ofNat n), e + (ofNat n).length⟩

/-- The least exponent of a power of ten that is greater than a positive number. -/
def pointOf (m : Rat) : Int :=
  let guess : Int := (ofNat m.num.natAbs).length - (ofNat m.den).length
  if m < scale 10 guess then guess else guess + 1

end Digits

namespace Binary

/-- Whether a number is read as a number of the format. -/
def readsBack (b : Binary) (m c : Rat) : Bool := b.nearest c == .finite m

/-- The natural numbers next to a positive one, the nearer first, the even first of two equally near. -/
def neighbours (m : Rat) : List Nat :=
  let low := m.floor.toNat
  if nearestNat m.num.natAbs m.den = low then [low, low + 1] else [low + 1, low]

/-- The decimal next to a number whose last digit stands for a power of ten, if it is read back. -/
def candidate? (b : Binary) (m : Rat) (place : Int) : Option Digits :=
  let unit := scale 10 place
  ((neighbours (m / unit)).find? fun (n : Nat) => b.readsBack m (n * unit)).map (Digits.ofScaled · place)

/-- The number of decimal digits that tell all numbers of the format apart. -/
def greatestCount (b : Binary) : Nat := b.digits * 30103 / 100000 + 2

/-- The fewest digits that are read back as a positive number of the format. -/
def shortest (b : Binary) (m : Rat) : Digits :=
  let point := Digits.pointOf m
  let found := (List.range b.greatestCount).findSome? fun n => b.candidate? m (point - (n + 1 : Nat))
  found.getD (Digits.ofScaled (nearestNat m.num.natAbs m.den) 0)

theorem nearest_of_readsBack {b : Binary} {m c : Rat} (h : b.readsBack m c = true) : b.nearest c = .finite m := by
  simpa [readsBack] using h

end Binary
end CallGuard
