/-! The numbers of the extended line: the rational numbers, the two infinities, and the result of an
    undefined operation. The undefined number agrees with no number, itself included; all others agree
    exactly if they are equal (`agrees_eq_true_iff`). Decimal numbers far beyond all others stand in their
    decimal form, for as quotients they could not be held. -/

namespace CallGuard

/-- The power of a base with an integer exponent. -/
def scale (base : Nat) (e : Int) : Rat :=
  if 0 ≤ e then ((Nat.pow base e.toNat : Nat) : Rat) else 1 / ((Nat.pow base (-e).toNat : Nat) : Rat)

/-- A rational number, a remote number by its shortest coefficient and its power of ten, an infinity or
    the undefined number. -/
inductive Extended
  | finite (q : Rat)
  | remote (negative : Bool) (coefficient : Nat) (exponent : Int)
  | infinite (negative : Bool)
  | undefined
  deriving DecidableEq

namespace Extended

/-- Zero. -/
def zero : Extended := .finite 0

/-- Whether two numbers are equal as numbers. The undefined number is equal to none. -/
def agrees : Extended → Extended → Bool
  | undefined, _ => false
  | x, y => x == y

theorem agrees_eq_true_iff {x y : Extended} : x.agrees y = true ↔ x = y ∧ x ≠ .undefined := by
  cases x <;> simp [agrees]

/-- Only the undefined number disagrees with itself. -/
theorem agrees_self_eq_false_iff {x : Extended} : x.agrees x = false ↔ x = .undefined := by
  cases x <;> simp [agrees]

end Extended
end CallGuard
