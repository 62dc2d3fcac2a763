import CallGuard.Number.Extended

/-! Binary formats: the numbers of a fixed count of binary digits. A rational number goes to the
    nearest number of the format, halves to the even neighbour, and beyond the greatest number to an
    infinity. -/

namespace CallGuard

/-- A binary format. Its positive numbers are the multiples of `2 ^ least` with at most `digits`
    binary digits that lie below `2 ^ bound`. -/
structure Binary where
  digits : Nat
  least : Int
  bound : Int

namespace Binary

/-- The format of 16 bits. -/
def half : Binary := ⟨11, -24, 16⟩

/-- The format of 32 bits. -/
def single : Binary := ⟨24, -149, 128⟩

/-- The format of 64 bits. -/
def double : Binary := ⟨53, -1074, 1024⟩

/-- The format of 80 bits. -/
def wide : Binary := ⟨64, -16445, 16384⟩

/-- The power of two with an integer exponent. -/
def power (e : Int) : Rat := scale 2 e

/-- The natural number nearest to the quotient `n / d`, the even one of two equally near. -/
def nearestNat (n d : Nat) : Nat :=
  let q := n / d
  let r := n % d
  if 2 * r < d then q
  else if d < 2 * r then q + 1
  else if q % 2 = 0 then q else q + 1

/-- The exponent of the leading binary digit of a positive quotient. -/
def leading (n d : Nat) : Int :=
  let e : Int := (n.log2 : Int) - (d.log2 : Int)
  if power e * d ≤ n then e else e - 1

/-- The number of the format nearest to a rational number. -/
def nearest (b : Binary) (q : Rat) : Extended :=
  if q = 0 then .zero
  else
    let n := q.num.natAbs
    let step := max (leading n q.den - b.digits + 1) b.least
    let m := if 0 ≤ step then nearestNat n (q.den * Nat.pow 2 step.toNat)
      else nearestNat (n * Nat.pow 2 (-step).toNat) q.den
    let v : Rat := m * power step
    if power b.bound ≤ v then .infinite (decide (q < 0))
    else .finite (if q < 0 then -v else v)

/-- Rounding is within half a unit. -/
theorem nearestNat_spec (n d : Nat) (hd : 0 < d) :
    2 * n ≤ (2 * nearestNat n d + 1) * d ∧ 2 * nearestNat n d * d ≤ 2 * n + d := by
  have h := Nat.div_add_mod n d
  have hr := Nat.mod_lt n hd
  have hc : n / d * d = d * (n / d) := Nat.mul_comm _ _
  unfold nearestNat
  dsimp only
  split
  · simp only [Nat.add_mul, Nat.mul_assoc, hc]; omega
  · split
    · simp only [Nat.add_mul, Nat.mul_add, Nat.mul_assoc, hc]; omega
    · split <;> simp only [Nat.add_mul, Nat.mul_add, Nat.mul_assoc, hc] <;> omega

end Binary
end CallGuard
