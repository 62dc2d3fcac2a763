import CallGuard.Text.Lines

/-! Decimal digits of all scripts. They come in runs of ten, so the place in its run is the value of a
    digit, and a digit of any script can stand for that of ASCII (`digitValue?_plain`). -/

namespace CallGuard.Text

/-- The zeros of the runs of ten decimal digits in the Unicode Character Database, version 14. -/
def decimalZeros : List Nat :=
  [48, 1632, 1776, 1984, 2406, 2534, 2662, 2790, 2918, 3046, 3174, 3302, 3430, 3558, 3664, 3792, 3872,
   4160, 4240, 6112, 6160, 6470, 6608, 6784, 6800, 6992, 7088, 7232, 7248, 42528, 43216, 43264, 43472,
   43504, 43600, 44016, 65296, 66720, 68912, 69734, 69872, 69942, 70096, 70384, 70736, 70864, 71248,
   71360, 71472, 71904, 72016, 72784, 73040, 73120, 92768, 92864, 93008, 120782, 120792, 120802,
   120812, 120822, 123200, 123632, 125264, 130032]

/-- The value of a decimal digit of any script. -/
def digitValue? (c : Char) : Option Nat :=
  (decimalZeros.find? fun z => decide (z ≤ c.toNat) && decide (c.toNat < z + 10)).map (c.toNat - ·)

/-- The digit of ASCII for a value below ten. -/
def digit (n : Nat) : Char := Char.ofNat (48 + n)

/-- The character of ASCII that a number is read with: a digit for a digit, a space for white space. -/
def plain (c : Char) : Char :=
  match digitValue? c with
  | some n => digit n
  | none => if isBlank c then ' ' else c

/-- The characters that a number is read from: those of a text without the white space at its ends. -/
def numeral (s : String) : List Char := (trim s.toList).map plain

theorem digitValue?_lt {c : Char} {n : Nat} (h : digitValue? c = some n) : n < 10 := by
  unfold digitValue? at h
  obtain ⟨z, hz, rfl⟩ := Option.map_eq_some_iff.mp h
  have := List.find?_some hz
  simp only [Bool.and_eq_true, decide_eq_true_eq] at this
  omega

theorem digitValue?_digit {n : Nat} (h : n < 10) : digitValue? (digit n) = some n := by
  have hn : n ∈ List.range 10 := by simpa using h
  revert hn; revert n
  decide

/-- A digit keeps its value where it is read as a digit of ASCII. -/
theorem digitValue?_plain {c : Char} {n : Nat} (h : digitValue? c = some n) :
    digitValue? (plain c) = some n := by
  simp [plain, h, digitValue?_digit (digitValue?_lt h)]

end CallGuard.Text
