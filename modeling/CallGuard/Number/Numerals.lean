import CallGuard.Number.Real

/-! Writing binary numbers. The digits are the fewest that tell a number from all others of its format.
    They stand around a point while the number is neither small nor great, and else behind the leading
    digit with a power of ten. -/

namespace CallGuard

/-- How the numbers of a format are written: the format, and the number from which on a power of ten
    is written. -/
structure Numerals where
  format : Binary
  bound : Nat

namespace Numerals

/-- Numbers below this one are written with a power of ten. -/
def least : Rat := 1 / 10000

/-- Digits before and behind a point. -/
def around (d : Digits) : List Char × List Char :=
  let n := d.point.toNat
  if d.point ≤ 0 then (['0'], List.replicate (-d.point).toNat '0' ++ d.digits)
  else if d.digits.length ≤ n then (d.digits ++ List.replicate (n - d.digits.length) '0', [])
  else (d.digits.take n, d.digits.drop n)

/-- A power of ten by its exponent, of at least two digits. -/
def exponent (e : Int) : List Char :=
  let ds := Digits.ofNat e.natAbs
  'e' :: (if e < 0 then '-' else '+') :: List.replicate (2 - ds.length) '0' ++ ds

/-- Digits around a point, with a zero behind it if `pointed` and nothing else is there. -/
def positional (pointed : Bool) (d : Digits) : List Char :=
  match around d with
  | (whole, []) => if pointed then whole ++ ['.', '0'] else whole
  | (whole, part) => whole ++ '.' :: part

/-- Digits behind the leading one, with a power of ten. -/
def scientific (d : Digits) : List Char :=
  match d.digits with
  | [] => []
  | [c] => c :: exponent (d.point - 1)
  | c :: cs => c :: '.' :: cs ++ exponent (d.point - 1)

/-- A number that is not negative. -/
def magnitude (f : Numerals) (pointed : Bool) (m : Rat) : List Char :=
  if m = 0 then positional pointed ⟨['0'], 1⟩
  else
    let d := f.format.shortest m
    if least ≤ m ∧ m < f.bound then positional pointed d else scientific d

/-- A number with its sign. -/
def chars (f : Numerals) (pointed : Bool) : Real → List Char
  | .nan => ['n', 'a', 'n']
  | .infinite negative => (if negative then ['-'] else []) ++ ['i', 'n', 'f']
  | .finite negative m => (if negative then ['-'] else []) ++ f.magnitude pointed m

/-- A number as a text. A whole number has a zero behind its point. -/
def text (f : Numerals) (r : Real) : String := String.ofList (f.chars true r)

/-- A number as the part of a complex number. A whole number has no point. -/
def bare (f : Numerals) (r : Real) : String := String.ofList (f.chars false r)

/-- The parts of a complex number side by side, and the imaginary part alone if the real one is positive
    zero. -/
def parts (f : Numerals) (re im : Real) : String :=
  if re = .zero then f.bare im ++ "j"
  else f.bare re ++ (if im.isNegative then "" else "+") ++ f.bare im ++ "j"

/-- A complex number: its parts in parentheses where both are written. -/
def complex (f : Numerals) (re im : Real) : String :=
  if re = .zero then f.parts re im else "(" ++ f.parts re im ++ ")"

/-- Numbers of 64 bits are written with a power of ten from ten to the sixteenth on. -/
def double : Numerals := ⟨.double, 10000000000000000⟩

end Numerals
end CallGuard
