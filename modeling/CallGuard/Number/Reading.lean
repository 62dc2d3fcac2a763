import CallGuard.Number.Decimal
import CallGuard.Number.Real
import CallGuard.Text.DecimalDigit

/-! Reading numbers from text: decimal numbers, binary numbers and integers in a base. White space at the
    ends is left out, the digits of all scripts count, and underscores may stand between digits. -/

namespace CallGuard

namespace Numeral

/-- Whether a character is a decimal digit of ASCII. -/
def isDigit (c : Char) : Bool := decide (48 ≤ c.toNat) && decide (c.toNat ≤ 57)

/-- The number that a list of decimal digits writes. -/
def ofDigits (cs : List Char) : Nat := cs.foldl (fun n c => 10 * n + (c.toNat - 48)) 0

/-- A sign in front of a text: whether it is a minus, and what follows it. -/
def takeSign : List Char → Bool × List Char
  | '-' :: cs => (true, cs)
  | '+' :: cs => (false, cs)
  | cs => (false, cs)

/-- A number of digits with at most one point and a power of ten: its coefficient and its exponent. -/
structure Scaled where
  coefficient : Nat
  exponent : Int

/-- The power of ten that closes a number, or nothing at its end. -/
def readPower : List Char → Option Int
  | [] => some 0
  | c :: cs =>
    let r := takeSign cs
    if c = 'e' ∧ r.2 ≠ [] ∧ r.2.all isDigit then
      some (if r.1 then -(ofDigits r.2 : Int) else ofDigits r.2)
    else none

/-- The digits before and after a point, and what follows them. -/
def takePointed (cs : List Char) : List Char × List Char × List Char :=
  match cs.dropWhile isDigit with
  | '.' :: rest => (cs.takeWhile isDigit, rest.takeWhile isDigit, rest.dropWhile isDigit)
  | rest => (cs.takeWhile isDigit, [], rest)

/-- The number that a text in lower case writes. -/
def readScaled (cs : List Char) : Option Scaled :=
  let (whole, part, rest) := takePointed cs
  if whole.isEmpty && part.isEmpty then none
  else (readPower rest).map fun e => ⟨ofDigits (whole ++ part), e - part.length⟩

/-- The text without underscores, each of which stands between two digits. The character in front of the
    text is given. -/
def joined? (isDigit : Char → Bool) (before : Char) : List Char → Option (List Char)
  | [] => if before = '_' then none else some []
  | c :: cs =>
    if c = '_' then (if isDigit before then joined? isDigit c cs else none)
    else if before = '_' ∧ !isDigit c then none
    else (joined? isDigit c cs).map (c :: ·)

end Numeral

namespace Decimal

/-- The greatest exponent of a leading digit that is read. -/
def greatestRead : Nat := 999999999999999999

/-- The least exponent that is read. -/
def leastRead : Int := -1999999999999999997

/-- A number without its sign, in lower case. -/
def readUnsigned (negative : Bool) (cs : List Char) : Except DecimalFault Decimal :=
  if cs = "inf".toList ∨ cs = "infinity".toList then .ok (infinite negative)
  else
    match cs with
    | 'n' :: 'a' :: 'n' :: ds =>
      if ds.all Numeral.isDigit then .ok (nan negative false (Numeral.ofDigits ds)) else .error .unreadable
    | 's' :: 'n' :: 'a' :: 'n' :: ds =>
      if ds.all Numeral.isDigit then .ok (nan negative true (Numeral.ofDigits ds)) else .error .unreadable
    | _ =>
      match Numeral.readScaled cs with
      | none => .error .unreadable
      | some n =>
        if leading n.coefficient n.exponent > greatestRead ∨ n.exponent < leastRead then .error .invalid
        else .ok (finite negative n.coefficient n.exponent)

/-- The number that a text writes: digits with at most one point and a power of ten, an infinity, or
    an undefined number with its payload, after an optional sign and in either case. Underscores are
    left out wherever they stand. -/
def read (s : String) : Except DecimalFault Decimal :=
  let r := Numeral.takeSign (((Text.numeral s).filter (· != '_')).map Char.toLower)
  readUnsigned r.1 r.2

end Decimal

namespace Real

/-- The power of ten from which on all numbers are infinite, or zero below its inverse. -/
def reach : Int := 20000

/-- A number without its sign, in lower case. -/
def readUnsigned (negative : Bool) (cs : List Char) : Option Real :=
  if cs = "inf".toList ∨ cs = "infinity".toList then some (infinite negative)
  else if cs = "nan".toList then some nan
  else
    (Numeral.readScaled cs).map fun n =>
      if n.coefficient = 0 ∨ Decimal.leading n.coefficient n.exponent < -reach then finite negative 0
      else if reach < Decimal.leading n.coefficient n.exponent then infinite negative
      else finite negative (n.coefficient * scale 10 n.exponent)

/-- The number that a text writes, not yet rounded to a format. -/
def read? (s : String) : Option Real :=
  (Numeral.joined? Numeral.isDigit ' ' ((Text.numeral s).map Char.toLower)).bind fun cs =>
    let r := Numeral.takeSign cs
    readUnsigned r.1 r.2

end Real

namespace Numeral

/-- The value of a digit or letter as a digit. -/
def value? (c : Char) : Option Nat :=
  let n := c.toNat
  if 48 ≤ n ∧ n ≤ 57 then some (n - 48)
  else if 97 ≤ n ∧ n ≤ 122 then some (n - 87)
  else none

/-- Whether a character is a digit in a base. -/
def isDigitIn (base : Nat) (c : Char) : Bool := (value? c).any fun n => decide (n < base)

/-- The base that a text announces, with the letter behind a zero, and the text behind the letter. -/
def takeBase : List Char → Option (Nat × List Char)
  | '0' :: 'x' :: cs => some (16, cs)
  | '0' :: 'o' :: cs => some (8, cs)
  | '0' :: 'b' :: cs => some (2, cs)
  | _ => none

/-- The base in which a text in lower case is read, and its digits. A base of zero is the one that the
    text announces, and ten if it announces none. An underscore may follow the letter. -/
def basedDigits (base : Nat) (cs : List Char) : Nat × List Char :=
  match takeBase cs with
  | some (b, rest) =>
    if base = 0 ∨ base = b then
      (b, match rest with
        | '_' :: ds => ds
        | ds => ds)
    else (base, cs)
  | none => (if base = 0 then 10 else base, cs)

/-- Whether digits in a base that the text did not announce start with a zero that says nothing. -/
def isPadded (cs : List Char) : Bool :=
  match cs with
  | '0' :: ds => ds.any (· != '0')
  | _ => false

/-- The digits of an integer without its sign, in the base that they are read in. -/
def integerDigits? (base : Nat) (cs : List Char) : Option (Nat × List Char) :=
  let (b, ds) := basedDigits base cs
  match joined? (isDigitIn b) ' ' ds with
  | none => none
  | some [] => none
  | some ds =>
    if !ds.all (isDigitIn b) || (base == 0 && b == 10 && isPadded ds) then none else some (b, ds)

/-- The number of decimal digits that are read at most. -/
def greatestCount : Nat := 4300

/-- Why a text writes no integer. -/
inductive Fault
  | unreadable
  | tooLong (count : Nat)

/-- Whether the digits of a base are as short as binary ones to read. -/
def isBinary (base : Nat) : Bool := [2, 4, 8, 16, 32].contains base

/-- The integer that a text writes in a base: an optional sign and digits. Decimal digits are limited
    in number. -/
def readInteger (base : Nat) (s : String) : Except Fault Int :=
  let r := takeSign ((Text.numeral s).map Char.toLower)
  match integerDigits? base r.2 with
  | none => .error .unreadable
  | some (b, ds) =>
    if !isBinary b && decide (greatestCount < ds.length) then .error (.tooLong ds.length)
    else
      let n : Nat := ds.foldl (fun n c => b * n + (value? c).getD 0) 0
      .ok (if r.1 then -(n : Int) else n)

end Numeral
end CallGuard
