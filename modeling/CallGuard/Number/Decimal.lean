import CallGuard.Number.Binary
import CallGuard.Number.Shortest

/-! Decimal numbers: a sign, a coefficient and a power of ten, so that `1.10` and `1.1` are written
    apart; the infinities; and the two kinds of undefined number, quiet and signalling, with a payload.
    Only a comparison tells the two kinds apart, for a signalling one cannot be compared. A number goes
    through any coefficient; the result of an operation has at most 28 digits. -/

namespace CallGuard

/-- A decimal number. -/
inductive Decimal
  | finite (negative : Bool) (coefficient : Nat) (exponent : Int)
  | infinite (negative : Bool)
  | nan (negative signalling : Bool) (payload : Nat)
  deriving DecidableEq

/-- Why a decimal number cannot be read or computed: what is written is none, an operation has no
    result, or its result is too great. -/
inductive DecimalFault
  | unreadable
  | invalid
  | overflow
  deriving DecidableEq

namespace DecimalFault

/-- The name of the class of a fault. -/
def className : DecimalFault → String
  | unreadable => "InvalidOperation"
  | invalid => "InvalidOperation"
  | overflow => "Overflow"

/-- The condition that a fault signals. -/
def condition : DecimalFault → String
  | unreadable => "ConversionSyntax"
  | invalid => "InvalidOperation"
  | overflow => "Overflow"

/-- The wording of a fault: the conditions signalled, in a list. -/
def message (f : DecimalFault) : String := "[<class 'decimal." ++ f.condition ++ "'>]"

end DecimalFault

namespace Decimal

/-- The decimal digits of a natural number, without leading zeros. -/
def digits (n : Nat) : List Char := Nat.toDigits 10 n

/-- Whether the number is undefined, in either kind. -/
def isNaN : Decimal → Bool
  | nan .. => true
  | _ => false

/-- Whether the number is a signalling undefined number. -/
def isSignalling : Decimal → Bool
  | nan _ signalling _ => signalling
  | _ => false

/-- Whether the number is a zero, of either sign and any exponent. -/
def isZero : Decimal → Bool
  | finite _ c _ => c == 0
  | _ => false

/-- The exponent of the leading digit. -/
def leading (c : Nat) (e : Int) : Int := e + (digits c).length - 1

/-- The power of ten up to which numbers stand as quotients. -/
def reach : Nat := 20000

/-- The place of the number on the extended line. -/
def extended : Decimal → Extended
  | finite negative c e =>
    if c = 0 then .zero
    else if (leading c e).natAbs ≤ reach ∧ e.natAbs ≤ 2 * reach then
      let m : Rat := c * scale 10 e
      .finite (if negative then -m else m)
    else
      let ds := Digits.trimmed (digits c)
      .remote negative (ds.foldl (fun n d => 10 * n + (d.toNat - 48)) 0) (leading c e)
  | infinite negative => .infinite negative
  | nan .. => .undefined

/-! ### Results of operations -/

/-- The number of digits of a result. -/
def precision : Nat := 28

/-- The greatest exponent of the leading digit of a result, and the least one, with a minus. -/
def greatestExponent : Nat := 999999

/-- The least exponent of a result. -/
def leastExponent : Int := -(greatestExponent : Int) - (precision - 1 : Nat)

/-- A coefficient without its last digits, rounded to the nearest number, halves to the even one. -/
def shorten (c : Nat) (drop : Nat) : Nat :=
  if (digits c).length + 1 < drop then 0 else Binary.nearestNat c (Nat.pow 10 drop)

/-- A finite number as the result of an operation: of at most 28 digits, and of a limited exponent. -/
def result (negative : Bool) (c : Nat) (e : Int) : Except DecimalFault Decimal :=
  if c = 0 then .ok (finite negative 0 (max leastExponent (min e greatestExponent)))
  else
    let least := max (e + (digits c).length - precision) leastExponent
    let (n, k) := if e < least then (shorten c (least - e).toNat, least) else (c, e)
    let (n, k) := if precision < (digits n).length then (n / 10, k + 1) else (n, k)
    if greatestExponent < leading n k then .error .overflow else .ok (finite negative n k)

/-- An undefined number as the result of an operation: a signalling one is refused, of a payload the
    last digits are kept. -/
def undefinedResult (negative signalling : Bool) (payload : Nat) : Except DecimalFault Decimal :=
  if signalling then .error .invalid else .ok (nan negative false (payload % Nat.pow 10 precision))

/-- The number without its sign, rounded. An undefined number keeps its sign. -/
def abs : Decimal → Except DecimalFault Decimal
  | finite _ c e => result false c e
  | infinite _ => .ok (infinite false)
  | nan negative signalling payload => undefinedResult negative signalling payload

/-- The undefined result of an operation on two numbers, if one of them is undefined: a signalling one
    counts first, then the left one. -/
def undefinedOf? : Decimal → Decimal → Option (Except DecimalFault Decimal)
  | nan s q p, nan _ r _ => some (undefinedResult s (q || r) p)
  | nan s q p, _ => some (undefinedResult s q p)
  | _, nan s q p => some (undefinedResult s q p)
  | _, _ => none

/-- The number with the other sign. -/
def negate : Decimal → Decimal
  | finite s c e => finite (!s) c e
  | infinite s => infinite (!s)
  | nan s q p => nan s q p

/-- The sum of two finite numbers. A number far below the last digit of the other is only seen by its
    sign, so it is moved up to just below that digit. -/
def addFinite (s : Bool) (c : Nat) (e : Int) (t : Bool) (d : Nat) (f : Int) : Except DecimalFault Decimal :=
  let near (c : Nat) (e : Int) (d : Nat) (f : Int) : Nat × Int :=
    if d ≠ 0 ∧ c ≠ 0 ∧ leading d f + precision + 2 < min e (leading c e - precision) then
      (1, min e (leading c e - precision) - precision - 2)
    else (d, f)
  let (d', f') := near c e d f
  let (c', e') := near d f c e
  let k := min e' f'
  let a : Int := c' * Nat.pow 10 (e' - k).toNat
  let b : Int := d' * Nat.pow 10 (f' - k).toNat
  let n := (if s then -a else a) + (if t then -b else b)
  if n = 0 then result (s && t) 0 k else result (decide (n < 0)) n.natAbs k

/-- The sum of two numbers. -/
def add (x y : Decimal) : Except DecimalFault Decimal :=
  match undefinedOf? x y with
  | some r => r
  | none =>
    match x, y with
    | infinite s, infinite t => if s = t then .ok (infinite s) else .error .invalid
    | infinite s, _ => .ok (infinite s)
    | _, infinite t => .ok (infinite t)
    | finite s c e, finite t d f => addFinite s c e t d f
    | _, _ => .error .invalid

/-- The product of two numbers. -/
def multiply (x y : Decimal) : Except DecimalFault Decimal :=
  match undefinedOf? x y with
  | some r => r
  | none =>
    match x, y with
    | finite s c e, finite t d f => result (s != t) (c * d) (e + f)
    | infinite s, infinite t => .ok (infinite (s != t))
    | infinite s, finite t d _ => if d = 0 then .error .invalid else .ok (infinite (s != t))
    | finite s c _, infinite t => if c = 0 then .error .invalid else .ok (infinite (s != t))
    | _, _ => .error .invalid

/-! ### Writing -/

/-- An integer with its sign, also where that is plus. -/
def signed (e : Int) : List Char :=
  (if e < 0 then '-' else '+') :: digits e.natAbs

/-- Where the point stands among the digits of a coefficient: behind all `left` digits where that needs
    no power of ten and at most five zeros after the point, else behind the first digit. -/
def pointPlace (exponent left : Int) : Int :=
  if exponent ≤ 0 ∧ -6 < left then left else 1

/-- The digits of a coefficient with a point behind the first `place` digits. -/
def pointed (ds : List Char) (place : Int) : List Char :=
  if place ≤ 0 then '0' :: '.' :: List.replicate (-place).toNat '0' ++ ds
  else
    let n := place.toNat
    if ds.length ≤ n then ds ++ List.replicate (n - ds.length) '0'
    else ds.take n ++ '.' :: ds.drop n

/-- The number in scientific notation. -/
def text : Decimal → String
  | finite negative c e =>
    let ds := digits c
    let left := e + ds.length
    let place := pointPlace e left
    let power := if left = place then [] else 'E' :: signed (left - place)
    String.ofList ((if negative then ['-'] else []) ++ pointed ds place ++ power)
  | infinite negative => (if negative then "-" else "") ++ "Infinity"
  | nan negative signalling payload =>
    (if negative then "-" else "") ++ (if signalling then "sNaN" else "NaN")
      ++ (if payload = 0 then "" else String.ofList (digits payload))

end Decimal
end CallGuard
