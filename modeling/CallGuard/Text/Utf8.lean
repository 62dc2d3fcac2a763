import CallGuard.Text.Quoted

/-! Text in octets, by UTF-8. The first octet of a character says how many follow it and in which range
    the next one lies; all others lie between `0x80` and `0xbf`. What does not decode is refused at the
    first character that is wrong, with the count of its octets that could have started one. -/

namespace CallGuard.Text.Utf8

/-- Why octets are no text. -/
inductive Reason
  | start
  | continuation
  | ended
  deriving DecidableEq

/-- The wording of a reason. -/
def Reason.text : Reason → String
  | start => "invalid start byte"
  | continuation => "invalid continuation byte"
  | ended => "unexpected end of data"

/-- The first wrong character: where it starts, its first octet, and how many of its octets could have
    started a character. -/
structure Fault where
  position : Nat
  first : UInt8
  length : Nat
  reason : Reason
  deriving DecidableEq

/-- The wording of a fault. -/
def Fault.message (f : Fault) : String :=
  "'utf-8' codec can't decode " ++
    (if f.length ≤ 1 then "byte 0x" ++ String.ofList (hexDigits 2 f.first.toNat) ++ " in position " ++ toString f.position
    else "bytes in position " ++ toString f.position ++ "-" ++ toString (f.position + f.length - 1))
    ++ ": " ++ f.reason.text

/-- A character of which some octets are still to come. -/
structure Pending where
  position : Nat
  first : UInt8
  length : Nat
  more : Nat
  low : Nat
  high : Nat
  value : Nat

/-- The character that an octet starts, if it is the first of several. -/
def pending? (position : Nat) (b : UInt8) : Option Pending :=
  let n := b.toNat
  let opened (more low high value : Nat) : Option Pending := some ⟨position, b, 1, more, low, high, value⟩
  if n < 0xc2 then none
  else if n < 0xe0 then opened 1 0x80 0xbf (n - 0xc0)
  else if n = 0xe0 then opened 2 0xa0 0xbf 0
  else if n = 0xed then opened 2 0x80 0x9f 0xd
  else if n < 0xf0 then opened 2 0x80 0xbf (n - 0xe0)
  else if n = 0xf0 then opened 3 0x90 0xbf 0
  else if n < 0xf4 then opened 3 0x80 0xbf (n - 0xf0)
  else if n = 0xf4 then opened 3 0x80 0x8f 4
  else none

/-- The pending character with one more octet. -/
def Pending.push (p : Pending) (b : UInt8) : Pending :=
  ⟨p.position, p.first, p.length + 1, p.more - 1, 0x80, 0xbf, 64 * p.value + b.toNat % 64⟩

/-- The fault of a pending character. -/
def Pending.fault (p : Pending) (r : Reason) : Fault := ⟨p.position, p.first, p.length, r⟩

/-- The characters of octets that stand from a position on, behind those of a pending character. -/
def decodeFrom : Nat → Option Pending → List UInt8 → Except Fault (List Char)
  | _, none, [] => .ok []
  | _, some p, [] => .error (p.fault .ended)
  | n, none, b :: bs =>
    if b.toNat < 0x80 then (decodeFrom (n + 1) none bs).map (Char.ofNat b.toNat :: ·)
    else
      match pending? n b with
      | none => .error ⟨n, b, 1, .start⟩
      | some p => decodeFrom (n + 1) (some p) bs
  | n, some p, b :: bs =>
    if p.low ≤ b.toNat ∧ b.toNat ≤ p.high then
      if p.more ≤ 1 then (decodeFrom (n + 1) none bs).map (Char.ofNat (p.push b).value :: ·)
      else decodeFrom (n + 1) (some (p.push b)) bs
    else .error (p.fault .continuation)

/-- The text of octets. -/
def decode (bs : List UInt8) : Except Fault (List Char) := decodeFrom 0 none bs

end CallGuard.Text.Utf8
