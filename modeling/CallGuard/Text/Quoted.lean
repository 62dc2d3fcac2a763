import CallGuard.Text.Printable

/-! Quoted text, for characters and for octets. The mark is the apostrophe, unless the text holds an
    apostrophe and no double quote. The mark and the backslash are escaped by a backslash, tab, line
    feed and carriage return by their letters, and what is not printable by its hexadecimal number. -/

namespace CallGuard.Text

/-- The apostrophe, the usual quotation mark. -/
def apostrophe : Char := '\x27'

/-- The double quote, the quotation mark of text that holds an apostrophe and no double quote. -/
def doubleQuote : Char := '\x22'

/-- One hexadecimal digit, in lower case. -/
def hexDigit (n : Nat) : Char := Char.ofNat (if n < 10 then 48 + n else 87 + n)

/-- The last `width` hexadecimal digits of a number. -/
def hexDigits : (width : Nat) → Nat → List Char
  | 0, _ => []
  | w + 1, n => hexDigits w (n / 16) ++ [hexDigit (n % 16)]

/-- A number in hexadecimal, without leading zeros. -/
def hexNumber (n : Nat) : List Char :=
  if n < 16 then [hexDigit n] else hexNumber (n / 16) ++ [hexDigit (n % 16)]
termination_by n
decreasing_by omega

@[simp] theorem length_hexDigits (w n : Nat) : (hexDigits w n).length = w := by
  induction w generalizing n with
  | zero => rfl
  | succ w ih => simp [hexDigits, ih]

/-- The escape of a character by its number, in the shortest of the three widths that holds it. -/
def numberEscape (n : Nat) : List Char :=
  if n < 0x100 then '\\' :: 'x' :: hexDigits 2 n
  else if n < 0x10000 then '\\' :: 'u' :: hexDigits 4 n
  else '\\' :: 'U' :: hexDigits 8 n

/-- How a character stands between two marks. -/
def escaped (mark c : Char) : List Char :=
  if c = mark ∨ c = '\\' then ['\\', c]
  else if c = '\t' then ['\\', 't']
  else if c = '\n' then ['\\', 'n']
  else if c = '\r' then ['\\', 'r']
  else if isPrintable c then [c]
  else numberEscape c.toNat

/-- The mark for a text with these characters. -/
def markFor (cs : List Char) : Char :=
  if apostrophe ∈ cs ∧ doubleQuote ∉ cs then doubleQuote else apostrophe

/-- A list of characters between its marks. -/
def quotedChars (cs : List Char) : List Char :=
  markFor cs :: cs.flatMap (escaped (markFor cs)) ++ [markFor cs]

/-- A text between its marks. -/
def quoted (s : String) : String := String.ofList (quotedChars s.toList)

/-- How an octet stands between two marks: octets outside the graphic half of ASCII by their number. -/
def escapedOctet (mark : Char) (b : UInt8) : List Char :=
  let c := Char.ofNat b.toNat
  if c = mark ∨ c = '\\' then ['\\', c]
  else if c = '\t' then ['\\', 't']
  else if c = '\n' then ['\\', 'n']
  else if c = '\r' then ['\\', 'r']
  else if 32 ≤ b.toNat ∧ b.toNat < 127 then [c]
  else '\\' :: 'x' :: hexDigits 2 b.toNat

/-- Octets between their marks, after the letter that tells them from text. -/
def quotedOctets (bs : List UInt8) : String :=
  let mark := markFor (bs.map fun b => Char.ofNat b.toNat)
  String.ofList ('b' :: mark :: bs.flatMap (escapedOctet mark) ++ [mark])

end CallGuard.Text
