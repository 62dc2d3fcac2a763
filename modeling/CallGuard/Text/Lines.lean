/-! Lines of a text. A line ends at a line break, at the end of the text, or at a carriage return with
    the line feed behind it, which break one line together. Blank characters are the white space of the
    Unicode Character Database with the four information separators; all line breaks are blank
    (`isBlank_of_isLineBreak`), not the other way round. -/

namespace CallGuard.Text

/-- Whether a character ends a line. -/
def isLineBreak (c : Char) : Bool :=
  [0x0a, 0x0b, 0x0c, 0x0d, 0x1c, 0x1d, 0x1e, 0x85, 0x2028, 0x2029].contains c.toNat

/-- Whether a character is white space. -/
def isBlank (c : Char) : Bool :=
  let n := c.toNat
  decide (0x09 ≤ n ∧ n ≤ 0x0d) || decide (0x1c ≤ n ∧ n ≤ 0x20) || n == 0x85 || n == 0xa0 || n == 0x1680
    || decide (0x2000 ≤ n ∧ n ≤ 0x200a) || n == 0x2028 || n == 0x2029 || n == 0x202f || n == 0x205f
    || n == 0x3000

theorem isBlank_of_isLineBreak {c : Char} (h : isLineBreak c = true) : isBlank c = true := by
  simp only [isLineBreak, List.contains_cons, List.contains_nil, Bool.or_eq_true, beq_iff_eq,
    Bool.or_false] at h
  unfold isBlank
  generalize c.toNat = n at h
  rcases h with h | h | h | h | h | h | h | h | h | h <;> subst h <;> decide

/-- The lines of a text, without what ends them. A text that ends at a line break has no empty line
    behind it. -/
def lines : List Char → List (List Char)
  | [] => []
  | '\r' :: '\n' :: cs => [] :: lines cs
  | c :: cs =>
    if isLineBreak c then [] :: lines cs
    else
      match lines cs with
      | [] => [[c]]
      | l :: ls => (c :: l) :: ls

/-- The text with each carriage return, alone or before a line feed, as a line feed. -/
def unifyBreaks : List Char → List Char
  | [] => []
  | '\r' :: '\n' :: cs => '\n' :: unifyBreaks cs
  | '\r' :: cs => '\n' :: unifyBreaks cs
  | c :: cs => c :: unifyBreaks cs

/-- The text without the white space at its ends. -/
def trim (cs : List Char) : List Char :=
  ((cs.dropWhile isBlank).reverse.dropWhile isBlank).reverse

/-- Whether a text starts with another, which is taken off. -/
def dropStart? : (start : List Char) → List Char → Option (List Char)
  | [], cs => some cs
  | _ :: _, [] => none
  | s :: ss, c :: cs => if s = c then dropStart? ss cs else none

@[simp] theorem lines_nil : lines [] = [] := rfl

@[simp] theorem trim_nil : trim [] = [] := rfl

theorem dropStart?_eq_some_iff {s cs r : List Char} : dropStart? s cs = some r ↔ cs = s ++ r := by
  induction s generalizing cs with
  | nil => simp [dropStart?]
  | cons a s ih =>
    cases cs with
    | nil => simp [dropStart?]
    | cons c cs =>
      by_cases h : a = c
      · subst h; simp [dropStart?, ih]
      · simp [dropStart?, h, Ne.symm h]

end CallGuard.Text
