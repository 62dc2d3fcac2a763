/-! Rows of words that are broken into lines. A word that would pass the width goes to a line of its own,
    unless it stands at the start of its line already; a line that continues a row is indented. -/

namespace CallGuard.Text

/-- The lines of a row so far, without the current one, and the current line. -/
structure Row where
  lines : List (List Char)
  line : List Char

namespace Row

/-- A line without the blanks at its end. -/
def trimEnd (cs : List Char) : List Char := (cs.reverse.dropWhile (· == ' ')).reverse

/-- A row before its first word, which stands behind the indent of the other lines. -/
def start (indent : Nat) : Row := ⟨[], List.replicate indent ' '⟩

/-- A row with one more word. -/
def push (indent width : Nat) (r : Row) (word : List Char) : Row :=
  if width < r.line.length + word.length ∧ indent < r.line.length then
    ⟨r.lines ++ [trimEnd r.line], List.replicate indent ' ' ++ word⟩
  else { r with line := r.line ++ word }

/-- A row with more words, each with a separator behind it but the last. -/
def pushAll (indent width : Nat) (separator : List Char) : Row → List (List Char) → Row
  | r, [] => r
  | r, [w] => r.push indent width w
  | r, w :: ws =>
    let r' := r.push indent width w
    pushAll indent width separator { r' with line := r'.line ++ separator } ws

/-- The characters of a row, its lines joined by line breaks, from behind the first indent on. -/
def chars (indent : Nat) (r : Row) : List Char :=
  (List.intercalate ['\n'] (r.lines ++ [r.line])).drop indent

/-- Words in a row, with a separator between them, in lines of at most a width. -/
def ofWords (indent width : Nat) (separator : String) (words : List String) : String :=
  String.ofList
    ((pushAll indent width separator.toList (start indent) (words.map String.toList)).chars indent)

end Row
end CallGuard.Text
