import CallGuard.Text.DecimalDigit
import CallGuard.Text.Quoted

/-! The layout of a text in a field: a fill character, an alignment, a least width and a greatest
    length. A layout is read from a short specification whose parts stand in a fixed order,
    `[[fill]align][sign][z][#][0][width][grouping][.precision][type]`; parts that only numbers have are
    read and refused. -/

namespace CallGuard.Text

/-- Where a text stands in a wider field. -/
inductive Alignment
  | left
  | right
  | centre
  | afterSign
  deriving DecidableEq

/-- The layout of a text in a field. -/
structure Layout where
  fill : Char
  align : Alignment
  width : Nat
  precision : Option Nat

/-- Why a specification describes no layout of a text. -/
inductive LayoutFault
  | unknownType (type : Char)
  | missingPrecision
  | trailing (specification : String)
  | tooLong
  | bothGroupings
  | grouping (mark type : Char)
  | space
  | sign
  | zero
  | alternate
  | afterSign

namespace LayoutFault

/-- A type character in a message: as it is if it is a character of ASCII behind the space, else by
    its number. -/
def shownType (c : Char) : String :=
  if 32 < c.toNat ∧ c.toNat < 128 then String.singleton c else "\\x" ++ String.ofList (hexNumber c.toNat)

/-- The wording of a fault. -/
def message : LayoutFault → String
  | unknownType c => "Unknown format code '" ++ shownType c ++ "' for object of type 'str'"
  | missingPrecision => "Format specifier missing precision"
  | trailing s => "Invalid format specifier '" ++ s ++ "' for object of type 'str'"
  | tooLong => "Too many decimal digits in format string"
  | bothGroupings => "Cannot specify both ',' and '_'."
  | grouping m c => "Cannot specify '" ++ String.singleton m ++ "' with '" ++ shownType c ++ "'."
  | space => "Space not allowed in string format specifier"
  | sign => "Sign not allowed in string format specifier"
  | zero => "Negative zero coercion (z) not allowed in string format specifier"
  | alternate => "Alternate form (#) not allowed in string format specifier"
  | afterSign => "'=' alignment not allowed in string format specifier"

end LayoutFault

/-- The greatest number that a specification may hold. -/
def greatestCount : Nat := Nat.pow 2 63 - 1

/-- The number that starts a specification, read on from a first part, and what follows it. No number
    is above the greatest count. -/
def readCount : Nat → List Char → Except LayoutFault (Nat × List Char)
  | n, [] => .ok (n, [])
  | n, c :: cs =>
    match digitValue? c with
    | none => .ok (n, c :: cs)
    | some d => if greatestCount < 10 * n + d then .error .tooLong else readCount (10 * n + d) cs

/-- The number that starts a specification, if one does, and what follows it. -/
def takeCount (cs : List Char) : Except LayoutFault (Option Nat × List Char) :=
  match cs with
  | [] => .ok (none, [])
  | c :: _ =>
    if (digitValue? c).isSome then (readCount 0 cs).map fun r => (some r.1, r.2) else .ok (none, cs)

/-- The alignment that a character stands for. -/
def alignment? : Char → Option Alignment
  | '<' => some .left
  | '>' => some .right
  | '^' => some .centre
  | '=' => some .afterSign
  | _ => none

/-- The fill and the alignment that start a specification. A character is a fill if an alignment
    follows it. -/
def takeAlignment : List Char → Option Char × Option Alignment × List Char
  | f :: a :: cs =>
    match alignment? a, alignment? f with
    | some x, _ => (some f, some x, cs)
    | none, some x => (none, some x, a :: cs)
    | none, none => (none, none, f :: a :: cs)
  | [a] =>
    match alignment? a with
    | some x => (none, some x, [])
    | none => (none, none, [a])
  | [] => (none, none, [])

/-- A character that starts a specification, if it is one of the given. -/
def takeOne (marks : List Char) : List Char → Option Char × List Char
  | c :: cs => if marks.contains c then (some c, cs) else (none, c :: cs)
  | [] => (none, [])

/-- The grouping marks that start a specification: one at most, though a comma is read before an
    underscore. -/
def takeGrouping (cs : List Char) : Except LayoutFault (Option Char × List Char) :=
  let comma := takeOne [','] cs
  let score := takeOne ['_'] comma.2
  match comma.1, score.1 with
  | some _, some _ => .error .bothGroupings
  | none, some m => if score.2.head? = some ',' then .error .bothGroupings else .ok (some m, score.2)
  | m, none => .ok (m, comma.2)

/-- The precision that starts a specification, behind a point. -/
def takePrecision (cs : List Char) : Except LayoutFault (Option Nat × List Char) :=
  match cs with
  | '.' :: rest => do
    let r ← takeCount rest
    if r.1.isNone then throw .missingPrecision
    return r
  | _ => .ok (none, cs)

/-- Whether numbers of this type, the closing character of a specification, can be grouped by a mark. -/
def groups (mark type : Char) : Bool :=
  "deEfFgG%\x00".toList.contains type || (mark == '_' && "boxX".toList.contains type)

/-- The layout that a specification describes. -/
def Layout.parse (specification : String) : Except LayoutFault Layout := do
  let (fill, align, cs) := takeAlignment specification.toList
  let (sign, cs) := takeOne [' ', '+', '-'] cs
  let (zero, cs) := takeOne ['z'] cs
  let (alternate, cs) := takeOne ['#'] cs
  let (padding, cs) := if fill.isNone then takeOne ['0'] cs else (none, cs)
  let (width, cs) ← takeCount cs
  let (grouping, cs) ← takeGrouping cs
  let (precision, cs) ← takePrecision cs
  let type ← match cs with
    | [] => pure 's'
    | [c] => pure c
    | _ => throw (.trailing specification)
  if let some m := grouping then
    unless groups m type do throw (.grouping m type)
  unless type == 's' do throw (.unknownType type)
  if let some s := sign then
    throw (if s == ' ' then .space else .sign)
  if zero.isSome then throw .zero
  if alternate.isSome then throw .alternate
  if align == some .afterSign then throw .afterSign
  return ⟨(fill <|> padding).getD ' ', align.getD .left, width.getD 0, precision⟩

/-- A text in its field: cut to the precision, then filled up to the width. Of two uneven halves the
    right one is the longer. -/
def Layout.apply (l : Layout) (s : String) : String :=
  let cs := match l.precision with
    | some p => s.toList.take p
    | none => s.toList
  let room := l.width - cs.length
  let before := match l.align with
    | .right => room
    | .centre => room / 2
    | _ => 0
  String.ofList (List.replicate before l.fill ++ cs ++ List.replicate (room - before) l.fill)

end CallGuard.Text
