import CallGuard.Text.Row
import CallGuard.Value.Scalar

/-! One-dimensional arrays of scalars, and how they are written. The elements of an array are written to
    one width, real numbers with their points below each other and to eight digits behind them; long
    arrays are broken into lines, and of very long ones only the elements at both ends are written. -/

namespace CallGuard

/-- A one-dimensional array: the name of its element type and its elements. -/
structure Grid where
  element : String
  items : List Scalar
  deriving DecidableEq

namespace Grid

/-- An array of elements. Where there are none to tell that they are texts, it is one of real numbers. -/
def ofItems (element : String) (items : List Scalar) : Grid :=
  if element = "str" ∧ items.isEmpty then ⟨"float64", []⟩ else ⟨element, items⟩

/-- The number of elements from which on only those at the ends are written. -/
def threshold : Nat := 1000

/-- The number of elements written at each end of a very long array. -/
def edge : Nat := 3

/-- Whether only the elements at the ends are written. -/
def isSummarised (g : Grid) : Bool := decide (threshold < g.items.length)

/-- The elements that are written. -/
def writtenElements (g : Grid) : List Scalar :=
  if g.isSummarised then g.items.take edge ++ g.items.drop (g.items.length - edge) else g.items

/-! ### Real elements -/

/-- The digits behind a point that are written at most. -/
def places : Nat := 8

/-- A positive number to a count of digits behind the point: the fewest that tell it apart where they
    are not more. -/
def roundedTo (places : Nat) (b : Binary) (m : Rat) : Digits :=
  let d := b.shortest m
  if (d.digits.length : Int) - d.point ≤ places then d
  else
    let unit := scale 10 places
    let q := m * unit
    Digits.ofScaled (Binary.nearestNat q.num.natAbs q.den) (-(places : Int))

/-- How real numbers are written below each other: in a binary format, with a plus in front of those that
    have no minus or not, with a power of ten or without, with their points at one place, and as many
    digits behind it. -/
structure Columns where
  format : Binary
  plus : Bool
  scientific : Bool
  before : Nat
  behind : Nat
  power : Nat

/-- The magnitudes of the finite numbers among real numbers. -/
def magnitudes (rs : List Real) : List Rat :=
  rs.filterMap fun r => match r with
    | .finite _ m => some m
    | _ => none

/-- The least number of a format that is written without a power of ten: the one nearest to the double
    that is. -/
def leastOf (b : Binary) : Real := ((Real.finite false Numerals.least).round .double).round b

/-- Whether a magnitude is below a number. -/
def isBelow (q : Rat) : Real → Bool
  | .finite _ m => decide (q < m)
  | _ => true

/-- Whether numbers are written with powers of ten: one of them is great or small, or one is, in their
    format, more than a thousand times another. -/
def needsPower (b : Binary) (bound : Nat) (rs : List Real) : Bool :=
  match (magnitudes rs).filter (· != 0) with
  | [] => false
  | m :: ms =>
    let most := ms.foldl (fun p q => if p < q then q else p) m
    let least := ms.foldl (fun p q => if q < p then q else p) m
    decide ((bound : Rat) ≤ most) || isBelow least (leastOf b)
      || isBelow 1000 ((Real.finite false (most / least)).round b)

/-- The sign of a number: a minus, or the plus that may stand in its place. -/
def signChars (plus negative : Bool) : List Char := if negative then ['-'] else if plus then ['+'] else []

/-- The characters before and behind the point of a number without a power of ten. -/
def pointedParts (b : Binary) (plus negative : Bool) (m : Rat) : List Char × List Char :=
  let sign := signChars plus negative
  if m = 0 then (sign ++ ['0'], [])
  else
    let d := roundedTo places b m
    if d.digits.isEmpty then (sign ++ ['0'], [])
    else
      let p := Numerals.around d
      (sign ++ p.1, p.2)

/-- The characters before and behind the point of a number with a power of ten, and the power. -/
def scientificParts (b : Binary) (plus negative : Bool) (m : Rat) : List Char × List Char × Int :=
  let sign := signChars plus negative
  if m = 0 then (sign ++ ['0'], [], 0)
  else
    let d := b.shortest m
    let point := d.point
    let d := if d.digits.length ≤ places + 1 then d
      else
        let q := m / scale 10 (point - 1) * scale 10 places
        Digits.ofScaled (Binary.nearestNat q.num.natAbs q.den) (point - 1 - places)
    (sign ++ d.digits.take 1, d.digits.drop 1, d.point - 1)

/-- The greatest of some lengths. -/
def greatest (ns : List Nat) : Nat := ns.foldl max 0

/-- The digits of a power of ten, at least two. -/
def powerDigits (e : Int) : List Char :=
  let ds := Digits.ofNat e.natAbs
  List.replicate (2 - ds.length) '0' ++ ds

/-- The characters of an infinity or of the number that stands for no number. -/
def wordOf (plus : Bool) (r : Real) : List Char := signChars plus r.isNegative ++ Numerals.double.chars true r.abs

/-- How real numbers are written below each other. -/
def columns (b : Binary) (plus : Bool) (bound : Nat) (rs : List Real) : Columns :=
  let finite := rs.filterMap fun r => match r with
    | .finite negative m => some (negative, m)
    | _ => none
  let others := rs.filterMap fun r => match r with
    | .finite _ _ => none
    | r => some (wordOf plus r).length
  let fit (before behind : Nat) : Nat := greatest (before :: others.map (· - (behind + 1)))
  if needsPower b bound rs then
    let parts := finite.map fun f => scientificParts b plus f.1 f.2
    let behind := greatest (parts.map fun p => p.2.1.length)
    let power := greatest (parts.map fun p => (powerDigits p.2.2).length)
    ⟨b, plus, true, fit (greatest (parts.map fun p => p.1.length)) (power + 2 + behind), behind, power⟩
  else
    let parts := finite.map fun f => pointedParts b plus f.1 f.2
    let behind := greatest (parts.map fun p => p.2.length)
    ⟨b, plus, false, fit (greatest (parts.map fun p => p.1.length)) behind, behind, 0⟩

/-- Characters with blanks in front, to a width. -/
def padLeft (width : Nat) (cs : List Char) : List Char := List.replicate (width - cs.length) ' ' ++ cs

/-- Characters with a filling behind, to a width. -/
def padRight (width : Nat) (fill : Char) (cs : List Char) : List Char :=
  cs ++ List.replicate (width - cs.length) fill

/-- A real number below the others. -/
def Columns.write (c : Columns) (r : Real) : List Char :=
  match r with
  | .finite negative m =>
    if c.scientific then
      let (whole, part, e) := scientificParts c.format c.plus negative m
      let ds := Digits.ofNat e.natAbs
      padLeft c.before whole ++ '.' :: padRight c.behind '0' part ++ 'e' :: (if e < 0 then '-' else '+')
        :: List.replicate (c.power - ds.length) '0' ++ ds
    else
      let (whole, part) := pointedParts c.format c.plus negative m
      padLeft c.before whole ++ '.' :: padRight c.behind ' ' part
  | r =>
    let width := c.before + 1 + c.behind + (if c.scientific then c.power + 2 else 0)
    padLeft width (wordOf c.plus r)

/-- The imaginary part of a complex number: its unit stands directly behind the digits. -/
def withUnit (cs : List Char) : List Char :=
  let bare := Text.Row.trimEnd cs
  bare ++ 'j' :: List.replicate (cs.length - bare.length) ' '

/-! ### Whole arrays -/

/-- The width of the real elements of an array of an element type. -/
def realWidth? (element : String) : Option Width := Width.all.find? fun w => w.realName == element

/-- The width of the complex elements of an array of an element type. -/
def complexWidth? (element : String) : Option Width := Width.all.find? fun w => w.complexName == element

/-- The numbers from which on real elements of a width are written with a power of ten. -/
def boundOf : Width → Nat
  | .half => 1000
  | .single => 1000000
  | _ => 100000000

/-- Whether the elements are texts or octets, which are written as long as they are. -/
def isTextual (g : Grid) : Bool := g.element == "str" || g.element == "bytes"

/-- The elements as they stand in a written array. -/
def words (g : Grid) : List String :=
  let elements := g.writtenElements
  let write (plus : Bool) (w : Width) (rs : List Real) : List (List Char) :=
    rs.map (columns w.binary plus (boundOf w) rs).write
  match realWidth? g.element, complexWidth? g.element with
  | some w, _ =>
    let rs := elements.filterMap fun s => match s with
      | .real _ r => some r
      | _ => none
    (write false w rs).map String.ofList
  | none, some w =>
    let parts := elements.filterMap fun s => match s with
      | .complex _ re im => some (re, im)
      | _ => none
    (List.zipWith (fun re im => re ++ withUnit im) (write false w (parts.map Prod.fst))
      (write true w (parts.map Prod.snd))).map String.ofList
  | none, none =>
    let plain := elements.map fun s => match s with
      | .text t => Text.quoted t
      | .octets bs => Text.quotedOctets bs
      | .boolean true => " True"
      | .duration (some n) => toString n
      | .duration none => Text.quoted "NaT"
      | .moment t => Text.quoted t
      | s => s.shown
    if g.isTextual then plain
    else plain.map fun t => String.ofList (padLeft (greatest (plain.map String.length)) t.toList)

/-- The elements and, in place of those that are left out, three points. -/
def row (g : Grid) : List String :=
  if g.isSummarised then g.words.take edge ++ ["..."] ++ g.words.drop edge else g.words

/-- The width of a line. -/
def lineWidth : Nat := 75

/-- What a written array says of itself behind its elements: its length where not all are written, and
    its element type where they do not show it. -/
def remarks (g : Grid) : List String :=
  let shape := if g.isSummarised then ["shape=(" ++ toString g.items.length ++ ",)"] else []
  let length := toString (greatest (1 :: g.items.map Scalar.extent))
  let type :=
    if g.element = "str" then ["dtype='<U" ++ length ++ "'"]
    else if g.element = "bytes" then ["dtype='|S" ++ length ++ "'"]
    else if g.element = "timedelta64" ∨ g.element = "datetime64" then ["dtype='" ++ g.element ++ "[D]'"]
    else if g.items.isEmpty ∨ ¬ ["int64", "float64", "bool", "complex128"].contains g.element then
      ["dtype=" ++ g.element]
    else []
  shape ++ type

/-- What a written array starts with. -/
def opening : String := "array("

/-- The array as a diagnostic shows it. -/
def written (g : Grid) : String :=
  let body := "[" ++ Text.Row.ofWords (opening.length + 1) (lineWidth - 2) ", " g.row ++ "]"
  if g.remarks.isEmpty then opening ++ body ++ ")"
  else
    let front := opening ++ body ++ ","
    let extra := ", ".intercalate g.remarks ++ ")"
    let last := (front.toList.reverse.takeWhile (· != '\n')).length
    if lineWidth < last + extra.length + 1 then
      front ++ "\n" ++ String.ofList (List.replicate opening.length ' ') ++ extra
    else front ++ " " ++ extra

/-- The text of the array: its elements with blanks between them. -/
def shown (g : Grid) : String := "[" ++ Text.Row.ofWords 1 (lineWidth - 1) " " g.row ++ "]"

end Grid
end CallGuard
