import CallGuard.Failure
import CallGuard.Text.Layout
import CallGuard.Value.Equality

/-! A tag as a text. A tag is a text with a place in a closed set, and behaves as its text wherever a
    text is wanted: joined, formatted in a field, compared and looked up. Only a diagnostic shows the
    member of the set. -/

namespace CallGuard

namespace Tag

/-- The text in capital letters. -/
def upper (t : Tag) : String := t.text.map Char.toUpper

/-- The text between angle brackets. -/
def bracketed (t : Tag) : String := "<" ++ t.text ++ ">"

/-- The text and the written form, in one line. -/
def percent (t : Tag) : String := t.text ++ "|" ++ t.written

/-- The plain, the shown and the written form, in one line. -/
def threefold (t : Tag) : String := t.text ++ "|" ++ (Value.tag t).shown ++ "|" ++ (Value.tag t).written

/-- The text between double quotes, as data formats write it. No tag holds what they escape. -/
def dataText (t : Tag) : String := "\"" ++ t.text ++ "\""

/-- The text in a field. -/
def format (t : Tag) (specification : String) : Except Text.LayoutFault String :=
  if specification = "" then .ok t.text
  else (Text.Layout.parse specification).map fun l => l.apply t.text

/-- How a tag compares with a value: whether they are equal, whether the tag comes before it, and whether
    the tag is found where the value is a member or a key. -/
structure Comparison where
  equal : Bool
  before : Bool
  member : Bool
  key : Bool

/-- Whether a tag comes before a value. Only texts, what is like a text, and the elements of an array of
    texts have an order. -/
def isBefore (t : Tag) (v : Value) : Except OrderFault Bool :=
  match v.core, v.likeText? with
  | _, some s => .ok (decide (t.text < s))
  | .array _ ⟨_, [.text s]⟩, none => .ok (decide (t.text < s))
  | .array _ ⟨_, s :: _⟩, none => .error (.elements s.formatName)
  | .scalar _ (.octets bs), none => .error (.unordered (Value.scalar 0 (.octets bs)).fullTypeName)
  | .scalar _ s, none => .error (.elements s.formatName)
  | .sequence _ .wrapped vs, none => .error (.wrappedUnordered (Value.list vs).fullTypeName)
  | .mapping _ .view es, none => .error (.wrappedUnordered (Value.mapping 0 .plain es).fullTypeName)
  | .stock i s, none =>
    if s.name = "mappingproxy" then .error (.wrappedUnordered (Value.mapping 0 .plain []).fullTypeName)
    else .error (.unordered (Value.stock i s).fullTypeName)
  | _, none => .error (.unordered v.fullTypeName)

/-- Compares a tag with a value. -/
def compare (t : Tag) (v : Value) : Except Failure Comparison := do
  let equal ← ((Value.tag t).equal v).mapError .comparison
  let before ← (t.isBefore v).mapError .order
  let member ← ((Value.tag t).matching v).mapError .comparison
  if let some f := v.keyFault? then throw (.key f)
  return ⟨equal, before, member, (Value.tag t).sameKey v⟩

end Tag
end CallGuard
