/-! Type tags: the coarse runtime types that signatures speak of. A tag has a text, by which
    signatures name it, and a label, by which the closed set of tags lists it. Texts and labels
    determine their tag (`ofText?_text`, `ofLabel?_label`). -/

namespace CallGuard

/-- The coarse runtime type of a value. `void` occurs in signatures only: as an argument tag it
    accepts any value, as a result tag any value but NaN. -/
inductive Tag
  | null
  | nan
  | array
  | number
  | string
  | boolean
  | function
  | object
  | void
  deriving DecidableEq, Inhabited

namespace Tag

/-- All tags, in the order in which they are listed to a reader. -/
def all : List Tag := [null, nan, array, number, string, boolean, function, object, void]

/-- The text that names a tag in a signature and in a message. -/
def text : Tag → String
  | null => "Null"
  | nan => "NaN"
  | array => "Array"
  | number => "Number"
  | string => "String"
  | boolean => "Boolean"
  | function => "Function"
  | object => "Object"
  | void => "Void"

/-- The label of a tag in the closed set of tags. -/
def label : Tag → String
  | null => "NULL"
  | nan => "NAN"
  | array => "ARRAY"
  | number => "NUMBER"
  | string => "STRING"
  | boolean => "BOOLEAN"
  | function => "FUNCTION"
  | object => "OBJECT"
  | void => "VOID"

/-- The tag that a text names, exactly and with regard to case. -/
def ofText? (s : String) : Option Tag := all.find? fun t => t.text == s

/-- The tag of a label. -/
def ofLabel? (s : String) : Option Tag := all.find? fun t => t.label == s

/-- The tag as a diagnostic shows it: its label beside its quoted text. -/
def written (t : Tag) : String := "<TypeTag." ++ t.label ++ ": '" ++ t.text ++ "'>"

theorem mem_all (t : Tag) : t ∈ all := by cases t <;> decide

theorem text_injective {s t : Tag} (h : s.text = t.text) : s = t := by
  cases s <;> cases t <;> first | rfl | exact absurd h (by decide)

theorem label_injective {s t : Tag} (h : s.label = t.label) : s = t := by
  cases s <;> cases t <;> first | rfl | exact absurd h (by decide)

@[simp] theorem ofText?_text (t : Tag) : ofText? t.text = some t := by cases t <;> decide

@[simp] theorem ofLabel?_label (t : Tag) : ofLabel? t.label = some t := by cases t <;> decide

/-- A text names at most one tag, the one whose text it is. -/
theorem ofText?_eq_some_iff {s : String} {t : Tag} : ofText? s = some t ↔ s = t.text := by
  constructor
  · intro h
    have hs := List.find?_some h
    exact (beq_iff_eq.mp hs).symm
  · rintro rfl
    exact ofText?_text t

end Tag
end CallGuard
