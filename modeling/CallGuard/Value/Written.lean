import CallGuard.Value.Contents

/-! Values in messages: the name of a value's type, alone or in full, the written form, which tells texts
    from other values by quotation marks, the shown form, in which a text stands for itself, and the
    form in a sentence, in which the numbers of all formats are shown alike. The written form of a value is
    put together of those of its parts (`written_eq_writtenFrom`). -/

namespace CallGuard

namespace Value

/-- The name of a value's type. -/
def typeName : Value → String
  | .null => "NoneType"
  | .undefined => "UndefinedType"
  | .boolean _ => "bool"
  | .tag _ => "TypeTag"
  | .kind _ => "ViolationKind"
  | .integer .. => "int"
  | .real .. => "float"
  | .complex .. => "complex"
  | .decimal .. => "Decimal"
  | .fraction .. => "Fraction"
  | .text .. => "str"
  | .wrappedText .. => "UserString"
  | .octets _ mutable _ => if mutable then "bytearray" else "bytes"
  | .range .. => "range"
  | .sequence _ form _ =>
    match form with
    | .list => "list"
    | .tuple => "tuple"
    | .deque => "deque"
    | .wrapped => "UserList"
  | .set _ frozen _ => if frozen then "frozenset" else "set"
  | .mapping _ form _ =>
    match form with
    | .plain => "dict"
    | .ordered => "OrderedDict"
    | .wrapped => "UserDict"
    | .view => "mappingproxy"
  | .iterator .. => "list_iterator"
  | .scalar _ s => s.typeName
  | .array .. => "ndarray"
  | .stock _ s => s.typeName
  | .custom _ c => c.className
  | .routine .. => "Fn"
  | .checked .. => "CheckedFunction"
  | .method .. => "method"
  | .ownClass .. => "type"
  | .object _ (.ownClass _ name _) => name
  | .object .. => "object"

/-- The full name of a value's type, with the home of the type in front of it where the type tells. -/
def fullTypeName : Value → String
  | .decimal .. => "decimal.Decimal"
  | .sequence _ .deque _ => "collections.deque"
  | .mapping _ .ordered _ => "collections.OrderedDict"
  | .scalar _ s => "numpy." ++ s.typeName
  | .array .. => "numpy.ndarray"
  | .stock _ s => s.fullTypeName
  | v => v.typeName

/-- A row of written items between brackets. -/
def bracketed (first last : String) (items : List String) : String :=
  first ++ ", ".intercalate items ++ last

/-- A row of written items as a tuple: one item alone has a comma behind it. -/
def parenthesised : List String → String
  | [s] => "(" ++ s ++ ",)"
  | ss => bracketed "(" ")" ss

/-- Written entries as a mapping. -/
def braced (es : List (String × String)) : String :=
  bracketed "\x7b" "\x7d" (es.map fun e => e.1 ++ ": " ++ e.2)

/-- A checked function in a message: its name and the texts of its tags. -/
def writtenChecked (name : String) (s : Signature) : String :=
  "<CheckedFunction " ++ name ++ "(" ++ ", ".intercalate (s.arguments.map Tag.text) ++ ") -> "
    ++ s.result.text ++ ">"

/-- A fraction as a text: a whole number without its denominator. -/
def fractionText (q : Rat) : String :=
  if q.den = 1 then toString q.num else toString q.num ++ "/" ++ toString q.den

/-- The text of what an object of a class of its own is built from, where the class keeps it. -/
def keptText? : Value → Option String
  | .text _ s => some s
  | .decimal _ d => some d.text
  | .fraction _ q => some (fractionText q)
  | .octets _ false bs => some (Text.quotedOctets bs)
  | .array _ g => some g.shown
  | _ => none

/-- What stands between the parentheses of a written view. -/
def viewed (written : String) : String := String.ofList (written.toList.drop "mappingproxy(".length).dropLast

/-- The text of a value whose written form is known. How scalars are shown is a parameter. -/
def textFrom (scalarText : Scalar → String) (written : String) : Value → String
  | .tag t => t.text
  | .kind k => "ViolationKind." ++ k.label
  | .text _ s => s
  | .wrappedText _ s => s
  | .decimal _ d => d.text
  | .fraction _ q => fractionText q
  | .scalar _ s => scalarText s
  | .array _ g => g.shown
  | .stock _ s => s.shown?.getD written
  | .mapping _ .view _ => viewed written
  | .custom _ c => (c.content.bind keptText?).getD written
  | _ => written

/-- The shown form of a value whose written form is known. -/
def shownFrom (written : String) (v : Value) : String := textFrom Scalar.shown written v

/-- The form in a sentence of a value whose written form is known. -/
def formattedFrom (written : String) (v : Value) : String := textFrom Scalar.formatted written v

/-- The title of a function in the written form of a method: its name, in full where it tells. -/
def title : Value → String
  | .checked _ c => ((c.metadata.qualname <|> c.metadata.name).bind text?).getD "?"
  | .stock _ s =>
    match s.nature with
    | .callable (some name) => name
    | _ => "?"
  | _ => "?"

/-- A row of keys and values in turn as entries. -/
def paired : List String → List (String × String)
  | k :: v :: ss => (k, v) :: paired ss
  | _ => []

/-- The written form of a value whose parts have the written forms given. -/
def writtenFrom (parts : List String) : Value → String
  | .null => "None"
  | .undefined => "Undefined"
  | .boolean b => if b then "True" else "False"
  | .tag t => t.written
  | .kind k => k.written
  | .integer _ n => toString n
  | .real _ r => Numerals.double.text r
  | .complex _ re im => Numerals.double.complex re im
  | .decimal _ d => "Decimal('" ++ d.text ++ "')"
  | .fraction _ q => "Fraction(" ++ toString q.num ++ ", " ++ toString q.den ++ ")"
  | .text _ s => Text.quoted s
  | .wrappedText _ s => Text.quoted s
  | .octets _ mutable bs =>
    if mutable then "bytearray(" ++ Text.quotedOctets bs ++ ")" else Text.quotedOctets bs
  | .range _ start stop step =>
    "range(" ++ toString start ++ ", " ++ toString stop
      ++ (if step = 1 then "" else ", " ++ toString step) ++ ")"
  | .sequence _ form _ =>
    match form with
    | .list => bracketed "[" "]" parts
    | .tuple => parenthesised parts
    | .deque => bracketed "deque([" "])" parts
    | .wrapped => bracketed "[" "]" parts
  | .set _ frozen _ =>
    if parts.isEmpty then (if frozen then "frozenset()" else "set()")
    else if frozen then bracketed "frozenset(\x7b" "\x7d)" parts
    else bracketed "\x7b" "\x7d" parts
  | .mapping _ form _ =>
    match form with
    | .plain => braced (paired parts)
    | .wrapped => braced (paired parts)
    | .view => "mappingproxy(" ++ braced (paired parts) ++ ")"
    | .ordered =>
      if parts.isEmpty then "OrderedDict()"
      else bracketed "OrderedDict([" "])" ((paired parts).map fun e => "(" ++ e.1 ++ ", " ++ e.2 ++ ")")
  | .iterator .. => "<list_iterator object>"
  | .scalar _ s => s.written
  | .array _ g => g.written
  | .stock _ s => s.written
  | .custom _ c => "<" ++ c.className ++ ">"
  | .routine _ r => "<fn " ++ r.label ++ ">"
  | .checked _ c => writtenChecked (formattedFrom (parts.headD "") c.name) c.signature
  | .method _ function _ => "<bound method " ++ function.title ++ " of " ++ parts.headD "" ++ ">"
  | .ownClass _ name _ => "<class '" ++ name ++ "'>"
  | .object _ family => "<" ++ (Value.object 0 family).typeName ++ " object>"

/-- The values whose written forms are in that of a value, in order. -/
def writtenParts : Value → List Value
  | .sequence _ _ vs => vs
  | .set _ _ vs => vs
  | .mapping _ _ es => es.flatMap fun e => [e.1, e.2]
  | .checked _ c => [c.name]
  | .method _ _ self => [self]
  | _ => []

mutual

/-- The written form of a value. -/
def written : Value → String
  | .sequence id form vs => writtenFrom (writtenAll vs) (.sequence id form vs)
  | .set id frozen vs => writtenFrom (writtenAll vs) (.set id frozen vs)
  | .mapping id form es => writtenFrom (writtenEntries es) (.mapping id form es)
  | .checked id ⟨signature, implementation, name, metadata⟩ =>
    writtenFrom [written name] (.checked id ⟨signature, implementation, name, metadata⟩)
  | .method id function self => writtenFrom [written self] (.method id function self)
  | v => writtenFrom [] v

/-- The written forms of a row of values. -/
def writtenAll : List Value → List String
  | [] => []
  | v :: vs => written v :: writtenAll vs

/-- The written forms of the keys and the values of a row of entries, in turn. -/
def writtenEntries : List (Value × Value) → List String
  | [] => []
  | (k, v) :: es => written k :: written v :: writtenEntries es

end

/-- The shown form of a value: a text as it is, some numbers bare, and all else as it is written. -/
def shown (v : Value) : String := shownFrom v.written v

/-- The form of a value in a sentence. -/
def formatted (v : Value) : String := formattedFrom v.written v

theorem writtenAll_eq_map (vs : List Value) : writtenAll vs = vs.map written := by
  induction vs with
  | nil => simp [writtenAll]
  | cons v vs ih => simp [writtenAll, ih]

theorem writtenEntries_eq_map (es : List (Value × Value)) :
    writtenEntries es = (es.flatMap fun e => [e.1, e.2]).map written := by
  induction es with
  | nil => simp [writtenEntries]
  | cons e es ih => simp [writtenEntries, ih]

/-- A value is written from the written forms of its parts. -/
theorem written_eq_writtenFrom (v : Value) : v.written = writtenFrom (v.writtenParts.map written) v := by
  cases v <;> simp [written, writtenParts, writtenAll_eq_map, writtenEntries_eq_map]

@[simp] theorem shown_text (i : ObjectId) (s : String) : (Value.text i s).shown = s := rfl

@[simp] theorem shown_tag (t : Tag) : (Value.tag t).shown = t.text := rfl

@[simp] theorem formatted_text (i : ObjectId) (s : String) : (Value.text i s).formatted = s := rfl

@[simp] theorem formatted_tag (t : Tag) : (Value.tag t).formatted = t.text := rfl

end Value
end CallGuard
