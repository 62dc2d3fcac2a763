import CallGuard.Value.Equality
import CallGuard.Value.Hashing

/-! Items of values under a key. Rows give the item at a place, counted from the back where it is
    negative; mappings give the value of an equal key. A class of its own that gives items stands before
    what its objects are built from. -/

namespace CallGuard

/-- The kinds of rows that are asked for the item at a place. -/
inductive RowKind
  | list
  | tuple
  | deque
  | text
  | octets
  | mutableOctets
  | range
  | numbers
  | memory
  deriving DecidableEq

namespace RowKind

/-- What a row says of a place outside of it. -/
def outside : RowKind → String
  | list => "list index out of range"
  | tuple => "tuple index out of range"
  | deque => "deque index out of range"
  | text => "string index out of range"
  | octets => "index out of range"
  | mutableOctets => "bytearray index out of range"
  | range => "range object index out of range"
  | numbers => "array index out of range"
  | memory => "index out of bounds on dimension 1"

/-- What a row says of a key that is no place, by the name of its type. -/
def refusal (typeName : String) : RowKind → String
  | list => "list indices must be integers or slices, not " ++ typeName
  | tuple => "tuple indices must be integers or slices, not " ++ typeName
  | deque => "sequence index must be integer, not '" ++ typeName ++ "'"
  | text => "string indices must be integers, not '" ++ typeName ++ "'"
  | octets => "byte indices must be integers or slices, not " ++ typeName
  | mutableOctets => "bytearray indices must be integers or slices, not " ++ typeName
  | range => "range indices must be integers or slices, not " ++ typeName
  | numbers => "array indices must be integers"
  | memory => "memoryview: invalid slice key"

end RowKind

/-- Why a value has no item under a key. -/
inductive ItemFault
  | noItems (typeName : String)
  | classWithoutItems (className : String)
  | noPlace (kind : RowKind) (typeName : String)
  | arrayAsPlace
  | outside (kind : RowKind)
  | outsideArray (place : Int) (length : Nat)
  | noPlaceInArray
  | inScalar
  | tooGreat
  | key (f : KeyFault)
  | absent (key : Value)

namespace ItemFault

/-- The name of the class of a fault. -/
def className : ItemFault → String
  | noItems _ => "TypeError"
  | classWithoutItems _ => "TypeError"
  | noPlace .. => "TypeError"
  | arrayAsPlace => "TypeError"
  | key _ => "TypeError"
  | absent _ => "KeyError"
  | _ => "IndexError"

/-- The wording of a fault. -/
def message : ItemFault → String
  | noItems typeName => "'" ++ typeName ++ "' object is not subscriptable"
  | classWithoutItems className => "type '" ++ className ++ "' is not subscriptable"
  | noPlace kind typeName => kind.refusal typeName
  | arrayAsPlace => "only integer scalar arrays can be converted to a scalar index"
  | outside kind => kind.outside
  | outsideArray place length =>
    "index " ++ toString place ++ " is out of bounds for axis 0 with size " ++ toString length
  | noPlaceInArray =>
    "only integers, slices (`:`), ellipsis (`...`), numpy.newaxis (`None`) and integer or boolean arrays are valid indices"
  | inScalar => "invalid index to scalar variable."
  | tooGreat => "cannot fit 'int' into an index-sized integer"
  | key f => f.message
  | absent k => k.written

end ItemFault

/-- How rows of a kind are asked for items. -/
def SequenceKind.rowKind : SequenceKind → RowKind
  | .list => .list
  | .tuple => .tuple
  | .deque => .deque
  | .wrapped => .list

namespace Value

/-- The place that an integer names in a row of a length. -/
def placeIn (length : Nat) (n : Int) : Option Nat :=
  let place := if n < 0 then n + length else n
  if 0 ≤ place ∧ place < length then some place.toNat else none

/-- The integer that a key names in a row. -/
def placeOf (kind : RowKind) (key : Value) : Except ItemFault Int :=
  match key.core, key.index? with
  | .array .., _ => .error .arrayAsPlace
  | _, some n => .ok n
  | _, none => .error (.noPlace kind key.fullTypeName)

/-- The item of a row under a key. -/
def itemOfRow (kind : RowKind) (vs : List Value) (key : Value) : Except ItemFault Value := do
  let n ← placeOf kind key
  unless isPlace n do throw .tooGreat
  match (placeIn vs.length n).bind fun place => vs[place]? with
  | some v => return v
  | none => throw (.outside kind)

/-- The item of a range under a key. -/
def itemOfRange (start stop step : Int) (key : Value) : Except ItemFault Value := do
  let n ← placeOf .range key
  match placeIn (rangeLength start stop step) n with
  | some place => return .ofInt (start + place * step)
  | none => throw (.outside .range)

/-- The item of an array under a key. -/
def itemOfArray (g : Grid) (key : Value) : Except ItemFault Value :=
  match key.index? with
  | none => .error .noPlaceInArray
  | some n =>
    match (placeIn g.items.length n).bind fun place => g.items[place]? with
    | some s => .ok (.scalar 0 s)
    | none => .error (.outsideArray n g.items.length)

/-- The value of a key in a mapping. -/
def itemOfMapping (es : List (Value × Value)) (key : Value) : Except ItemFault Value :=
  match key.keyFault?, lookUp? key es with
  | some f, _ => .error (.key f)
  | none, some v => .ok v
  | none, none => .error (.absent key)

/-- The tag whose label is a key. -/
def itemOfTags (key : Value) : Except ItemFault Value :=
  itemOfMapping (Tag.all.map fun t => (.ofString t.label, .tag t)) key

/-- The item of a stock object under a key, if it has any items. A counter counts what it does not hold
    as zero. -/
def itemOfStock? (s : Stock) (key : Value) : Option (Except ItemFault Value) :=
  if s.name = Stock.tagClass then some (itemOfTags key)
  else if s.isClass then some (.error (.classWithoutItems s.ownName))
  else
    match s.nature with
    | .row ns =>
      let kind : RowKind := match s.name with
        | "memoryview" => .memory
        | "array.array" => .numbers
        | _ => .tuple
      some (itemOfRow kind (ns.map .ofInt) key)
    | .text t => some (itemOfRow .text (characters t) key)
    | .mapping =>
      match key.keyFault? with
      | some f => some (.error (.key f))
      | none => some (if s.name = "Counter" then .ok (.ofInt 0) else .error (.absent key))
    | _ => none

/-- The item under a key of a value that is not of a class of its own, if it has any items. -/
def coreItem? (key : Value) : Value → Option (Except ItemFault Value)
  | .text _ s => some (itemOfRow .text (characters s) key)
  | .tag t => some (itemOfRow .text (characters t.text) key)
  | .wrappedText _ s => some (itemOfRow .text (wrappedCharacters s) key)
  | .octets _ mutable bs => some (itemOfRow (if mutable then .mutableOctets else .octets) (octetNumbers bs) key)
  | .range _ start stop step => some (itemOfRange start stop step key)
  | .sequence _ form vs => some (itemOfRow form.rowKind vs key)
  | .mapping _ _ es => some (itemOfMapping es key)
  | .scalar _ (.text s) => some (itemOfRow .text (characters s) key)
  | .scalar _ (.octets bs) => some (itemOfRow .octets (octetNumbers bs) key)
  | .scalar .. => some (.error .inScalar)
  | .array _ g => some (itemOfArray g key)
  | .stock _ s => itemOfStock? s key
  | .ownClass _ name _ => some (.error (.classWithoutItems name))
  | _ => none

/-- The item of a value under a key. -/
def item (v key : Value) : Except ItemFault Value :=
  let found := match v with
    | .custom _ ⟨_, _, some vs, _, _⟩ => some (itemOfRow .list vs key)
    | .custom _ ⟨_, content, none, _, _⟩ => content.bind (coreItem? key)
    | v => coreItem? key v
  found.getD (.error (.noItems v.fullTypeName))

theorem placeIn_lt {length : Nat} {n : Int} {place : Nat} (h : placeIn length n = some place) : place < length := by
  unfold placeIn at h
  dsimp only at h
  split at h <;> split at h <;> simp at h <;> omega

end Value
end CallGuard
