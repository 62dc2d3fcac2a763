import CallGuard.Value.Naming
import CallGuard.Value.Traits

/-! Reading signatures from values. A signature is written as a sequence of tags, or of what names a tag,
    the last for the result. Texts and octets are sequences but no signatures. Items are read in order
    and the first that names no tag is reported with its position. The items are taken as they are here, and
    objects of classes that are made on the way are not asked. -/

namespace CallGuard

/-- Why a value is no signature. What is at fault is kept with its written form. -/
inductive SignatureFault
  | notSequence (v : Value) (written : String)
  | notIterable (typeName : String)
  | unknownTag (item : Value) (written : String) (position : Nat)
  | empty

/-- The wording of a fault. -/
def SignatureFault.message : SignatureFault → String
  | notSequence v written => "A signature must be a sequence of tags, not " ++ v.typeName ++ ": " ++ written
  | notIterable typeName => "'" ++ typeName ++ "' object is not iterable"
  | unknownTag _ written position =>
    "Unknown tag " ++ written ++ " at position " ++ toString position
      ++ " of the signature. Possible values are "
      ++ Value.bracketed "[" "]" (Tag.all.map fun t => Text.quoted t.text)
  | empty => "A signature must contain at least the return tag"

/-- Whether a value is a sequence that can hold tags: no text and no unchangeable octets. -/
def Value.isTagSequence (v : Value) : Bool :=
  v.traits.sequence && !v.traits.text &&
    match v.core with
    | .octets _ mutable _ => mutable
    | .scalar _ (.octets _) => false
    | _ => true

namespace Signature

/-- The tags that a row of items names, from a position on. -/
def readTags (position : Nat) : List Value → Except SignatureFault (List Tag)
  | [] => .ok []
  | v :: vs =>
    match Tag.ofValue? v with
    | .ok (some t) => (readTags (position + 1) vs).map (t :: ·)
    | _ => .error (.unknownTag v v.written position)

/-- The signature that a row of items writes. -/
def ofItems (vs : List Value) : Except SignatureFault Signature :=
  match readTags 0 vs with
  | .error f => .error f
  | .ok ts =>
    match ofTags? ts with
    | some s => .ok s
    | none => .error .empty

/-- The signature that a value writes. -/
def read (v : Value) : Except SignatureFault Signature :=
  if v.isTagSequence then
    match v.items? with
    | some vs => ofItems vs
    | none => .error (.notIterable v.typeName)
  else .error (.notSequence v v.written)

theorem readTags_map_tag (n : Nat) (ts : List Tag) : readTags n (ts.map .tag) = .ok ts := by
  induction ts generalizing n with
  | nil => rfl
  | cons t ts ih => simp [readTags, ih, Except.map]

/-- The tags of a signature write it. -/
theorem ofItems_tags (s : Signature) : ofItems (s.tags.map .tag) = .ok s := by
  simp [ofItems, readTags_map_tag]

/-- A signature as a value is the tuple of its tags. -/
def toValue (s : Signature) : Value := .tuple (s.tags.map .tag)

/-- Reading a signature that was read before changes nothing. -/
theorem read_toValue (s : Signature) : read s.toValue = .ok s := by
  have h : s.toValue.isTagSequence = true := rfl
  have hi : s.toValue.items? = some (s.tags.map .tag) := rfl
  simp [read, h, hi, ofItems_tags]

end Signature
end CallGuard
