import CallGuard.Value.Equality
import CallGuard.Value.Written

/-! Values as operands. Numbers are reckoned with, rows are joined and repeated, and sets are taken from
    sets; a wrapped row takes part as what it wraps and makes the result wrapped. The left operand decides
    what is wanted of the right one. -/

namespace CallGuard

/-- Why an operation on two values has no result. -/
inductive OperandFault
  | unsupported (op : Arithmetic) (left right : String)
  | notJoined (kind right : String)
  | notJoinedToOctets (left right : String)
  | notRepeated (typeName : String)
  | notIterable (typeName : String)
  | tooOften
  | textTooLong
  | octetsTooLong
  | noMemory
  | quantity (f : QuantityFault)

namespace OperandFault

/-- The name of the class of a fault. -/
def className : OperandFault → String
  | tooOften => "OverflowError"
  | textTooLong => "OverflowError"
  | octetsTooLong => "OverflowError"
  | noMemory => QuantityFault.noMemory.className
  | quantity f => f.className
  | _ => "TypeError"

/-- The wording of a fault. -/
def message : OperandFault → String
  | unsupported op left right =>
    "unsupported operand type(s) for " ++ op.sign ++ ": '" ++ left ++ "' and '" ++ right ++ "'"
  | notJoined kind right => "can only concatenate " ++ kind ++ " (not \"" ++ right ++ "\") to " ++ kind
  | notJoinedToOctets left right => "can't concat " ++ right ++ " to " ++ left
  | notRepeated typeName => "can't multiply sequence by non-int of type '" ++ typeName ++ "'"
  | notIterable typeName => "'" ++ typeName ++ "' object is not iterable"
  | tooOften => "cannot fit 'int' into an index-sized integer"
  | textTooLong => "repeated string is too long"
  | octetsTooLong => "repeated bytes are too long"
  | noMemory => QuantityFault.noMemory.message
  | quantity f => f.message

end OperandFault

/-- A row that can be joined to another and repeated. -/
inductive Strand
  | text (s : String)
  | octets (mutable : Bool) (bytes : List UInt8)
  | items (kind : SequenceKind) (vs : List Value)

namespace Quantity

/-- The quantity as a value. -/
def toValue : Quantity → Value
  | integer n => .ofInt n
  | fraction q => .fraction 0 q
  | real r => .real 0 r
  | complex re im => .complex 0 re im
  | decimal d => .decimal 0 d

end Quantity

namespace Strand

/-- The strand as a value. -/
def toValue : Strand → Value
  | text s => .ofString s
  | octets mutable bs => .octets 0 mutable bs
  | items kind vs => .sequence 0 kind vs

/-- The strand as a wrapped value. -/
def toWrapped : Strand → Value
  | text s => .wrappedText 0 s
  | items _ vs => .sequence 0 .wrapped vs
  | s => s.toValue

/-- The length of a strand. -/
def length : Strand → Nat
  | text s => s.length
  | octets _ bs => bs.length
  | items _ vs => vs.length

/-- What is said of a strand that gets too long. -/
def overflow : Strand → OperandFault
  | text _ => .textTooLong
  | octets false _ => .octetsTooLong
  | _ => .noMemory

/-- The strand `n` times in a row. -/
def times (n : Nat) : Strand → Strand
  | text s => text (String.join (List.replicate n s))
  | octets mutable bs => octets mutable (List.replicate n bs).flatten
  | items kind vs => items kind (List.replicate n vs).flatten

/-- The strand repeated, not at all where the count is negative. -/
def repeated (s : Strand) (n : Int) : Except OperandFault Strand :=
  if !Value.isPlace n then .error .tooOften
  else if Value.greatestLength < s.length * n.toNat then .error s.overflow
  else if Value.greatestRow < s.length * n.toNat then .error .noMemory
  else if s.length = 0 then .ok s
  else .ok (s.times n.toNat)

end Strand

namespace Value

/-- The value as a number that is reckoned with. -/
def quantity? (v : Value) : Option Quantity :=
  match v.core with
  | .boolean b => some (.integer (if b then 1 else 0))
  | .integer _ n => some (.integer n)
  | .real _ r => some (.real r)
  | .complex _ re im => some (.complex re im)
  | .decimal _ d => some (.decimal d)
  | .fraction _ q => some (.fraction q)
  | .stock _ s => match s.nature with
    | .number n => some (.integer n)
    | _ => none
  | _ => none

/-- The value as a strand. -/
def strand? (v : Value) : Option Strand :=
  match v.core with
  | .octets _ mutable bs => some (.octets mutable bs)
  | .scalar _ (.octets bs) => some (.octets false bs)
  | .sequence _ .wrapped _ => none
  | .sequence _ form vs => some (.items form vs)
  | .stock _ s => match s.tuple? with
    | some ns => some (.items .tuple (ns.map .ofInt))
    | none => v.text?.map .text
  | _ => v.text?.map .text

/-- The strand that a wrapped value wraps. -/
def wrappedStrand? : Value → Option Strand
  | .wrappedText _ s => some (.text s)
  | .sequence _ .wrapped vs => some (.items .list vs)
  | _ => none

/-- The items of a value, each of which goes into a list. -/
def listed (v : Value) : Except OperandFault (List Value) :=
  match v.items? with
  | some vs => .ok vs
  | none => .error (.notIterable v.fullTypeName)

/-- The strand of a value with another value behind it, if that is of the same kind. -/
def joinStrand (v : Value) (s : Strand) (w : Value) : Except OperandFault Strand :=
  match s, w.strand? with
  | .text s, some (.text t) => .ok (.text (s ++ t))
  | .text _, _ => .error (.notJoined "str" w.fullTypeName)
  | .octets mutable bs, some (.octets _ cs) => .ok (.octets mutable (bs ++ cs))
  | .octets .., _ => .error (.notJoinedToOctets v.fullTypeName w.fullTypeName)
  | .items form vs, some (.items other ws) =>
    if form = other then .ok (.items form (vs ++ ws)) else .error (.notJoined (name form) w.fullTypeName)
  | .items form _, _ => .error (.notJoined (name form) w.fullTypeName)
where
  /-- The name of sequences of a kind. -/
  name : SequenceKind → String
    | .list => "list"
    | .tuple => "tuple"
    | .deque => "deque"
    | .wrapped => "list"

/-- Two values joined. -/
def join (v w : Value) : Except OperandFault Value :=
  match v.wrappedStrand?, w.wrappedStrand? with
  | some (.text s), _ => .ok (.wrappedText 0 (s ++ w.shown))
  | some (.items _ vs), _ => do return .sequence 0 .wrapped (vs ++ (← w.listed))
  | _, some (.text t) => .ok (.wrappedText 0 (v.shown ++ t))
  | _, some (.items _ ws) => do return .sequence 0 .wrapped ((← v.listed) ++ ws)
  | _, _ =>
    match v.strand? with
    | some s => (joinStrand v s w).map Strand.toValue
    | none => .error (.unsupported .add v.fullTypeName w.fullTypeName)

/-- A strand as often as a value says. -/
def repeatStrand (s : Strand) (n : Value) : Except OperandFault Strand :=
  match n.index? with
  | some n => s.repeated n
  | none => .error (.notRepeated n.fullTypeName)

/-- The repetition of one of two values as often as the other says. -/
def repetition (v w : Value) : Except OperandFault Value :=
  match v.wrappedStrand?, w.wrappedStrand? with
  | some s, some _ => .error (.notRepeated s.toValue.fullTypeName)
  | some s, none => (repeatStrand s w).map Strand.toWrapped
  | none, some s => (repeatStrand s v).map Strand.toWrapped
  | none, none =>
    match v.strand?, w.strand? with
    | some s, _ => (repeatStrand s w).map Strand.toValue
    | none, some s => (repeatStrand s v).map Strand.toValue
    | none, none => .error (.unsupported .multiply v.fullTypeName w.fullTypeName)

/-- What is left of a set without the members of another, if both values are sets. -/
def difference? (v w : Value) : Option Value :=
  match v.core, w.core with
  | .set _ frozen xs, .set _ _ ys => some (.set 0 frozen (xs.filter fun x => !ys.any (x.sameKey ·)))
  | _, _ => none

/-- The result of an operation on two values. -/
def operate (op : Arithmetic) (v w : Value) : Except OperandFault Value :=
  let unsupported := OperandFault.unsupported op v.fullTypeName w.fullTypeName
  match v.quantity?, w.quantity? with
  | some x, some y =>
    match x.combine? op y with
    | some r => (r.mapError .quantity).map Quantity.toValue
    | none => .error unsupported
  | _, _ =>
    match op with
    | .add => v.join w
    | .multiply => v.repetition w
    | .subtract => (v.difference? w).elim (.error unsupported) .ok

/-- Integers are reckoned with exactly. -/
theorem operate_integer (op : Arithmetic) (i j : ObjectId) (m n : Int) :
    operate op (.integer i m) (.integer j n) = .ok (.ofInt (op.integers m n)) := rfl

end Value
end CallGuard
