import CallGuard.Signature
import CallGuard.Value.Blueprint

/-! Values: whatever can be passed to a function, returned from it, kept in a module or named in a
    signature. An object has an identity, a number handed out when it is made; the values without one
    are the same wherever they occur. Functions are values too: routines, which record their calls and
    run a body, checked functions, and checked functions bound to an object. -/

namespace CallGuard

/-- A function that records its calls and then runs its body. -/
structure Routine (α : Type) where
  label : String
  metadata : Metadata α
  body : Body Blueprint

/-- A checked function: the signature that it enforces, the implementation that it calls, the name that
    its reports give, and the metadata that it took over from its implementation. -/
structure Checked (α : Type) where
  signature : Signature
  implementation : α
  name : α
  metadata : Metadata α

/-- An object of a class of its own: what it is built from, nothing for a plain object, the items that
    its class gives it, and what else its class adds. -/
structure Custom (α : Type) where
  className : String
  content : Option α
  items : Option (List α)
  traits : AddedTraits
  replies : Option Replies

/-- A value. -/
inductive Value where
  | null
  | undefined
  | boolean (b : Bool)
  | tag (t : Tag)
  | kind (k : Violation)
  | integer (id : ObjectId) (n : Int)
  | real (id : ObjectId) (r : Real)
  | complex (id : ObjectId) (re im : Real)
  | decimal (id : ObjectId) (d : Decimal)
  | fraction (id : ObjectId) (q : Rat)
  | text (id : ObjectId) (s : String)
  | wrappedText (id : ObjectId) (s : String)
  | octets (id : ObjectId) (mutable : Bool) (bytes : List UInt8)
  | range (id : ObjectId) (start stop step : Int)
  | sequence (id : ObjectId) (kind : SequenceKind) (items : List Value)
  | set (id : ObjectId) (frozen : Bool) (items : List Value)
  | mapping (id : ObjectId) (kind : MappingKind) (entries : List (Value × Value))
  | iterator (id : ObjectId) (items : List Value)
  | scalar (id : ObjectId) (s : Scalar)
  | array (id : ObjectId) (g : Grid)
  | stock (id : ObjectId) (s : Stock)
  | custom (id : ObjectId) (c : Custom Value)
  | routine (id : ObjectId) (r : Routine Value)
  | checked (id : ObjectId) (c : Checked Value)
  | method (id : ObjectId) (function self : Value)
  | ownClass (id : ObjectId) (name : String) (attributes : List (String × Value))
  | object (id : ObjectId) (family : Value)

namespace Value

instance : Inhabited Value := ⟨.null⟩

/-- The identity of a value, if it is an object. -/
def id? : Value → Option ObjectId
  | integer i _ => some i
  | real i _ => some i
  | complex i _ _ => some i
  | decimal i _ => some i
  | fraction i _ => some i
  | text i _ => some i
  | wrappedText i _ => some i
  | octets i _ _ => some i
  | range i _ _ _ => some i
  | sequence i _ _ => some i
  | set i _ _ => some i
  | mapping i _ _ => some i
  | iterator i _ => some i
  | scalar i _ => some i
  | array i _ => some i
  | stock i _ => some i
  | custom i _ => some i
  | routine i _ => some i
  | checked i _ => some i
  | method i _ _ => some i
  | ownClass i _ _ => some i
  | object i _ => some i
  | _ => none

/-- The value as the object with an identity. Values without identity stay as they are. -/
def identified (i : ObjectId) : Value → Value
  | integer _ n => integer i n
  | real _ r => real i r
  | complex _ re im => complex i re im
  | decimal _ d => decimal i d
  | fraction _ q => fraction i q
  | text _ s => text i s
  | wrappedText _ s => wrappedText i s
  | octets _ mutable bs => octets i mutable bs
  | range _ start stop step => range i start stop step
  | sequence _ form vs => sequence i form vs
  | set _ frozen vs => set i frozen vs
  | mapping _ form es => mapping i form es
  | iterator _ vs => iterator i vs
  | scalar _ s => scalar i s
  | array _ g => array i g
  | stock _ s => stock i s
  | custom _ c => custom i c
  | routine _ r => routine i r
  | checked _ c => checked i c
  | method _ function self => method i function self
  | ownClass _ name attributes => ownClass i name attributes
  | object _ family => object i family
  | v => v

/-- An integer made on the way. -/
def ofInt (n : Int) : Value := .integer 0 n

/-- A text made on the way. -/
def ofString (s : String) : Value := .text 0 s

/-- A tuple made on the way. -/
def tuple (vs : List Value) : Value := .sequence 0 .tuple vs

/-- A list made on the way. -/
def list (vs : List Value) : Value := .sequence 0 .list vs

end Value

/-- An atom as an object with an identity. -/
def Atom.toValue (id : ObjectId) : Atom → Value
  | null => .null
  | undefined => .undefined
  | boolean b => .boolean b
  | tag t => .tag t
  | kind k => .kind k
  | real r => .real id r
  | complex re im => .complex id re im
  | decimal d => .decimal id d
  | fraction q => .fraction id q
  | wrappedText s => .wrappedText id s
  | octets mutable bs => .octets id mutable bs
  | range start stop step => .range id start stop step
  | scalar s => .scalar id s
  | array g => .array id g
  | stock s => .stock id s

namespace Base

/-- What an object is built from where nothing is given. -/
def empty? : Base → Option Value
  | object => none
  | integer => some (.ofInt 0)
  | real => some (.real 0 .zero)
  | complex => some (.complex 0 .zero .zero)
  | text => some (.ofString "")
  | octets => some (.octets 0 false [])
  | list => some (.list [])
  | tuple => some (.tuple [])
  | mapping => some (.mapping 0 .plain [])
  | set => some (.set 0 false [])
  | decimal => some (.decimal 0 (.finite false 0 0))
  | fraction => some (.fraction 0 0)
  | array => some (.array 0 ⟨"float64", []⟩)

end Base

namespace Metadata

/-- No attribute at all. -/
def empty {α : Type} : Metadata α := ⟨none, none, none, none⟩

end Metadata

end CallGuard
