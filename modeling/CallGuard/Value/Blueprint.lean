import CallGuard.Number.Quantity
import CallGuard.Thrown
import CallGuard.Value.Grid
import CallGuard.Value.Stock
import CallGuard.Violation
import CallGuard.Tag

/-! Blueprints: descriptions of values. A value is built of its blueprint as often as the blueprint is
    used, each time as a new object with new parts; only the texts and integers that a blueprint gives in
    itself are the same objects each time. A blueprint may name what it takes from its surroundings: a
    variable, an item or an attribute of another value, or a new object of a class. Bodies, which say
    what a function does, hold blueprints for their constants. -/

namespace CallGuard

/-- The identity of an object. Objects made on the way, which nothing else can refer to, share zero. -/
abbrev ObjectId := Nat

/-- The kinds of sequences. -/
inductive SequenceKind
  | list
  | tuple
  | deque
  | wrapped
  deriving DecidableEq

/-- The kinds of mappings. -/
inductive MappingKind
  | plain
  | ordered
  | wrapped
  | view
  deriving DecidableEq

/-- What a routine does with its arguments. Arguments are counted from the front, or with a minus from
    the back. A count and turns look at the calls recorded so far. -/
inductive Body (α : Type) where
  | argument (i : Int)
  | arguments
  | constant (v : α)
  | named (name : String)
  | count
  | turns (vs : List α)
  | list (es : List (Body α))
  | arithmetic (op : Arithmetic) (l r : Body α)
  | equal (l r : Body α)
  | choose (condition yes no : Body α)
  | call (f : Body α) (arguments : List (Body α))
  | throw (e : Thrown)

instance {α : Type} : Inhabited (Body α) := ⟨.arguments⟩

/-- The four attributes that tell a reader of a function what it is and where it comes from. Each may
    be missing. -/
structure Metadata (α : Type) where
  module : Option α
  name : Option α
  qualname : Option α
  doc : Option α

/-- What an object of a class of its own can be built from. -/
inductive Base
  | object
  | integer
  | real
  | complex
  | text
  | octets
  | list
  | tuple
  | mapping
  | set
  | decimal
  | fraction
  | array
  deriving DecidableEq

/-- Values that hold no other values. -/
inductive Atom
  | null
  | undefined
  | boolean (b : Bool)
  | tag (t : Tag)
  | kind (k : Violation)
  | real (r : Real)
  | complex (re im : Real)
  | decimal (d : Decimal)
  | fraction (q : Rat)
  | wrappedText (s : String)
  | octets (mutable : Bool) (bytes : List UInt8)
  | range (start stop step : Int)
  | scalar (s : Scalar)
  | array (g : Grid)
  | stock (s : Stock)

/-- Why a description describes no value. -/
inductive Refusal
  | decimal (f : DecimalFault)
  | unreadable (text : String)
  | zeroDenominator (n : Int)
  | zeroStep
  | outOfBounds (n : Int) (typeName : String)

namespace Refusal

/-- The name of the class of a refusal. -/
def className : Refusal → String
  | decimal f => f.className
  | unreadable _ => "ValueError"
  | zeroDenominator _ => "ZeroDivisionError"
  | zeroStep => "ValueError"
  | outOfBounds .. => "OverflowError"

/-- The wording of a refusal. -/
def message : Refusal → String
  | decimal f => f.message
  | unreadable s => "could not convert string to float: " ++ Text.quoted s
  | zeroDenominator n => "Fraction(" ++ toString n ++ ", 0)"
  | zeroStep => "range() arg 3 must not be zero"
  | outOfBounds n typeName =>
    if Scalar.holds true 64 n ∨ (Scalar.holds false 64 n ∧ typeName = "uint64") then
      "Python integer " ++ toString n ++ " out of bounds for " ++ typeName
    else "Python int too large to convert to C long"

end Refusal

/-- An integer scalar of a format, if the format holds the integer. -/
def Scalar.ofInt (signed : Bool) (bits : Nat) (n : Int) : Except Refusal Scalar :=
  if holds signed bits n then .ok (integer signed bits n)
  else .error (.outOfBounds n (integer signed bits n).typeName)

/-- What an object of a class of its own answers when it is compared with itself. -/
inductive Retort (α : Type) where
  | value (v : α)
  | raised (e : Thrown)

/-- The traits that a class of its own adds to what its objects are built from. -/
structure AddedTraits where
  number : Bool
  sequence : Bool
  callable : Bool
  replacesNaN : Option Reply
  deriving DecidableEq

/-- A description of a value. -/
inductive Blueprint where
  | integer (id : ObjectId) (n : Int)
  | text (id : ObjectId) (s : String)
  | atom (a : Atom)
  | sequence (kind : SequenceKind) (items : List Blueprint)
  | set (frozen : Bool) (items : List Blueprint)
  | mapping (kind : MappingKind) (entries : List (Blueprint × Blueprint))
  | iterator (items : List Blueprint)
  | custom (className : String) (base : Base) (content : Option Blueprint) (items : Option (List Blueprint))
      (traits : AddedTraits) (retorts : List (Retort Blueprint))
  | routine (label : String) (metadata : Metadata Blueprint) (body : Body Blueprint)
  | named (name : String)
  | item (value key : Blueprint)
  | attribute (value : Blueprint) (name : String)
  | new (family : Blueprint)
  | marked (mark : Nat) (description : Blueprint)
  | refused (r : Refusal)

instance : Inhabited Blueprint := ⟨.atom .null⟩

end CallGuard
