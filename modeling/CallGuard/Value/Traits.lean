import CallGuard.Value.Truth

/-! The traits of values: what a value is to the checks. The tag of a value hangs on its traits alone,
    but for one question, whether a number is NaN: an object of a class of its own answers that anew
    each time it is asked. The tests come in a fixed order, as the traits overlap: NaN is a number,
    truth values are numbers, and texts are sequences. -/

namespace CallGuard

/-- What a value is to the checks. -/
structure Traits where
  missing : Bool := false
  number : Bool := false
  array : Bool := false
  sequence : Bool := false
  boolean : Bool := false
  text : Bool := false
  callable : Bool := false
  deriving DecidableEq, Inhabited

namespace Traits

/-- Whether the traits make a value an array: it is one, or a sequence that is no text. -/
def isArray (t : Traits) : Bool := t.array || (t.sequence && !t.text)

/-- The tag of a value with these traits, which is NaN or not if it is a number. -/
def tag (t : Traits) (nan : Bool) : Tag :=
  if t.missing then .null
  else if t.number && nan then .nan
  else if t.isArray then .array
  else if t.boolean then .boolean
  else if t.number then .number
  else if t.text then .string
  else if t.callable then .function
  else .object

/-- No value is tagged with the wildcard. -/
theorem tag_ne_void (t : Traits) (nan : Bool) : t.tag nan ≠ .void := by
  unfold tag; repeat' split
  all_goals decide

/-- Only a number that is not missing can be tagged NaN. -/
theorem tag_eq_nan_iff (t : Traits) (nan : Bool) :
    t.tag nan = .nan ↔ t.missing = false ∧ t.number = true ∧ nan = true := by
  unfold tag; repeat' split
  all_goals simp_all

end Traits

/-- How the question whether a number is NaN is settled: by its own account, without a comparison; by
    comparing it with itself, which it does as its type does; by the replies of its class to the
    comparison; or not at all, for an array that is no single number. -/
inductive SelfTest
  | account (answer : Reply)
  | comparison (unequal : Bool)
  | replies (r : Replies)
  | ambiguous (a : Ambiguity)
  deriving DecidableEq

namespace Stock

/-- The traits of a stock object. -/
def traits (s : Stock) : Traits :=
  match s.nature with
  | .plain => {}
  | .callable _ => { callable := true }
  | .row _ => { sequence := true }
  | .array _ => { array := true }
  | .number _ => { number := true }
  | .text _ => { text := true, sequence := true }
  | .mapping => {}
  | .source _ => {}

end Stock

namespace Scalar

/-- The traits of a scalar. -/
def traits : Scalar → Traits
  | boolean _ => { boolean := true }
  | text _ => { text := true, sequence := true }
  | octets _ => { sequence := true }
  | s => { number := s.isNumber }

end Scalar

namespace Value

/-- The attribute under which a class says what calling its objects does. -/
def callName : String := "__call__"

/-- The attribute under which a class says what is done with a new object of it. -/
def startName : String := "__init__"

/-- The traits of a value. A class of its own adds to the traits of what an object is built from. -/
def traits : Value → Traits
  | .null => { missing := true }
  | .undefined => { missing := true }
  | .boolean _ => { boolean := true, number := true }
  | .tag _ => { text := true, sequence := true }
  | .kind _ => {}
  | .integer .. => { number := true }
  | .real .. => { number := true }
  | .complex .. => { number := true }
  | .decimal .. => { number := true }
  | .fraction .. => { number := true }
  | .text .. => { text := true, sequence := true }
  | .wrappedText .. => { sequence := true }
  | .octets .. => { sequence := true }
  | .range .. => { sequence := true }
  | .sequence .. => { sequence := true }
  | .set .. => {}
  | .mapping .. => {}
  | .iterator .. => {}
  | .scalar _ s => s.traits
  | .array .. => { array := true }
  | .stock _ s => s.traits
  | .custom _ ⟨_, none, _, added, _⟩ =>
    { number := added.number, sequence := added.sequence, callable := added.callable }
  | .custom _ ⟨_, some v, _, added, _⟩ =>
    let t := v.traits
    { t with
      missing := false
      number := t.number || added.number
      sequence := t.sequence || added.sequence
      callable := t.callable || added.callable }
  | .routine .. => { callable := true }
  | .checked .. => { callable := true }
  | .method .. => { callable := true }
  | .ownClass .. => { callable := true }
  | .object _ family => { callable := (family.ownAttribute? callName).isSome }

/-- Whether a value counts as a function. -/
def isCallable (v : Value) : Bool := v.traits.callable

/-- Whether a value can be given as an implementation: it counts as a function, and its class does not
    say that it cannot be called. The second part is the runtime checker's, which stands before the functions
    that wrap: it is assumed to take a value for callable unless the attribute of its class for calls is
    missing or nothing, and to call no attribute to find out. -/
def isImplementation (v : Value) : Bool :=
  v.isCallable &&
    match v with
    | .object _ family =>
      match family.ownAttribute? callName with
      | some .null => false
      | _ => true
    | _ => true

/-- Whether a value is a text. -/
def isText (v : Value) : Bool := v.traits.text

/-- How it is settled whether a value that is a number and of no class of its own is NaN. -/
def coreSelfTest : Value → SelfTest
  | .decimal _ d => .account (.truth d.isNaN)
  | .real _ r => .comparison r.isNaN
  | .complex _ re im => .comparison (re.isNaN || im.isNaN)
  | .scalar _ s => .comparison s.isNaN
  | .array _ g =>
    match soleTruth (g.items.map Scalar.isNaN) with
    | .ok nan => .comparison nan
    | .error a => .ambiguous a
  | _ => .comparison false

/-- How it is settled whether a number is NaN. A decimal gives its own account, which its class can
    replace, and is never compared. -/
def selfTest : Value → SelfTest
  | .custom _ ⟨_, some (.decimal _ d), _, added, _⟩ => .account (added.replacesNaN.getD (.truth d.isNaN))
  | .custom _ ⟨_, content, _, _, replies⟩ =>
    match replies, content with
    | some r, _ => .replies r
    | none, some v => v.coreSelfTest
    | none, none => .comparison false
  | v => v.coreSelfTest

end Value
end CallGuard
