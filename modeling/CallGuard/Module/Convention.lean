import CallGuard.Wrap

/-! Modules with signatures beside their functions. An entry whose key ends with the marker holds a
    signature, whatever its value; any other callable entry is a function, and the rest is data. A
    function is wrapped with the signature under its key and the marker, or kept as it is where there is
    none. The result holds the data and then the functions; signatures are used up, and those without a
    function are told of. -/

namespace CallGuard

/-- An entry of a module, with the text of its key. -/
structure Entry where
  key : Value
  text : String
  value : Value

/-- What an entry is in its module. -/
inductive Role
  | signature
  | function
  | data
  deriving DecidableEq

/-- Whether a text ends with another. -/
def endsWith (m s : String) : Bool := m.toList.isSuffixOf s.toList

/-- A text without its last character. -/
def dropLast (s : String) : String := String.ofList s.toList.dropLast

namespace Entry

/-- The role of an entry under a marker. -/
def role (m : String) (e : Entry) : Role :=
  if endsWith m e.text then .signature
  else if e.value.isCallable then .function
  else .data

/-- The entry as key and value. -/
def pair (e : Entry) : Value × Value := (e.key, e.value)

/-- The attribute by which a key is asked for its ending. -/
def endingName : String := "endswith"

/-- What is said of a key that is no text. -/
def refusal (markerType : String) (key : Value) : Failure :=
  if key.octets?.isSome then .module (.nameInOctets markerType)
  else
    match key.readAttribute endingName with
    | .error f => .access f
    | .ok _ => .access (key.withoutAttribute endingName)

/-- The entries of a mapping. All keys have to be texts or like texts. -/
def readAll (markerType : String) : List (Value × Value) → Except Failure (List Entry)
  | [] => .ok []
  | (key, value) :: es =>
    match key.likeText? with
    | some text => (readAll markerType es).map (⟨key, text, value⟩ :: ·)
    | none => .error (refusal markerType key)

end Entry

namespace Module

/-- The entries of a role. -/
def ofRole (m : String) (r : Role) (es : List Entry) : List Entry := es.filter fun e => e.role m == r

/-- The signature entry of a function entry. -/
def signatureOf? (m : String) (es : List Entry) (f : Entry) : Option Entry :=
  (ofRole m .signature es).find? fun e => e.text == f.text ++ m

/-- Whether a signature entry belongs to a function entry. -/
def hasFunction (m : String) (es : List Entry) (s : Entry) : Bool :=
  (ofRole m .function es).any fun f => f.text == dropLast s.text

/-- The signature entries without a function. -/
def orphans (m : String) (es : List Entry) : List Entry :=
  (ofRole m .signature es).filter fun s => !hasFunction m es s

/-- Wraps a function entry with its signature, or keeps it. -/
def wrapFunction (call : Caller) (m : String) (es : List Entry) (f : Entry) : Exec (Value × Value) :=
  match signatureOf? m es f with
  | some s => do return (f.key, ← Value.wrap call s.value f.value f.key)
  | none => do
    Exec.log (.unsigned f.key)
    return f.pair

/-- Wraps function entries in order. -/
def wrapFunctions (call : Caller) (m : String) (es : List Entry) : List Entry → Exec (List (Value × Value))
  | [] => pure []
  | f :: fs => do
    let e ← wrapFunction call m es f
    let rest ← wrapFunctions call m es fs
    return e :: rest

/-- Tells of signature entries in order. -/
def reportOrphans : List Entry → Exec Unit
  | [] => pure ()
  | s :: ss => do
    Exec.log (.orphan s.key)
    reportOrphans ss

/-- The entries of a module under its checks. -/
def wrapEntries (call : Caller) (m : String) (es : List Entry) : Exec (List (Value × Value)) := do
  let functions ← wrapFunctions call m es (ofRole m .function es)
  reportOrphans (orphans m es)
  return (ofRole m .data es).map Entry.pair ++ functions

/-- Whether the first key of a row of entries, if there is one, is a text. That is assumed to be all that the
    runtime checker asks of the keys of a mapping that is given or returned: it goes through none of the
    others and looks at no value. -/
def firstKeyIsText (es : List (Value × Value)) : Bool :=
  match es with
  | [] => true
  | (key, _) :: _ => key.isText

/-- A mapping as a new object. -/
def newMapping (es : List (Value × Value)) : Exec Value := do
  unless firstKeyIsText es do Exec.fail (.misuse .result)
  return .mapping (← Exec.fresh) .plain es

/-- The text of the marker that a value names, or of the marker in force for nothing. It has to be one
    character long by its own account. -/
def chooseMarker (marker : Value) : Exec String := do
  match marker with
  | .null => return String.singleton (← get).marker
  | v =>
    if v.length? = some 1 then return v.text?.getD ""
    else Exec.fail (.module (.badMarker v))

/-- The name of the type of the text that keys are asked about. -/
def markerType : Value → String
  | .null => "str"
  | v => v.fullTypeName

/-- A mapping that holds a module under its checks, made of a mapping with functions and signatures. -/
def wrap (call : Caller) (spec marker : Value) : Exec Value := do
  match spec.entries? with
  | none => Exec.fail (.misuse .parameter)
  | some es =>
    unless firstKeyIsText es && marker.isNameOrNull do Exec.fail (.misuse .parameter)
    let m ← chooseMarker marker
    let entries ← Exec.lift id (Entry.readAll (markerType marker) es)
    newMapping (← wrapEntries call m entries)

end Module
end CallGuard
