import CallGuard.Asking
import CallGuard.Value.Based

/-! Building values of their blueprints. Parts are built before the whole, in order; a container that
    needs keys refuses parts that cannot be keys. -/

namespace CallGuard

/-- Refuses values that cannot be keys. -/
def Exec.checkKeys : List Value → Exec Unit
  | [] => pure ()
  | v :: vs =>
    match v.keyFault? with
    | some f => Exec.fail (.key f)
    | none => checkKeys vs

namespace Value

/-- The reply whose truth is the truth of a value. -/
def toReply (v : Value) : Reply :=
  match v.isTrue with
  | .ok unequal => .truth unequal
  | .error a => .ambiguous a

/-- A set of values as a new object. -/
def newSet (frozen : Bool) (vs : List Value) : Exec Value := do
  Exec.checkKeys vs
  return .set (← Exec.fresh) frozen (gatherMembers vs)

/-- A mapping of entries as a new object. -/
def newMapping (form : MappingKind) (es : List (Value × Value)) : Exec Value := do
  Exec.checkKeys (es.map Prod.fst)
  return .mapping (← Exec.fresh) form (gatherEntries es)

/-- An object of a class of its own. -/
def newCustom (className : String) (base : Base) (content : Option Value) (items : Option (List Value))
    (traits : AddedTraits) (replies : List Reply) : Exec Value := do
  let content ← match base, content with
    | .object, _ => pure none
    | _, some v => some <$> Exec.lift Failure.conversion (base.hold v)
    | _, none => pure base.empty?
  let replies := match replies with
    | [] => none
    | r :: rs => some ⟨r, rs⟩
  return .custom (← Exec.fresh) ⟨className, content, items, traits, replies⟩

end Value

namespace Blueprint

mutual

/-- A new value of a blueprint. How values are called is a parameter. -/
def build (call : Caller) : Blueprint → Exec Value
  | .integer id n => pure (.integer id n)
  | .text id s => pure (.text id s)
  | .atom a => do return a.toValue (← Exec.fresh)
  | .sequence form bs => do
    let vs ← buildAll call bs
    return .sequence (← Exec.fresh) form vs
  | .set frozen bs => do Value.newSet frozen (← buildAll call bs)
  | .mapping form es => do Value.newMapping form (← buildEntries call es)
  | .iterator bs => do
    let vs ← buildAll call bs
    return .iterator (← Exec.fresh) vs
  | .custom className base content items traits retorts => do
    let content ← buildOption call content
    let items ← buildRow call items
    let replies ← buildReplies call retorts
    Value.newCustom className base content items traits replies
  | .routine label ⟨module, name, qualname, doc⟩ body => do
    let module ← buildOption call module
    let name ← buildOption call name
    let qualname ← buildOption call qualname
    let doc ← buildOption call doc
    return .routine (← Exec.fresh) ⟨label, ⟨module, name, qualname, doc⟩, body⟩
  | .named name => Exec.valueOf name
  | .item b key => do
    let v ← build call b
    let k ← build call key
    Exec.adopt (← v.askItem call k)
  | .attribute b name => do
    let v ← build call b
    Exec.adopt (← Exec.lift Failure.access (v.readAttribute name))
  | .new b => do
    let f ← build call b
    call f []
  | .marked mark b => do
    let v ← build call b
    if let some id := v.id? then Exec.recordOrigin id mark
    return v
  | .refused r => Exec.fail (.refused r)
termination_by structural b => b

/-- New values of blueprints, in order. -/
def buildAll (call : Caller) : List Blueprint → Exec (List Value)
  | [] => pure []
  | b :: bs => do
    let v ← build call b
    let vs ← buildAll call bs
    return v :: vs
termination_by structural bs => bs

/-- New values of the blueprints of entries, in order. -/
def buildEntries (call : Caller) : List (Blueprint × Blueprint) → Exec (List (Value × Value))
  | [] => pure []
  | (b, c) :: es => do
    let k ← build call b
    let v ← build call c
    let rest ← buildEntries call es
    return (k, v) :: rest
termination_by structural es => es

/-- A new value of a blueprint that may be missing. -/
def buildOption (call : Caller) : Option Blueprint → Exec (Option Value)
  | none => pure none
  | some b => some <$> build call b
termination_by structural b => b

/-- New values of a row of blueprints that may be missing. -/
def buildRow (call : Caller) : Option (List Blueprint) → Exec (Option (List Value))
  | none => pure none
  | some bs => some <$> buildAll call bs
termination_by structural bs => bs

/-- The replies that retorts come to. -/
def buildReplies (call : Caller) : List (Retort Blueprint) → Exec (List Reply)
  | [] => pure []
  | .raised e :: rs => do return .raised e :: (← buildReplies call rs)
  | .value b :: rs => do
    let v ← build call b
    let rest ← buildReplies call rs
    return v.toReply :: rest
termination_by structural rs => rs

end

end Blueprint
end CallGuard
