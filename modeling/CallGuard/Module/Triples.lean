import CallGuard.Module.Convention

/-! Modules from triples of a name, a signature and a function. The triples come in any order of names,
    each name once. A row of triples is looked at before it is used; an iterator is not, and has lost
    just the triples up to the first that fails. A triple may itself be an iterator, which loses its
    parts, and one more if there are too many. -/

namespace CallGuard

namespace Triples

/-- Whether a value is a triple of a text, anything, and a callable. -/
def isTriple (v : Value) : Bool :=
  match v.tuple? with
  | some [name, _, function] => name.isText && function.isImplementation
  | _ => false

/-- Whether a value counts as something to go through: items alone do not make it so. -/
def isIterable (v : Value) : Bool :=
  match v with
  | .custom _ c => c.traits.sequence || (c.content.bind Value.coreItems?).isSome
  | v => v.items?.isSome || v.traits.sequence

/-- Whether a value is refused before it is gone through. The runtime checker is assumed to take every value that
    can be gone through, to leave an iterator alone, and to look at one item of any other value, which has to
    be a triple. Which one is its own choice: it is taken to be the first, which is any other's equal where
    all items are triples or none is. -/
def isMisused (v : Value) : Bool :=
  match v with
  | .iterator .. => false
  | v =>
    !isIterable v ||
      match v.items? with
      | some (first :: _) => !isTriple first
      | _ => false

/-- The three parts of a value. -/
def unpack (v : Value) : Exec (Value × Value × Value) := do
  match ← v.takeItems? 4 with
  | none => Exec.fail (.measure (.noParts v.fullTypeName))
  | some [name, signature, function] => return (name, signature, function)
  | some vs => Exec.fail (.measure (if vs.length < 3 then .tooFewParts vs.length else .tooManyParts))

/-- Refuses a name that cannot be a key or is among those that are done. -/
def checkName (name : Value) (done : List (Value × Value)) : Exec Unit := do
  Exec.checkKeys [name]
  if done.any fun e => name.sameKey e.1 then Exec.fail (.module (.duplicateName name))

/-- The entries that are done with that of one more triple. -/
def wrapOne (call : Caller) (done : List (Value × Value)) (v : Value) : Exec (List (Value × Value)) := do
  let (name, signature, function) ← unpack v
  checkName name done
  let c ← Value.wrap call signature function name
  return done ++ [(name, c)]

/-- Wraps triples in order, behind those that are done. -/
def wrapAll (call : Caller) (done : List (Value × Value)) : List Value → Exec (List (Value × Value))
  | [] => pure done
  | v :: vs => do wrapAll call (← wrapOne call done v) vs

/-- Wraps the triples that an iterator yields, at most as many as the fuel, behind those that are done.
    Each is taken from the iterator only when its turn comes, for a triple may be the iterator itself. -/
def wrapFrom (call : Caller) (id : ObjectId) (vs : List Value) :
    (fuel : Nat) → (done : List (Value × Value)) → Exec (List (Value × Value))
  | 0, done => pure done
  | fuel + 1, done => do
    match vs[(← get).takenFrom id]? with
    | none => return done
    | some v => do
      Exec.recordTaken id
      wrapFrom call id vs fuel (← wrapOne call done v)

/-- A mapping that holds checked functions by name, made of triples. -/
def wrap (call : Caller) (entries : Value) : Exec Value := do
  if isMisused entries then Exec.fail (.misuse .parameter)
  match entries with
  | .iterator id vs => do Module.newMapping (← wrapFrom call id vs vs.length [])
  | v =>
    match v.items? with
    | some vs => do Module.newMapping (← wrapAll call [] vs)
    | none => Exec.fail (.measure (.notIterable v.fullTypeName))

end Triples
end CallGuard
