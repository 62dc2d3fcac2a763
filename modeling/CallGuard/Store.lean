import CallGuard.Failure

/-! The store: what operations leave behind for later ones. It hands out identities, holds variables and
    the marker in force, and keeps records that only grow: the calls of routines, the comparisons of
    numbers with themselves, the items taken from iterators, the marks of the blueprints that objects were
    built of, and the log. -/

namespace CallGuard

/-- What the library tells of its work. -/
inductive LogRecord
  | wrapping (name : Value) (signature : Signature)
  | unsigned (name : Value)
  | orphan (key : Value)

namespace LogRecord

/-- The name under which a record is logged: wrapping is told by the wrapper, the rest by modules. -/
def logger : LogRecord → String
  | wrapping .. => "deodorant.checking.wrapper"
  | _ => "deodorant.checking.module"

/-- The wording of a record. -/
def message : LogRecord → String
  | wrapping name s => "Wrapping function " ++ name.shown ++ " with signature " ++ s.written
  | unsigned name => "Function " ++ name.shown ++ " has no signature, kept as is"
  | orphan key => "Signature " ++ key.shown ++ " does not match any function, ignored"

end LogRecord

/-- The marker that is in force unless the environment names another. -/
def defaultMarker : Char := '_'

/-- What operations leave behind. -/
structure Store where
  next : ObjectId
  bindings : List (String × Value)
  calls : List (ObjectId × List Value)
  comparisons : List Value
  taken : List ObjectId
  origins : List (ObjectId × Nat)
  logs : List LogRecord
  marker : Char

namespace Store

/-- The store before the first operation. -/
def initial : Store := ⟨1, [], [], [], [], [], [], defaultMarker⟩

/-- The arguments of the calls of a routine, in order. -/
def callsOf (s : Store) (id : ObjectId) : List (List Value) :=
  (s.calls.filter (·.1 == id)).map Prod.snd

/-- How many items have been taken from an iterator. -/
def takenFrom (s : Store) (id : ObjectId) : Nat := s.taken.count id

/-- The mark of the blueprint that an object was built of, if it has one. -/
def originOf? (s : Store) (id : ObjectId) : Option Nat := s.origins.lookup id

end Store

/-- Why an operation stopped: it failed, or calls or values were nested deeper than allowed, or it came to
    a callable of the environment whose work is left open. -/
inductive Stop
  | failed (f : Failure)
  | exhausted
  | leftOpen (callable : String)

/-- An operation on the store. It may stop, and what it left behind until then stays. -/
abbrev Exec := ExceptT Stop (StateM Store)

namespace Exec

/-- Stops with a failure. -/
def fail {α : Type} (f : Failure) : Exec α := throw (.failed f)

/-- A result, or a stop with the failure of a fault. -/
def lift {ε α : Type} (cause : ε → Failure) : Except ε α → Exec α
  | .ok a => pure a
  | .error e => fail (cause e)

/-- An operation that goes on after some failures, each in its own way. What it left behind until then
    stays, and every other stop ends it. -/
def recover {α : Type} (x : Exec α) (handler : Failure → Option (Exec α)) : Exec α := ExceptT.mk do
  match ← x.run with
  | .error (.failed f) => ((handler f).getD (fail f)).run
  | r => return r

/-- A new identity. -/
def fresh : Exec ObjectId := do
  let s ← get
  set { s with next := s.next + 1 }
  return s.next

/-- A value made on the way as a new object. -/
def adopt (v : Value) : Exec Value := do
  match v.id? with
  | some 0 => return v.identified (← fresh)
  | _ => return v

/-- Records a call of a routine. -/
def recordCall (id : ObjectId) (args : List Value) : Exec Unit :=
  modify fun s => { s with calls := s.calls ++ [(id, args)] }

/-- Records that a value is compared with itself. -/
def recordComparison (v : Value) : Exec Unit :=
  modify fun s => { s with comparisons := s.comparisons ++ [v] }

/-- Records that an item is taken from an iterator. -/
def recordTaken (id : ObjectId) : Exec Unit :=
  modify fun s => { s with taken := s.taken ++ [id] }

/-- Records the mark of the blueprint that an object is built of. -/
def recordOrigin (id : ObjectId) (mark : Nat) : Exec Unit :=
  modify fun s => { s with origins := (id, mark) :: s.origins }

/-- Adds a record to the log. -/
def log (r : LogRecord) : Exec Unit :=
  modify fun s => { s with logs := s.logs ++ [r] }

/-- Gives a value to a variable. -/
def bind (name : String) (v : Value) : Exec Unit :=
  modify fun s => { s with bindings := (name, v) :: s.bindings }

/-- The value of a variable. -/
def valueOf (name : String) : Exec Value := do
  match (← get).bindings.lookup name with
  | some v => return v
  | none => fail (.unboundVariable name)

/-- Runs an operation on a store. -/
def on {α : Type} (x : Exec α) (s : Store) : Except Stop α × Store := (ExceptT.run x).run s

end Exec
end CallGuard
