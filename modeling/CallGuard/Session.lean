import CallGuard.Annotated
import CallGuard.Marker
import CallGuard.Module.Triples

/-! Sessions: operations one after another on one store. A step that stops keeps what it left behind until
    then, but gives no variable a value, and the session goes on. -/

namespace CallGuard

/-- An operation of a session. -/
inductive Step
  | build (b : Blueprint)
  | classify (v : Value)
  | readSignature (v : Value)
  | lookUpTag (v : Value)
  | lookUpKind (v : Value)
  | report (family : ReportClass) (args : List Value) (named : List (String × Value))
  | wrap (signature implementation name : Value)
  | wrapTyped (tags : List Value) (implementation name : Value)
  | wrapModule (spec marker : Value)
  | wrapTriples (entries : Value)
  | call (f : Value) (args : List Value) (named : List (String × Value))
  | callAnnotated (f : Annotated) (args : List Value) (named : List (String × Value))
  | configure (environment : Option String)
  | readAttribute (v : Value) (name : String)
  | changeAttribute (v : Value) (name : String)
  | defineClass (name : String) (attributes : List (String × Value))
  | hold (v : Value)

/-- What an operation answers. -/
inductive Answer
  | tag (t : Tag)
  | kind (k : Violation)
  | signature (s : Signature)
  | report (r : Report)
  | value (v : Value)
  | marker (warning : Option String)

namespace Answer

/-- The value that an answer gives a variable, if any. -/
def value? : Answer → Option Value
  | value v => some v
  | _ => none

end Answer

/-- Makes a report from arguments. -/
def Report.make (c : ReportClass) (args : List Value) (named : List (String × Value)) : Except Failure Report := do
  let bound ← ((Report.parameters c).bind args named).mapError .binding
  (Report.ofBound c bound).mapError Failure.ambiguous

namespace Step

/-- Runs an operation. How values are called is a parameter. -/
def run (call : Invoker) : Step → Exec Answer
  | build b => do return .value (← b.build (byPosition call))
  | classify v => do return .tag (← v.classify)
  | readSignature v => do return .signature (← Signature.ask .usual (byPosition call) v)
  | lookUpTag v => do return .tag (← Tag.closedSet.find .usual (byPosition call) v)
  | lookUpKind v => do return .kind (← Violation.closedSet.find .usual (byPosition call) v)
  | report c args named => do return .report (← Exec.lift id (Report.make c args named))
  | wrap signature implementation name => do
    return .value (← Value.wrap (byPosition call) signature implementation name)
  | wrapTyped tags implementation name => do
    return .value (← Value.wrapTyped (byPosition call) tags implementation name)
  | wrapModule spec marker => do return .value (← Module.wrap (byPosition call) spec marker)
  | wrapTriples entries => do return .value (← Triples.wrap (byPosition call) entries)
  | .call f args named => do return .value (← call f args named)
  | callAnnotated f args named => do return .value (← Exec.adopt (← Exec.lift id (f.call args named)))
  | configure environment => do return .marker (← Marker.configure environment)
  | readAttribute v name => do return .value (← Exec.adopt (← Exec.lift Failure.access (v.readAttribute name)))
  | changeAttribute v name => Exec.fail (.access (v.change name))
  | defineClass name attributes => do return .value (.ownClass (← Exec.fresh) name attributes)
  | hold v => return .value v

/-- Runs an operation and gives a variable the value that it answers. -/
def performBy (call : Invoker) (s : Step) (target : Option String) : Exec Answer := do
  let answer ← s.run call
  match target, answer.value? with
  | some name, some v => Exec.bind name v
  | _, _ => pure ()
  return answer

/-- Performs an operation with calls nested as deep as they may. -/
def perform : Step → Option String → Exec Answer := performBy Value.call

end Step

namespace Session

/-- Runs operations one after another, each with the variable that takes its value. -/
def runBy (call : Invoker) (s : Store) : List (Step × Option String) → List (Except Stop Answer) × Store
  | [] => ([], s)
  | (step, target) :: rest =>
    let (answer, s') := (step.performBy call target).on s
    let (answers, s'') := runBy call s' rest
    (answer :: answers, s'')

/-- Runs operations with calls nested as deep as they may. -/
def run : Store → List (Step × Option String) → List (Except Stop Answer) × Store := runBy Value.call

end Session

end CallGuard
