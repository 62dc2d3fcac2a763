import CallGuard.Classify

/-! The checks around a call. First the number of arguments is checked, then the tag of each argument,
    then that no argument is NaN, then that none is missing; only then the implementation is called, and
    at last the tag of its result is checked. The first violation is reported, and each of the passes
    over the arguments stops at the first position that offends it. The wildcard accepts every argument,
    and every result but NaN. -/

namespace CallGuard

/-- Whether a tag is accepted where another is expected. -/
def Tag.accepts (expected actual : Tag) : Bool := expected == .void || actual == expected

namespace Checked

/-- Raises a report. -/
def raise {α : Type} (r : Report) : Exec α := Exec.fail (.report r)

/-- Checks the number of arguments. Named arguments count, though a signature has none. -/
def checkCount (c : Checked Value) (given named : Nat) : Exec Unit :=
  if named ≠ 0 ∨ given + named ≠ c.signature.arity then
    raise (.argumentCount (.ofInt c.signature.arity) (.ofInt (given + named)) c.name)
  else pure ()

/-- Checks the tags of arguments against the expected ones, from a position on. -/
def checkTags (c : Checked Value) (position : Nat) : List Tag → List Value → Exec Unit
  | expected :: ts, v :: vs => do
    let actual ← v.classify
    if expected.accepts actual then c.checkTags (position + 1) ts vs
    else raise (.argumentType c.name (.ofInt position) (.tag expected) (.tag actual))
  | _, _ => pure ()

/-- Checks that no argument is NaN, from a position on. -/
def checkNaN (c : Checked Value) (position : Nat) : List Tag → List Value → Exec Unit
  | expected :: ts, v :: vs => do
    let actual ← v.classify
    if actual = .nan then raise (.nanDetected c.name (.ofInt position) (.tag expected))
    else c.checkNaN (position + 1) ts vs
  | _, _ => pure ()

/-- Checks that no argument is missing, from a position on. -/
def checkUndefined (c : Checked Value) (position : Nat) : List Tag → List Value → Exec Unit
  | expected :: ts, v :: vs =>
    match v with
    | .undefined => raise (.undefinedArgument c.name (.ofInt position) (.tag expected))
    | _ => c.checkUndefined (position + 1) ts vs
  | _, _ => pure ()

/-- Checks the tag of a result. -/
def checkResult (c : Checked Value) (v : Value) : Exec Unit := do
  let actual ← v.classify
  let expected := c.signature.result
  if expected = .void then
    if actual = .nan then raise (.nanDetected c.name .null (.tag expected)) else pure ()
  else if actual = expected then pure ()
  else raise (.returnType c.name (.tag expected) (.tag actual))

/-- All checks of the arguments of a call. -/
def checkArguments (c : Checked Value) (args : List Value) (named : Nat) : Exec Unit := do
  c.checkCount args.length named
  c.checkTags 0 c.signature.arguments args
  c.checkNaN 0 c.signature.arguments args
  c.checkUndefined 0 c.signature.arguments args

/-- A call under checks. What the implementation does is a parameter. -/
def guard (c : Checked Value) (args : List Value) (named : Nat) (call : List Value → Exec Value) :
    Exec Value := do
  c.checkArguments args named
  let result ← call args
  c.checkResult result
  return result

end Checked
end CallGuard
