import CallGuard.Invoke

/-! Wrapping: making a checked function of an implementation and a signature. The display name is the
    one given, or else the name of the implementation, and `anonymous` where that has none worth
    showing. Wrapping is logged. The items of the signature are taken as they are, which is what they come to
    where none of them answers for itself. -/

namespace CallGuard

namespace Metadata

/-- Metadata whose attributes are objects. -/
def adopt (m : Metadata Value) : Exec (Metadata Value) := do
  return ⟨← m.module.mapM Exec.adopt, ← m.name.mapM Exec.adopt, ← m.qualname.mapM Exec.adopt,
    ← m.doc.mapM Exec.adopt⟩

end Metadata

namespace Checked

/-- The display name of an implementation that has none of its own. -/
def anonymous : String := "anonymous"

/-- The name that an implementation has if nobody gave it one. -/
def unnamed : String := "<lambda>"

/-- The display name that an implementation gives a checked function. How values are called is a
    parameter here and below. -/
def defaultName (call : Caller) (implementation : Value) : Exec Value := do
  match implementation.metadata.name with
  | none => return .ofString anonymous
  | some name =>
    if !(← name.askTruth call) then return .ofString anonymous
    if ← name.askEqual call (.ofString unnamed) then return .ofString anonymous
    return name

end Checked

namespace Value

/-- Whether a value can be given as a display name: a text, or nothing. -/
def isNameOrNull : Value → Bool
  | .null => true
  | v => v.isText

/-- Makes a checked function. -/
def wrap (call : Caller) (signature implementation name : Value) : Exec Value := do
  unless implementation.isImplementation && name.isNameOrNull do Exec.fail (.misuse .parameter)
  let parsed ← Exec.lift Failure.signature (Signature.read signature)
  let display ← match name with
    | .null => Checked.defaultName call implementation
    | _ => pure name
  Exec.log (.wrapping display parsed)
  let id ← Exec.fresh
  let _ ← Exec.fresh
  return .checked id ⟨parsed, implementation, display, ← implementation.metadata.adopt⟩

/-- Makes a checked function of an implementation and the tags of its signature one by one. -/
def wrapTyped (call : Caller) (tags : List Value) (implementation name : Value) : Exec Value :=
  wrap call (.tuple tags) implementation name

end Value
end CallGuard
