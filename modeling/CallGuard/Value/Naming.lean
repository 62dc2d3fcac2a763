import CallGuard.Value.Truth
import CallGuard.Value.Written

/-! The tag that a value names: a tag names itself, and so does whatever equals its text. An array equals what its
    one element equals; with no or several elements it cannot be compared. This is said of the value alone:
    an object of a class that is made on the way equals no text here, and answers for itself only where it is
    asked. -/

namespace CallGuard

/-- The text that a value equals, if any. -/
def Value.equalText? (v : Value) : Except Ambiguity (Option String) :=
  match v.core with
  | .array _ g =>
    match g.items with
    | [.text s] => .ok (some s)
    | [_] => .ok none
    | [] => .error .empty
    | _ => .error .several
  | _ => .ok v.likeText?

/-- The tag that a value names. -/
def Tag.ofValue? (v : Value) : Except Ambiguity (Option Tag) := do
  return (← v.equalText?).bind Tag.ofText?

/-- A tag names itself, as does its text in any kind of text. -/
@[simp] theorem Tag.ofValue?_tag (t : Tag) : Tag.ofValue? (.tag t) = .ok (some t) := by
  simp [Tag.ofValue?, Value.equalText?, Value.core, Value.likeText?, Value.text?, bind, Except.bind, pure,
    Except.pure]

@[simp] theorem Tag.ofValue?_text (i : ObjectId) (t : Tag) : Tag.ofValue? (.text i t.text) = .ok (some t) := by
  simp [Tag.ofValue?, Value.equalText?, Value.core, Value.likeText?, Value.text?, bind, Except.bind, pure,
    Except.pure]

end CallGuard
