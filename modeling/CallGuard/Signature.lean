import CallGuard.Tag

/-! Signatures: the tags of the arguments of a call and the tag of its result. The result is a field of
    its own, so every signature has one. As a row of tags, a signature is the tags of its arguments with
    the tag of its result at the end (`tags`), and every row but the empty one is the row of exactly one
    signature (`ofTags?_eq_some_iff`). -/

namespace CallGuard

/-- The tags of the arguments and of the result of a function. -/
structure Signature where
  arguments : List Tag
  result : Tag
  deriving DecidableEq, Inhabited

namespace Signature

/-- The number of arguments. -/
def arity (s : Signature) : Nat := s.arguments.length

/-- All tags of a signature in a row, the result at the end. -/
def tags (s : Signature) : List Tag := s.arguments ++ [s.result]

/-- The signature of a row of tags. The empty row has none. -/
def ofTags? (ts : List Tag) : Option Signature :=
  ts.getLast?.map fun r => ⟨ts.dropLast, r⟩

/-- The row of tags in parentheses, as a diagnostic shows it. -/
def written (s : Signature) : String :=
  match s.arguments with
  | [] => "(" ++ s.result.written ++ ",)"
  | _ => "(" ++ ", ".intercalate (s.tags.map Tag.written) ++ ")"

theorem tags_ne_nil (s : Signature) : s.tags ≠ [] := by simp [tags]

@[simp] theorem length_tags (s : Signature) : s.tags.length = s.arity + 1 := by simp [tags, arity]

@[simp] theorem ofTags?_tags (s : Signature) : ofTags? s.tags = some s := by
  simp [ofTags?, tags]

theorem ofTags?_eq_some_iff {ts : List Tag} {s : Signature} : ofTags? ts = some s ↔ ts = s.tags := by
  constructor
  · intro h
    obtain ⟨r, hr, rfl⟩ := Option.map_eq_some_iff.mp h
    obtain ⟨ys, rfl⟩ := List.getLast?_eq_some_iff.mp hr
    simp [tags]
  · rintro rfl
    exact ofTags?_tags s

@[simp] theorem ofTags?_eq_none_iff {ts : List Tag} : ofTags? ts = none ↔ ts = [] := by
  simp [ofTags?]

end Signature
end CallGuard
