import CallGuard.Store

/-! The marker: the character that tells the keys of signatures from those of functions. The environment
    may name it. What the environment names is taken if it is one character; anything else is warned of,
    and the default stands. -/

namespace CallGuard

namespace Marker

/-- The marker that an environment configures, and the warning about what it names, if any. -/
def ofEnvironment : Option String → Char × Option String
  | none => (defaultMarker, none)
  | some s =>
    match s.toList with
    | [c] => (c, none)
    | _ =>
      (defaultMarker,
        some ("Invalid signature marker " ++ Text.quoted s ++ ". The marker must be a single character. Using "
          ++ Text.quoted (String.singleton defaultMarker) ++ " as default."))

/-- Puts the marker of an environment in force. No environment can hold the character zero. -/
def configure (environment : Option String) : Exec (Option String) := do
  if (environment.map fun s => s.toList.contains '\x00').getD false then Exec.fail .nulInEnvironment
  let (marker, warning) := ofEnvironment environment
  modify fun s => { s with marker }
  return warning

theorem ofEnvironment_none : ofEnvironment none = (defaultMarker, none) := rfl

/-- A single character is taken as it is and not warned of. -/
theorem ofEnvironment_singleton (c : Char) : ofEnvironment (some (String.singleton c)) = (c, none) := by
  simp [ofEnvironment]

end Marker
end CallGuard
