import CallGuard.Package.Files

/-! Requirements files: one requirement a line. Lines that are blank, comments, which start with a number
    sign, and options, which start with a dash, hold none. -/

namespace CallGuard.Package

namespace Requirements

/-- Whether a trimmed line holds a requirement. -/
def holds : List Char → Bool
  | [] => false
  | c :: _ => c != '#' && c != '-'

/-- The requirements of a text, in order. -/
def ofText (cs : List Char) : List (List Char) := ((Text.lines cs).map Text.trim).filter holds

/-- The requirements of the file that a path leads to. -/
def read (fs : Files) (p : Path) : Except FileFault (List String) :=
  if fs.exists? p then (fs.readText p).map fun cs => (ofText cs).map String.ofList
  else .error (.absent (writtenPath p))

theorem holds_of_mem_ofText {cs l : List Char} (h : l ∈ ofText cs) : holds l = true :=
  (List.mem_filter.mp h).2

/-- Every requirement is a trimmed line. -/
theorem exists_of_mem_ofText {cs l : List Char} (h : l ∈ ofText cs) :
    ∃ k ∈ Text.lines cs, Text.trim k = l :=
  List.mem_map.mp (List.mem_filter.mp h).1

end Requirements
end CallGuard.Package
