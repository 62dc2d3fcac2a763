import CallGuard.Package.Files

/-! Discovery of packages: the directories below a root that hold an initial file and have no point in
    their names, as have all directories on the way to them. Some are left out by their dotted names,
    but not the packages inside them. -/

namespace CallGuard.Package

namespace Discovery

/-- The file that makes a directory a package. -/
def initialFile : String := "__init__.py"

/-- Whether a directory looks like a package by itself. -/
def looksLikePackage (fs : Files) (directory : Path) : Bool :=
  match directory.getLast? with
  | some name => !name.toList.contains '.' && fs.isFile (directory ++ [initialFile])
  | none => false

/-- The dotted name of a package. -/
def dotted (p : Path) : String := ".".intercalate p

/-- Whether a dotted name is left out. -/
def isExcluded (name : String) : Bool :=
  name == "ez_setup" || "__pycache__".toList.isSuffixOf name.toList

/-- Whether a path below the root leads to a package: it and all directories on the way look like
    packages. -/
def isPackage (fs : Files) (root p : Path) : Bool :=
  !p.isEmpty && (waysTo p).all fun q => q.isEmpty || looksLikePackage fs (root ++ q)

/-- The dotted names of the packages below a root, in order of their characters. -/
def packages (fs : Files) (root : Path) : List String :=
  let below := fs.directories.filterMap fun d =>
    if root.isPrefixOf d then some (d.drop root.length) else none
  let names := (below.filter (isPackage fs root)).map dotted
  (names.filter fun n => !isExcluded n).mergeSort fun a b => !decide (b < a)

end Discovery
end CallGuard.Package
