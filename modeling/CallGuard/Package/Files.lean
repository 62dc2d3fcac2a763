import CallGuard.Text.Lines
import CallGuard.Text.Utf8

/-! The files of a distribution: a tree of directories, given by the paths of what it holds. A path leads
    to octets or to a directory, and every path on the way to another leads to a directory. Text is read
    as UTF-8, with all line ends made line feeds. -/

namespace CallGuard.Package

/-- A path from the root of the tree. -/
abbrev Path := List String

/-- A path and all paths on the way to it, from the root on. -/
def waysTo (p : Path) : List Path := (List.range (p.length + 1)).map p.take

/-- What a path leads to. -/
inductive Content
  | octets (bytes : List UInt8)
  | directory

/-- What a tree holds, by path. -/
abbrev Files := List (Path × Content)

/-- Why a file cannot be read. -/
inductive FileFault
  | absent (path : String)
  | noSuchFile (path : String)
  | isDirectory (path : String)
  | undecodable (fault : Text.Utf8.Fault)

namespace FileFault

/-- The name of the class of a fault. -/
def className : FileFault → String
  | absent _ => "FileNotFoundError"
  | noSuchFile _ => "FileNotFoundError"
  | isDirectory _ => "IsADirectoryError"
  | undecodable _ => "UnicodeDecodeError"

/-- The wording of a fault. -/
def message : FileFault → String
  | absent path => path ++ " not found"
  | noSuchFile path => "[Errno 2] No such file or directory: " ++ Text.quoted path
  | isDirectory path => "[Errno 21] Is a directory: " ++ Text.quoted path
  | undecodable fault => fault.message

end FileFault

/-- How the root of the tree is written. -/
def rootName : String := "<here>"

/-- A path as it is written in a message. -/
def writtenPath (p : Path) : String := "/".intercalate (rootName :: p)

namespace Files

/-- Whether a path leads to a directory. -/
def isDirectory (fs : Files) (p : Path) : Bool :=
  fs.any fun e =>
    match e.2 with
    | .directory => p.isPrefixOf e.1
    | .octets _ => p.isPrefixOf e.1 && p != e.1

/-- The octets of the file that a path leads to. Of several the last counts. -/
def octets? (fs : Files) (p : Path) : Option (List UInt8) :=
  (fs.reverse.find? fun e => e.1 == p).bind fun e =>
    match e.2 with
    | .octets bs => some bs
    | .directory => none

/-- Whether a path leads to a file. -/
def isFile (fs : Files) (p : Path) : Bool := (fs.octets? p).isSome

/-- Whether a path leads anywhere. -/
def exists? (fs : Files) (p : Path) : Bool := fs.isFile p || fs.isDirectory p

/-- The text of octets, with all line ends made line feeds. -/
def decodeText (bs : List UInt8) : Except FileFault (List Char) :=
  match Text.Utf8.decode bs with
  | .ok cs => .ok (Text.unifyBreaks cs)
  | .error fault => .error (.undecodable fault)

/-- The text of the file that a path leads to. -/
def readText (fs : Files) (p : Path) : Except FileFault (List Char) :=
  match fs.octets? p with
  | some bs => decodeText bs
  | none => .error (if fs.isDirectory p then .isDirectory (writtenPath p) else .noSuchFile (writtenPath p))

/-- The directories of a tree: the paths on the way to others, and the directories that it names. -/
def directories (fs : Files) : List Path :=
  (fs.flatMap fun e =>
    match e.2 with
    | .directory => waysTo e.1
    | .octets _ => waysTo e.1.dropLast).eraseDups

end Files
end CallGuard.Package
