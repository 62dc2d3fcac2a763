import CallGuard.Text.Lines

/-! Automation sessions: the requests that the project's sessions make of the tool that runs them. A
    session is a plan, a row of requests that ends well or with a fault; the tool may fail at one of
    them, which is then the last. The row depends on one answer, the list of installed packages, of
    which the lines that name a package are logged. -/

namespace CallGuard.Automation

/-- What a session asks its tool to do. -/
inductive Method
  | install
  | run
  | log
  deriving DecidableEq

/-- The name of a method. -/
def Method.text : Method → String
  | install => "install"
  | run => "run"
  | log => "log"

/-- One request, with its arguments, and whether its output is kept from the terminal. -/
structure Request where
  method : Method
  arguments : List String
  silent : Bool := false
  deriving DecidableEq

/-- Why a session ends early: the tool failed, or it listed no packages. -/
inductive Fault
  | failed (m : Method)
  | noList
  deriving DecidableEq

namespace Fault

/-- The name of the class of a fault. -/
def className : Fault → String
  | failed _ => "RuntimeError"
  | noList => "AttributeError"

/-- The wording of a fault. -/
def message : Fault → String
  | failed m => m.text ++ " failed"
  | noList => "'NoneType' object has no attribute 'split'"

end Fault

/-- The requests of a session and how it ends. -/
structure Plan where
  requests : List Request
  fault : Option Fault := none

namespace Plan

/-- One plan after another. Nothing comes after a fault. -/
def andThen (p q : Plan) : Plan :=
  match p.fault with
  | some _ => p
  | none => ⟨p.requests ++ q.requests, q.fault⟩

/-- The plan of one request. -/
def ask (method : Method) (arguments : List String) (silent : Bool := false) : Plan :=
  { requests := [{ method, arguments, silent }] }

/-- What becomes of a plan if the tool fails at the request with a number, counted from zero. -/
def failingAt (p : Plan) (n : Nat) : Plan :=
  match p.requests[n]? with
  | some r => ⟨p.requests.take (n + 1), some (.failed r.method)⟩
  | none => p

end Plan

/-- The lines of a text, parted by line feeds only. There is always one. -/
def splitLines : List Char → List (List Char)
  | [] => [[]]
  | c :: cs =>
    if c = '\n' then [] :: splitLines cs
    else
      match splitLines cs with
      | [] => [[c]]
      | l :: ls => (c :: l) :: ls

/-- Whether a text occurs in another. -/
def occursIn (part : List Char) : List Char → Bool
  | [] => part.isEmpty
  | c :: cs => part.isPrefixOf (c :: cs) || occursIn part cs

/-- Logging the installed version of a package: the lines that name it. -/
def logVersion (package : String) (installed : Option String) : Plan :=
  (Plan.ask .run ["pip", "list"] true).andThen <|
    match installed with
    | none => { requests := [], fault := some .noList }
    | some text =>
      let lines := (splitLines text.toList).filter (occursIn package.toList)
      { requests := lines.map fun l => { method := .log, arguments := [String.ofList l] } }

/-- The sessions of the project. -/
inductive Task
  | tests
  | testsTorch
  | precommit
  deriving DecidableEq

namespace Task

/-- All sessions, in the order of their definition. -/
def all : List Task := [tests, testsTorch, precommit]

/-- The name of a session. -/
def text : Task → String
  | tests => "tests"
  | testsTorch => "tests_torch"
  | precommit => "precommit"

/-- The session with a name. -/
def ofText? (s : String) : Option Task := all.find? fun t => t.text == s

/-- The versions of the language that a session runs on. -/
def versions : Task → List String
  | tests => ["3.10", "3.11", "3.12"]
  | _ => ["3.11"]

/-- What a session says of itself. -/
def summary : Task → String
  | tests => "Run the tests."
  | testsTorch =>
    "Run the tests with the optional torch dependency installed.\n\n    "
      ++ "The CPU version of pytorch is a much smaller download than the default\n    "
      ++ "`torch` package hosted on pypi.\n    "
  | precommit => "Run the pre-commit hooks."

/-- Installing what the tests need. -/
def installTools : Plan := .ask .install ["-r", "requirements_dev.txt"]

/-- Installing the project itself. -/
def installProject : Plan := .ask .install ["."]

/-- The plan of a session, by what the tool lists as installed and the arguments that it passes on. -/
def plan (installed : Option String) (arguments : List String) : Task → Plan
  | tests =>
    installTools.andThen <| installProject.andThen <| (logVersion "beartype" installed).andThen <|
      .ask .run ("pytest" :: arguments)
  | testsTorch =>
    (Plan.ask .install ["torch", "--extra-index-url", "https://download.pytorch.org/whl/cpu"]).andThen <|
      installTools.andThen <| installProject.andThen <| (logVersion "torch" installed).andThen <|
      .ask .run ("pytest" :: arguments)
  | precommit => installTools.andThen <| .ask .run ["pre-commit", "run", "--all-files"]

end Task

/-- Whether a session may run no program from outside its environment. -/
def forbidsExternal : Bool := true

end CallGuard.Automation
