import CallGuard.Package.Discovery
import CallGuard.Package.Requirements

/-! What the distribution asks of its builder: a fixed description, the text of its introduction, its
    packages, and its requirements, those to run and those to test. The files are read in that order,
    and the first that cannot be read ends it. -/

namespace CallGuard.Package

/-- The request to a builder of distributions. -/
structure Setup where
  name : String := "deodorant"
  version : String := "0.1.0"
  description : String := "Runtime type checking for plain Python functions"
  longDescription : String
  longDescriptionType : String := "text/markdown"
  packageRoots : List (String × String) := [("", "src")]
  packages : List String
  language : String := ">=3.10"
  required : List String
  extras : List (String × List String)
  zipSafe : Bool := false

namespace Setup

/-- The file with the introduction. -/
def introduction : String := "README.md"

/-- The file with the requirements to run. -/
def requirements : String := "requirements.txt"

/-- The file with the requirements to test. -/
def testRequirements : String := "requirements_dev.txt"

/-- The request that a tree of files makes. -/
def ofFiles (fs : Files) : Except FileFault Setup := do
  let text ← fs.readText [introduction]
  let required ← Requirements.read fs [requirements]
  let test ← Requirements.read fs [testRequirements]
  return {
    longDescription := String.ofList text
    packages := Discovery.packages fs ["src"]
    required
    extras := [("test", test), ("torch", ["torch"])] }

end Setup
end CallGuard.Package
