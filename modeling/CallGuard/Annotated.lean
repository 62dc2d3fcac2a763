import CallGuard.Store

/-! Functions whose parameters and results are annotated with types, checked when they are called. Values
    that are given are checked before they are bound to parameters, and the result at the end. Functions
    without annotations are called as they are. -/

namespace CallGuard

/-- The functions with annotations that are offered as examples, and one without. -/
inductive Annotated
  | repeated
  | toInteger
  | plain
  deriving DecidableEq

namespace Annotated

/-- The name of a function. -/
def text : Annotated → String
  | repeated => "repeat"
  | toInteger => "to_int"
  | plain => "plain"

/-- The function with a name. -/
def ofText? (s : String) : Option Annotated := [repeated, toInteger, plain].find? fun f => f.text == s

/-- The parameters of a function. -/
def parameters : Annotated → Parameters
  | repeated => ⟨"repeat", [], ["a"], ["b"], []⟩
  | toInteger => ⟨"to_int", [], ["x"], [], []⟩
  | plain => ⟨"plain", [], ["x"], ["y"], []⟩

/-- Whether a value fits the annotation of a parameter. -/
def fits (f : Annotated) (parameter : String) (v : Value) : Bool :=
  match f, parameter with
  | repeated, "a" => v.integer?.isSome
  | repeated, "b" => v.isText
  | _, _ => true

/-- Whether a result fits the annotation of a function. -/
def fitsResult (f : Annotated) (v : Value) : Bool :=
  match f with
  | repeated => v.isText
  | toInteger => v.integer?.isSome
  | plain => true

/-- What a function does with the values of its parameters. -/
def run (f : Annotated) (bound : List (String × Value)) : Except OperandFault Value :=
  match f with
  | repeated => ((bound.lookup "b").getD (.ofString "b")).operate .multiply ((bound.lookup "a").getD (.ofInt 1))
  | toInteger => .ok ((bound.lookup "x").getD .null)
  | plain => .ok ((bound.lookup "y").getD .null)

/-- The value that a call gives a parameter before it is bound: one by position stands before one by
    name. -/
def given (f : Annotated) (args : List Value) (named : List (String × Value)) (parameter : String) :
    Option Value :=
  (f.parameters.positional.zip args).lookup parameter <|> named.lookup parameter

/-- Calls a function under its annotations. -/
def call (f : Annotated) (args : List Value) (named : List (String × Value)) : Except Failure Value := do
  unless f.parameters.positional.all fun p => (f.given args named p).all (f.fits p) do
    throw (.misuse .parameter)
  let bound ← (f.parameters.bind args named).mapError .binding
  let result ← (f.run bound).mapError .operand
  unless f.fitsResult result do throw (.misuse .result)
  return result

end Annotated
end CallGuard
