/-! Errors that belong to the values of a program and not to its checks: what a routine's body throws
    and what a self-comparison throws. They pass through every check unchanged. -/

namespace CallGuard

/-- The class of a thrown error. -/
inductive ThrownClass
  | value
  | type
  | runtime
  | zeroDivision
  | smell
  deriving DecidableEq

namespace ThrownClass

/-- All classes of thrown errors. -/
def all : List ThrownClass := [value, type, runtime, zeroDivision, smell]

/-- The name of a class. -/
def text : ThrownClass → String
  | value => "ValueError"
  | type => "TypeError"
  | runtime => "RuntimeError"
  | zeroDivision => "ZeroDivisionError"
  | smell => "CodeSmellError"

/-- The class with a name. -/
def ofText? (s : String) : Option ThrownClass := all.find? fun c => c.text == s

@[simp] theorem ofText?_text (c : ThrownClass) : ofText? c.text = some c := by cases c <;> decide

end ThrownClass

/-- A thrown error: its class and its text. -/
structure Thrown where
  family : ThrownClass
  text : String
  deriving DecidableEq

/-- Why a truth cannot be told: an array without elements, or one with several. -/
inductive Ambiguity
  | empty
  | several
  deriving DecidableEq

/-- The wording of an ambiguity. -/
def Ambiguity.message : Ambiguity → String
  | empty => "The truth value of an empty array is ambiguous. Use `array.size > 0` to check that an array is not empty."
  | several => "The truth value of an array with more than one element is ambiguous. Use a.any() or a.all()"

/-- What an object answers when it is compared with itself, or asked for an account of itself. Only the
    truth of the answer counts, if it can be told. -/
inductive Reply
  | truth (unequal : Bool)
  | raised (error : Thrown)
  | ambiguous (a : Ambiguity)
  deriving DecidableEq

/-- The replies of an object to its self-comparisons, in order. The last one repeats for ever. -/
structure Replies where
  first : Reply
  later : List Reply
  deriving DecidableEq

/-- The reply to the comparison that comes after `k` others. -/
def Replies.after (r : Replies) (k : Nat) : Reply :=
  match k with
  | 0 => r.first
  | k + 1 => (r.later[k]? <|> r.later.getLast?).getD r.first

end CallGuard
