import CallGuard.Report.Construction

/-! What is said of calls that do not suit what is called, besides arguments that do not fit parameters:
    the objects of the environment have their own words for it. -/

namespace CallGuard

/-- Why a value cannot be called with the arguments given. -/
inductive CallFault
  | notCallable (typeName : String)
  | oneArgument (function : String) (given : Nat)
  | atMostOne (function : String) (given : Nat)
  | atMostTwo (function : String) (given : Nat)
  | noNamedArguments (function : String)
  | unknownName (function name : String)
  | noText (function : String)
  | takesNoArguments (className : String)
  | takesNothing (className : String)
  | notExtensible (name : Value) (className : String)
  | startReturned (typeName : String)

/-- The wording of a fault. -/
def CallFault.message : CallFault → String
  | notCallable typeName => "'" ++ typeName ++ "' object is not callable"
  | oneArgument f given => f ++ "() takes exactly one argument (" ++ toString given ++ " given)"
  | atMostOne f given => f ++ " expected at most 1 argument, got " ++ toString given
  | atMostTwo f given => f ++ "() takes at most 2 arguments (" ++ toString given ++ " given)"
  | noNamedArguments f => f ++ "() takes no keyword arguments"
  | unknownName f name => "'" ++ name ++ "' is an invalid keyword argument for " ++ f ++ "()"
  | noText f => f ++ "() missing string argument"
  | takesNoArguments className => className ++ "() takes no arguments"
  | takesNothing className => className ++ " takes no arguments"
  | notExtensible name className => "<enum " ++ name.written ++ "> cannot extend <enum '" ++ className ++ "'>"
  | startReturned typeName => "__init__() should return None, not '" ++ typeName ++ "'"

end CallGuard
