import CallGuard.Value.Written

/-! Values as keys. A value can be a key unless it can change in place, or holds such a value in a tuple,
    or is a decimal whose comparison signals, or its class makes no keys, or none that is an integer. -/

namespace CallGuard

/-- Why a value cannot be a key. -/
inductive KeyFault
  | changeable (typeName : String)
  | signalling
  | hashNotInteger

/-- The wording of a fault. -/
def KeyFault.message : KeyFault → String
  | changeable typeName => "unhashable type: '" ++ typeName ++ "'"
  | signalling => "Cannot hash a signaling NaN value"
  | hashNotInteger => "__hash__ method should return an integer"

namespace Value

/-- The attribute under which a class says which values its objects equal. -/
def equalityName : String := "__eq__"

/-- The attribute under which a class makes keys of its objects. -/
def hashName : String := "__hash__"

/-- Whether a class makes no keys of its objects: it says so, or it only says which values they equal. -/
def refusesKeys (family : Value) : Bool :=
  match family.ownAttribute? hashName with
  | some .null => true
  | some _ => false
  | none => (family.ownAttribute? equalityName).isSome

/-- Whether a value is a tuple, which is a key if its items are. -/
def isTuple : Value → Bool
  | .sequence _ .tuple _ => true
  | _ => false

mutual

/-- Why a value cannot be a key, if it cannot. -/
def keyFault? : Value → Option KeyFault
  | .decimal _ d => if d.isSignalling then some .signalling else none
  | v@(.octets _ true _) => some (.changeable v.fullTypeName)
  | .sequence i form vs =>
    match form with
    | .tuple => keyFaultAll? vs
    | _ => some (.changeable (Value.sequence i form vs).fullTypeName)
  | v@(.set _ false _) => some (.changeable v.fullTypeName)
  | v@(.mapping ..) => some (.changeable v.fullTypeName)
  | v@(.array ..) => some (.changeable v.fullTypeName)
  | .stock i s => if s.fickle then some (.changeable (Value.stock i s).fullTypeName) else none
  | .custom _ ⟨name, some v, _, _, _⟩ =>
    match keyFault? v with
    | some (.changeable typeName) => some (.changeable (if v.isTuple then typeName else name))
    | fault => fault
  | .object i family =>
    if refusesKeys family then some (.changeable (Value.object i family).fullTypeName) else none
  | _ => none
termination_by structural v => v

/-- Why a row of values cannot be a key, if it cannot. -/
def keyFaultAll? : List Value → Option KeyFault
  | [] => none
  | v :: vs => keyFault? v <|> keyFaultAll? vs
termination_by structural vs => vs

end

end Value
end CallGuard
