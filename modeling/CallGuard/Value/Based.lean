import CallGuard.Value.Conversion

/-! What an object of a class of its own is built from. A value that is given is first made one of the
    kind that the class is based on: rows are taken item by item, numbers are converted and texts read. -/

namespace CallGuard

namespace Base

/-- A row of a kind with the items of a value. -/
def row (make : List Value → Value) (v : Value) : Value := v.items?.elim v make

/-- A number of a kind with the quantity of a value. -/
def number {α : Type} (convert : Quantity → Option α) (make : α → Value) (v : Value) : Value :=
  (v.quantity?.bind convert).elim v make

/-- What an object is built from where a value is given. -/
def hold (b : Base) (v : Value) : Except ConversionFault Value :=
  match b, v.text? with
  | .integer, _ => v.toInteger.map .ofInt
  | .real, some s => .ok ((Real.read? s).elim v fun r => .real 0 (r.round .double))
  | .real, none => .ok (number (fun q => q.toReal?.bind Except.toOption) (.real 0) v)
  | .complex, none => .ok (number (fun q => q.toComplex?.bind Except.toOption) (fun p => .complex 0 p.1 p.2) v)
  | .decimal, some s => .ok ((Decimal.read s).toOption.elim v (.decimal 0))
  | .decimal, none => .ok (number Quantity.toDecimal? (.decimal 0) v)
  | .fraction, none => .ok (number Quantity.toRat? (.fraction 0) v)
  | .text, _ => .ok (.ofString v.shown)
  | .list, _ => .ok (row .list v)
  | .tuple, _ => .ok (row .tuple v)
  | .set, _ => .ok (row (fun vs => .set 0 false (Value.gatherMembers vs)) v)
  | _, _ => .ok v

end Base
end CallGuard
