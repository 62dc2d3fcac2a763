import CallGuard.Value.Contents

/-! The truth of values. Nothing, zero and what is empty are false, all else is true. An array has the
    truth of its one element; one with no or several elements has none. -/

namespace CallGuard

/-- The truth of a row of truths, if it is the truth of one. -/
def soleTruth : List Bool → Except Ambiguity Bool
  | [] => .error .empty
  | [b] => .ok b
  | _ => .error .several

namespace Stock

/-- Whether a stock object counts as true. -/
def isTrue (s : Stock) : Bool :=
  match s.nature with
  | .number n => n != 0
  | .text t => t != ""
  | .row ns => !ns.isEmpty
  | .mapping => false
  | .source sized => !sized
  | .array truth => truth
  | _ => true

end Stock

namespace Value

/-- The truth of a value that is not of a class of its own. -/
def coreTruth : Value → Except Ambiguity Bool
  | .null => .ok false
  | .undefined => .ok false
  | .boolean b => .ok b
  | .integer _ n => .ok (n != 0)
  | .real _ r => .ok !r.isZero
  | .complex _ re im => .ok !(re.isZero && im.isZero)
  | .decimal _ d => .ok !d.isZero
  | .fraction _ q => .ok (q != 0)
  | .scalar _ s => .ok s.isTrue
  | .array _ g => soleTruth (g.items.map Scalar.isTrue)
  | .stock _ s => .ok s.isTrue
  | v => .ok ((v.coreLength?.map (· != 0)).getD true)

/-- Whether a value has a truth of its own, that its length does not decide. -/
def ownsTruth (v : Value) : Bool := v.number?.isSome || v.yieldsByPlace

/-- Whether a value counts as true. A number does so by its number and an array by its elements, whatever
    its class; all else by the length that its class gives it, if any. -/
def isTrue : Value → Except Ambiguity Bool
  | .custom _ c =>
    match c.content, c.items with
    | some v, some vs => if v.ownsTruth then v.coreTruth else .ok !vs.isEmpty
    | some v, none => v.coreTruth
    | none, some vs => .ok !vs.isEmpty
    | none, none => .ok true
  | v => v.coreTruth

end Value
end CallGuard
