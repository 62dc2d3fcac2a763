import CallGuard.Value.Basic

/-! What a value holds: its text, its number, its length and its items. An object of a class of its own
    holds what it is built from, and where it is built from nothing, the items of its class. -/

namespace CallGuard.Value

/-- What an object of a class of its own is built from, and any other value itself. -/
def core : Value → Value
  | .custom _ ⟨_, some v, _, _, _⟩ => v
  | v => v

/-- The attribute with a name that a class of its own gives its objects. -/
def ownAttribute? (name : String) : Value → Option Value
  | .ownClass _ _ attributes => attributes.lookup name
  | _ => none

/-- The text of a value that is a text. -/
def text? (v : Value) : Option String :=
  match v.core with
  | .text _ s => some s
  | .tag t => some t.text
  | .scalar _ (.text s) => some s
  | .stock _ s => match s.nature with
    | .text t => some t
    | _ => none
  | _ => none

/-- The text of a value that equals a text: a text or a wrapped one. -/
def likeText? (v : Value) : Option String :=
  match v with
  | .wrappedText _ s => some s
  | v => v.text?

/-- The octets of a value that is a row of octets. -/
def octets? (v : Value) : Option (List UInt8) :=
  match v.core with
  | .octets _ _ bs => some bs
  | .scalar _ (.octets bs) => some bs
  | _ => none

/-- The number of a value that is a number, by its real and its imaginary part. -/
def number? (v : Value) : Option (Extended × Extended) :=
  match v.core with
  | .boolean b => some (.finite (if b then 1 else 0), .zero)
  | .integer _ n => some (.finite n, .zero)
  | .real _ r => some (r.extended, .zero)
  | .complex _ re im => some (re.extended, im.extended)
  | .decimal _ d => some (d.extended, .zero)
  | .fraction _ q => some (.finite q, .zero)
  | .scalar _ s => s.number?
  | .stock _ s => match s.nature with
    | .number n => some (.finite n, .zero)
    | _ => none
  | _ => none

/-- The integer of a value that is one. -/
def integer? (v : Value) : Option Int :=
  match v.core with
  | .boolean b => some (if b then 1 else 0)
  | .integer _ n => some n
  | .stock _ s => match s.nature with
    | .number n => some n
    | _ => none
  | _ => none

/-- The integer that counts as a place in a row: an integer, or one of the array library. -/
def index? (v : Value) : Option Int :=
  match v.core with
  | .scalar _ (.integer _ _ n) => some n
  | w => w.integer?

/-- The number of steps from `start` towards `stop` that stay before it. -/
def rangeLength (start stop step : Int) : Nat :=
  if 0 < step then ((stop - start + step - 1) / step).toNat
  else if step < 0 then ((start - stop - step - 1) / -step).toNat
  else 0

/-- The greatest length of a row, which is also the greatest place in one. -/
def greatestLength : Nat := 9223372036854775807

/-- Whether an integer can be a place in a row, counted from the front or from the back. -/
def isPlace (n : Int) : Bool := decide (-(greatestLength : Int) - 1 ≤ n) && decide (n ≤ greatestLength)

/-- The number of items up to which a range is gone through. A longer one is never held item by item. -/
def greatestRow : Nat := 10000000

/-- The items of a range. -/
def rangeItems (start stop step : Int) : List Value :=
  (List.range (min (rangeLength start stop step) greatestRow)).map fun (i : Nat) => .ofInt (start + i * step)

/-- The characters of a text as texts. -/
def characters (s : String) : List Value := s.toList.map fun c => .ofString (String.singleton c)

/-- The characters of a wrapped text as wrapped texts. -/
def wrappedCharacters (s : String) : List Value := s.toList.map fun c => .wrappedText 0 (String.singleton c)

/-- The octets as numbers. -/
def octetNumbers (bs : List UInt8) : List Value := bs.map fun b => .ofInt b.toNat

/-- The items that going through a value yields, if it can be gone through more than once. -/
def coreItems? : Value → Option (List Value)
  | .text _ s => some (characters s)
  | .tag t => some (characters t.text)
  | .wrappedText _ s => some (wrappedCharacters s)
  | .octets _ _ bs => some (octetNumbers bs)
  | .range _ start stop step => some (rangeItems start stop step)
  | .sequence _ _ vs => some vs
  | .set _ _ vs => some vs
  | .mapping _ _ es => some (es.map Prod.fst)
  | .scalar _ (.text s) => some (characters s)
  | .scalar _ (.octets bs) => some (octetNumbers bs)
  | .array _ g => some (g.items.map (.scalar 0))
  | .stock _ s =>
    if s.name = Stock.tagClass then some (Tag.all.map .tag)
    else
      match s.nature with
      | .row ns => some (ns.map .ofInt)
      | .text t => some (characters t)
      | .mapping => some []
      | .source _ => some []
      | _ => none
  | _ => none

/-- Whether a value yields its items by their places, so that a class that gives items replaces them. -/
def yieldsByPlace : Value → Bool
  | .array .. => true
  | _ => false

/-- The items of a value. Those of what it is built from come before those of its class, but for an
    array, which yields its items by their places. -/
def items? : Value → Option (List Value)
  | .custom _ ⟨_, some v, is, _, _⟩ => if v.yieldsByPlace then is <|> v.coreItems? else v.coreItems? <|> is
  | .custom _ ⟨_, none, is, _, _⟩ => is
  | v => v.coreItems?

/-- The length of a value that has one and is not of a class of its own. -/
def coreLength? : Value → Option Nat
  | .array _ g => some g.items.length
  | .range _ start stop step => some (rangeLength start stop step)
  | .iterator _ _ => none
  | .stock i s => if s.nature = .source false then none else (coreItems? (.stock i s)).map List.length
  | v => v.coreItems?.map List.length

/-- The length of a value that has one, that of its class before that of what it is built from. -/
def length? : Value → Option Nat
  | .custom _ c => (c.items.map List.length) <|> c.content.bind coreLength?
  | v => v.coreLength?

/-- The entries of a value that is a mapping. -/
def entries? (v : Value) : Option (List (Value × Value)) :=
  match v.core with
  | .mapping _ _ es => some es
  | .stock _ s => if s.nature = .mapping then some [] else none
  | _ => none

/-- The items of a value that is a tuple. -/
def tuple? (v : Value) : Option (List Value) :=
  match v.core with
  | .sequence _ .tuple vs => some vs
  | .stock _ s => s.tuple?.map (List.map .ofInt)
  | _ => none

end CallGuard.Value
