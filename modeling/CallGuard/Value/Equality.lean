import CallGuard.Value.Truth

/-! Identity and equality of values. Two values are the same if they are one object, or equal atoms.
    Equality looks at contents: numbers are equal as numbers, texts as texts whatever kind of text they
    are, containers of like kind item by item, where an item that is the same counts as equal. What is
    not a number equals no number, itself included, only through the items of a container.

    A number of the array library is compared in its own format, into which a plain number is rounded
    first. Keys are compared exactly, so two numbers that are equal only after rounding are two keys. -/

namespace CallGuard

/-- Why two values cannot be compared: the truth of the outcome cannot be told, two arrays are of
    different lengths, or a signalling number is among them. -/
inductive ComparisonFault
  | ambiguous (a : Ambiguity)
  | lengths (m n : Nat)
  | signalling

namespace ComparisonFault

/-- The name of the class of a fault. -/
def className : ComparisonFault → String
  | signalling => DecimalFault.invalid.className
  | _ => "ValueError"

/-- The wording of a fault. -/
def message : ComparisonFault → String
  | ambiguous a => a.message
  | lengths m n =>
    "operands could not be broadcast together with shapes (" ++ toString m ++ ",) (" ++ toString n ++ ",) "
  | signalling => DecimalFault.invalid.message

end ComparisonFault

/-- The truth of a row of outcomes, if it is the truth of one. -/
def soleOutcome (bs : List Bool) : Except ComparisonFault Bool := (soleTruth bs).mapError .ambiguous

/-- Whether sequences of two kinds can be equal. -/
def SequenceKind.comparable : SequenceKind → SequenceKind → Bool
  | .list, .wrapped => true
  | .wrapped, .list => true
  | a, b => a == b

/-- Whether two numbers, by their parts, are equal. -/
def agreesAsNumber (x y : Extended × Extended) : Bool := x.1.agrees y.1 && x.2.agrees y.2

/-- How numbers of different formats are compared. -/
inductive Comparing
  | rounded
  | exact
  deriving DecidableEq

namespace Value

/-- Whether two values are one object, or equal values without identity. Small integers, texts of at
    most one character of Latin script, at most one octet, the empty tuple and the shared objects of the
    environment are kept once. -/
def same : Value → Value → Bool
  | .null, .null => true
  | .undefined, .undefined => true
  | .boolean a, .boolean b => a == b
  | .tag a, .tag b => a == b
  | .kind a, .kind b => a == b
  | .integer i m, .integer j n => (i != 0 && i == j) || (m == n && decide (-5 ≤ m ∧ m ≤ 256))
  | .text i s, .text j t =>
    (i != 0 && i == j) || (s == t && (s == "" || (s.length == 1 && s.toList.all fun c => decide (c.toNat < 256))))
  | .octets i false s, .octets j false t => (i != 0 && i == j) || (s == t && decide (s.length ≤ 1))
  | .sequence _ .tuple [], .sequence _ .tuple [] => true
  | .stock i s, .stock j t => (i != 0 && i == j) || (s.shared && t.shared && s.name == t.name)
  | a, b =>
    match a.id?, b.id? with
    | some i, some j => i != 0 && i == j
    | _, _ => false

/-! ### Numbers -/

/-- Whether a value is a number whose comparison signals. -/
def isSignalling (v : Value) : Bool :=
  match v.core with
  | .decimal _ d => d.isSignalling
  | _ => false

/-- Whether a plain number is rounded into the format of a scalar that it is compared with. -/
def adapts (v : Value) : Bool :=
  match v.core with
  | .decimal .. => false
  | .fraction .. => false
  | .scalar .. => false
  | _ => true

/-- Whether a value is a number with a binary point. -/
def isBinary (v : Value) : Bool :=
  match v.core with
  | .real .. => true
  | .complex .. => true
  | .scalar _ (.real w _) => w != .wide
  | .scalar _ (.complex w _ _) => w != .wide
  | _ => false

/-- A number rounded into a binary format. -/
def roundedTo (b : Binary) : Extended → Extended
  | .finite q => b.nearest q
  | x => x

/-- The parts of a number rounded into a binary format. -/
def partsTo (b : Binary) (x : Extended × Extended) : Extended × Extended := (roundedTo b x.1, roundedTo b x.2)

/-- The parts of a number as it takes part in a comparison with another. A plain number takes the format
    of a real or complex scalar, an integer of the array library that of a number with a point. -/
def partsBeside (other v : Value) (x : Extended × Extended) : Extended × Extended :=
  match other.core, v.core with
  | .scalar _ (.real w _), _ => if v.adapts then partsTo w.binary x else beside x
  | .scalar _ (.complex w _ _), _ => if v.adapts then partsTo w.binary x else beside x
  | _, _ => beside x
where
  /-- An integer of the array library beside a number with a point. -/
  beside (x : Extended × Extended) : Extended × Extended :=
    match v.core with
    | .scalar _ (.integer ..) => if other.isBinary then partsTo .double x else x
    | _ => x

/-- Whether two numbers are equal, if both values are numbers. -/
def numbersEqual? (mode : Comparing) (a b : Value) : Option (Except ComparisonFault Bool) :=
  match a.number?, b.number? with
  | some x, some y =>
    if a.isSignalling || b.isSignalling then some (.error .signalling)
    else if mode = .exact then some (.ok (agreesAsNumber x y))
    else some (.ok (agreesAsNumber (partsBeside b a x) (partsBeside a b y)))
  | _, _ => none

/-! ### Scalars and arrays -/

/-- Whether a scalar equals a value that is no row. -/
def scalarEqual (mode : Comparing) (s : Scalar) (v : Value) : Except ComparisonFault Bool :=
  match s, v.core with
  | .duration a, .scalar _ (.duration b) => .ok (a.isSome && a == b)
  | .duration a, _ => .ok (a.isSome && a == v.index?)
  | .moment a, .scalar _ (.moment b) => .ok (a != "NaT" && a == b)
  | .octets a, w => .ok (w.octets? == some a)
  | .text a, _ => .ok (v.likeText? == some a)
  | s, .scalar _ (.duration b) => .ok (b.isSome && (Value.scalar 0 s).index? == b)
  | s, _ => (numbersEqual? mode (.scalar 0 s) v).getD (.ok false)

/-- The items of a row that is compared with arrays element by element. -/
def row? (v : Value) : Option (List Value) :=
  match v.core with
  | .array _ g => some (g.items.map (.scalar 0))
  | .sequence _ _ vs => some vs
  | .range .. => v.core.coreItems?
  | .stock _ s => match s.nature with
    | .row ns => some (ns.map .ofInt)
    | _ => none
  | _ => none

/-- Whether a scalar is compared with rows element by element. -/
def comparesRows : Scalar → Bool
  | .text _ => false
  | .octets _ => false
  | _ => true

/-- Whether a scalar equals a value. A row stands for its only item. -/
def scalarEqualAny (mode : Comparing) (s : Scalar) (v : Value) : Except ComparisonFault Bool :=
  match (if comparesRows s then v.row? else none) with
  | some vs => do soleOutcome (← vs.mapM fun w => scalarEqual mode s w)
  | none => scalarEqual mode s v

/-- Whether scalars equal the items of a row, element by element. A single one stands for a whole row. -/
def rowsEqual (mode : Comparing) (xs : List Scalar) (ys : List Value) : Except ComparisonFault Bool :=
  match xs, ys with
  | [x], ys => do soleOutcome (← ys.mapM fun y => scalarEqual mode x y)
  | xs, [y] => do soleOutcome (← xs.mapM fun x => scalarEqual mode x y)
  | xs, ys =>
    if xs.length = ys.length then do soleOutcome (← (xs.zip ys).mapM fun p => scalarEqual mode p.1 p.2)
    else .error (.lengths xs.length ys.length)

/-- Whether an array equals a value, element by element. -/
def gridEqual (mode : Comparing) (g : Grid) (v : Value) : Except ComparisonFault Bool :=
  match v.row? with
  | some ys => rowsEqual mode g.items ys
  | none => do soleOutcome (← g.items.mapM fun x => scalarEqual mode x v)

/-! ### Atoms -/

/-- Whether two stock objects of one name are equal by their content. -/
def stockEqual (s t : Stock) : Bool := s.byContent && t.byContent && s.name == t.name

/-- Whether two values that hold no values are equal. -/
def atomEqual (mode : Comparing) (a b : Value) : Except ComparisonFault Bool :=
  match a.core, b.core with
  | .array _ g, _ => gridEqual mode g b
  | _, .array _ g => gridEqual mode g a
  | .scalar _ s, _ => scalarEqualAny mode s b
  | _, .scalar _ s => scalarEqualAny mode s a
  | .range _ p q r, .range _ p' q' r' =>
    let m := rangeLength p q r
    .ok (m == rangeLength p' q' r' && (m == 0 || (p == p' && (m == 1 || r == r'))))
  | x, y =>
    match numbersEqual? mode x y with
    | some outcome => outcome
    | none =>
      match a.likeText?, b.likeText? with
      | some s, some t => .ok (s == t)
      | _, _ =>
        match a.octets?, b.octets? with
        | some s, some t => .ok (s == t)
        | _, _ =>
          match x, y with
          | .stock _ s, .stock _ t => .ok (same a b || stockEqual s t)
          | _, _ => .ok (same a b)

/-- Whether a value holds values. -/
def isContainer : Value → Bool
  | .sequence .. => true
  | .set .. => true
  | .mapping .. => true
  | .stock _ s => s.tuple?.isSome || s.nature == .mapping
  | _ => false

/-- Whether integers equal the items of a row, item by item. -/
def integersEqual (mode : Comparing) : List Int → List Value → Except ComparisonFault Bool
  | [], [] => .ok true
  | n :: ns, y :: ys => do
    if ← atomEqual mode (.ofInt n) y then integersEqual mode ns ys
    else return false
  | _, _ => .ok false

/-- Whether a stock object equals a value: a tuple item by item, an empty mapping any empty mapping. -/
def stockEqualAny (mode : Comparing) (i : ObjectId) (s : Stock) (b : Value) : Except ComparisonFault Bool :=
  match s.tuple? with
  | some ns =>
    match b.tuple? with
    | some ys => integersEqual mode ns ys
    | none => atomEqual mode (.stock i s) b
  | none =>
    if s.nature = .mapping then .ok ((b.entries?.map List.isEmpty).getD false)
    else atomEqual mode (.stock i s) b

/-! ### Containers -/

mutual

/-- Whether two values are equal. -/
def equalIn (mode : Comparing) : Value → Value → Except ComparisonFault Bool
  | .custom i ⟨n, some v, is, ts, re⟩, b =>
    if v.isContainer then equalIn mode v b else atomEqual mode (.custom i ⟨n, some v, is, ts, re⟩) b
  | .sequence i k xs, b =>
    match b.core with
    | .sequence _ l ys =>
      if !k.comparable l then .ok false
      else if k ≠ .tuple ∧ xs.length ≠ ys.length then .ok false
      else equalAll mode xs ys
    | .stock _ s =>
      match k, s.tuple? with
      | .tuple, some ns => equalAll mode xs (ns.map .ofInt)
      | _, _ => .ok false
    | _ => atomEqual mode (.sequence i k xs) b
  | .set i f xs, b =>
    match b.core with
    | .set _ _ ys => if xs.length = ys.length then equalMembers mode xs ys else .ok false
    | _ => atomEqual mode (.set i f xs) b
  | .mapping i k xs, b =>
    match b.core with
    | .mapping _ l ys =>
      if xs.length ≠ ys.length then .ok false
      else if k = .ordered ∧ l = .ordered then equalRows mode xs ys
      else equalEntries mode xs ys
    | .stock _ s => .ok (decide (s.nature = .mapping) && xs.isEmpty)
    | _ => atomEqual mode (.mapping i k xs) b
  | .method i f s, b =>
    match b with
    | .method _ g t => do if ← equalIn mode f g then return same s t else return false
    | _ => atomEqual mode (.method i f s) b
  | .stock i s, b => stockEqualAny mode i s b
  | a, b => atomEqual mode a b
termination_by structural a => a

/-- Whether two rows of values are equal, item by item. -/
def equalAll (mode : Comparing) : List Value → List Value → Except ComparisonFault Bool
  | [], [] => .ok true
  | x :: xs, y :: ys => do
    if same x y then equalAll mode xs ys
    else if ← equalIn mode x y then equalAll mode xs ys
    else return false
  | _, _ => .ok false
termination_by structural xs => xs

/-- Whether all values of a row equal some value of another, exactly. -/
def equalMembers (mode : Comparing) : List Value → List Value → Except ComparisonFault Bool
  | [], _ => .ok true
  | x :: xs, ys => do
    if ← ys.anyM fun y => if same x y then .ok true else equalIn .exact x y then equalMembers mode xs ys
    else return false
termination_by structural xs => xs

/-- Whether all entries of a row equal some entry of another. Their keys are compared exactly. -/
def equalEntries (mode : Comparing) : List (Value × Value) → List (Value × Value) → Except ComparisonFault Bool
  | [], _ => .ok true
  | (k, v) :: xs, ys => do
    if ← ys.anyM fun y => do
        if ← (if same k y.1 then .ok true else equalIn .exact k y.1) then
          if same v y.2 then .ok true else equalIn mode v y.2
        else return false
    then equalEntries mode xs ys
    else return false
termination_by structural xs => xs

/-- Whether two rows of entries are equal in order. -/
def equalRows (mode : Comparing) : List (Value × Value) → List (Value × Value) → Except ComparisonFault Bool
  | [], [] => .ok true
  | (k, v) :: xs, (l, w) :: ys => do
    if ← (if same k l then .ok true else equalIn .exact k l) then
      if ← (if same v w then .ok true else equalIn mode v w) then equalRows mode xs ys
      else return false
    else return false
  | _, _ => .ok false
termination_by structural xs => xs

end

/-- Whether two values are equal. -/
def equal (a b : Value) : Except ComparisonFault Bool := equalIn .rounded a b

/-- Whether two values are the same or equal, as the items of a row are compared. -/
def matching (a b : Value) : Except ComparisonFault Bool := if same a b then .ok true else equal a b

/-- Whether two values are one key. -/
def sameKey (a b : Value) : Bool := same a b || (equalIn .exact a b).toOption == some true

/-- The value of a key in a row of entries. -/
def lookUp? (key : Value) : List (Value × Value) → Option Value
  | [] => none
  | (k, v) :: es => if sameKey key k then some v else lookUp? key es

/-- A row of entries with one more. An equal key keeps its place and takes the value. -/
def insertEntry (entry : Value × Value) : List (Value × Value) → List (Value × Value)
  | [] => [entry]
  | (k, v) :: es =>
    if sameKey entry.1 k then (k, entry.2) :: es
    else (k, v) :: insertEntry entry es

/-- The entries of a mapping that is made of a row of entries in order. -/
def gatherEntries (es : List (Value × Value)) : List (Value × Value) :=
  es.foldl (fun acc e => insertEntry e acc) []

/-- The members of a set that is made of a row of values in order. -/
def gatherMembers (vs : List Value) : List Value := (gatherEntries (vs.map (·, .null))).map Prod.fst

end Value
end CallGuard
