import CallGuard.Asking

/-! Looking up members of closed sets by values. A member stands for itself; any other value is looked up by
    its hash and is compared with the texts that are kept under it, and a value without a hash is compared
    with one text after the other. What names no member is reported by its written form. An object of a class
    that is made on the way is asked for its hash, for what it equals and for its written form, also where it
    is held by a tuple or occurs in what is written, and what it fails with is the failure of the look-up. -/

namespace CallGuard

/-- What the environment of a run settles: the hashes of texts, where they are known, and how deep values
    may be nested that are written. -/
structure Host where
  textHash : String → Option Int
  writingDepth : Nat

/-- The environment where nothing is known of its hashes: they are drawn anew for each run, and no hash that a
    class makes up is taken to be one of them. -/
def Host.usual : Host := ⟨fun _ => none, 1000⟩

namespace Value

/-- The attribute under which a class gives the written form of its objects. -/
def writtenName : String := "__repr__"

/-! ### Hashes -/

/-- The number that integers which are too great for a hash are reduced by. -/
def hashModulus : Nat := Nat.pow 2 61 - 1

/-- An integer as a hash, which is no greater than a place in a row. Minus one is none. -/
def reducedHash (n : Int) : Int :=
  let h := if isPlace n then n else n.sign * (n.natAbs % hashModulus : Nat)
  if h = -1 then -2 else h

/-- The hash that a class gives. -/
def givenHash (answer : Value) : Except KeyFault Int :=
  match answer.core.integer? with
  | some n => .ok (reducedHash n)
  | none => .error .hashNotInteger

/-- The hash of an object that its class gives, if it gives one and does not refuse it. -/
def askObjectHash (call : Caller) (v family : Value) : Exec (Option Int) := do
  if refusesKeys family then Exec.fail (.key (.changeable v.fullTypeName))
  match ← v.askClass call hashName with
  | some answer => some <$> Exec.lift Failure.key (givenHash answer)
  | none => return none

mutual

/-- Asks for the hash of a value. The class of an object may give it, and what a tuple holds is asked before; the
    hash of any other value is not looked at, only whether it has one. -/
def askHash (call : Caller) : Value → Exec (Option Int)
  | .sequence _ .tuple vs => do
    askHashes call vs
    return none
  | .custom _ ⟨_, some (.sequence _ .tuple vs), _, _, _⟩ => do
    askHashes call vs
    return none
  | .object id family => askObjectHash call (.object id family) family
  | v =>
    match v.keyFault? with
    | some f => Exec.fail (.key f)
    | none => return none
termination_by structural v => v

/-- Asks for the hashes of a row of values. -/
def askHashes (call : Caller) : List Value → Exec Unit
  | [] => pure ()
  | v :: vs => do
    let _ ← askHash call v
    askHashes call vs
termination_by structural vs => vs

end

/-- A value that holds no items to be asked and is no object of a class that is made on the way is not asked. -/
theorem askHash_of_other {v : Value} (htuple : ∀ id vs, v ≠ .sequence id .tuple vs)
    (hcustom : ∀ id className id' vs items traits replies,
      v ≠ .custom id ⟨className, some (.sequence id' .tuple vs), items, traits, replies⟩)
    (hobject : ∀ id family, v ≠ .object id family) (call : Caller) :
    v.askHash call = match v.keyFault? with
      | some f => Exec.fail (.key f)
      | none => return none := by
  rw [askHash] <;> assumption

/-- What holds of every value if it holds of a tuple, and of what is built on one, where it holds of the items. -/
theorem askHash_induction {motive : Value → Prop}
    (tuple : ∀ id vs, (∀ w ∈ vs, motive w) → motive (.sequence id .tuple vs))
    (custom : ∀ id className id' vs items traits replies, (∀ w ∈ vs, motive w) →
      motive (.custom id ⟨className, some (.sequence id' .tuple vs), items, traits, replies⟩))
    (object : ∀ id family, motive (.object id family))
    (other : ∀ v : Value, (∀ id vs, v ≠ .sequence id .tuple vs) →
      (∀ id className id' vs items traits replies,
        v ≠ .custom id ⟨className, some (.sequence id' .tuple vs), items, traits, replies⟩) →
      (∀ id family, v ≠ .object id family) → motive v) (v : Value) : motive v :=
  askHash.induct motive (fun vs => ∀ w ∈ vs, motive w) tuple custom object
    (fun v htuple hcustom hobject _ _ => other v htuple hcustom hobject)
    (fun v htuple hcustom hobject _ => other v htuple hcustom hobject) (fun _ h => nomatch h)
    (fun _ _ hv hvs => List.forall_mem_cons.mpr ⟨hv, hvs⟩) v

/-! ### Written forms -/

/-- The written form that a class gives. -/
def givenWritten (answer : Value) : Except WritingFault String :=
  match answer.text? with
  | some s => .ok s
  | none => .error (.notText answer.fullTypeName)

/-- Whether an integer is not too long to be written. -/
def isWritable (n : Int) : Bool := decide (n.natAbs < Nat.pow 10 Numeral.greatestCount)

/-- The integers that a value is written with. -/
def writtenIntegers : Value → List Int
  | .integer _ n => [n]
  | .fraction _ q => [q.num, q.den]
  | .range _ start stop step => [start, stop, step]
  | _ => []

/-- Asks for the written form of a value, whose parts may be nested down to a depth. -/
def askWritten (call : Caller) : (depth : Nat) → Value → Exec String
  | 0, _ => throw .exhausted
  | depth + 1, v => do
    match ← v.askClass call writtenName with
    | some answer => Exec.lift Failure.writing (givenWritten answer)
    | none =>
      if v.writtenIntegers.all isWritable then
        return writtenFrom (← v.writtenParts.mapM (askWritten call depth)) v
      else Exec.fail (.writing .tooLong)

end Value

/-! ### Closed sets -/

/-- A closed set: its members are looked up by their texts, and each stands for itself. -/
structure ClosedSet (α : Type) where
  className : String
  members : List α
  text : α → String
  itself? : Value → Option α

/-- The closed set of tags. -/
def Tag.closedSet : ClosedSet Tag where
  className := "TypeTag"
  members := Tag.all
  text := Tag.text
  itself?
    | .tag t => some t
    | _ => none

/-- The closed set of kinds of violations. -/
def Violation.closedSet : ClosedSet Violation where
  className := "ViolationKind"
  members := Violation.all
  text := Violation.text
  itself?
    | .kind k => some k
    | _ => none

namespace ClosedSet
variable {α : Type}

/-- The first of a row of members whose text a value equals. -/
def search (call : Caller) (set : ClosedSet α) (v : Value) : List α → Exec (Option α)
  | [] => return none
  | m :: ms => do
    if ← (Value.ofString (set.text m)).askEqual call v then return some m
    else search call set v ms

/-- The member that is found under the hash of a value. -/
def findByHash (host : Host) (call : Caller) (set : ClosedSet α) (v : Value) : Exec (Option α) := do
  match ← v.askHash call with
  | some h => set.search call v (set.members.filter fun m => host.textHash (set.text m) == some h)
  | none => return v.likeText?.bind fun s => set.members.find? fun m => set.text m == s

/-- The member that a value names, if any. What is no key is compared with all texts. -/
def find? (host : Host) (call : Caller) (set : ClosedSet α) (v : Value) : Exec (Option α) :=
  match set.itself? v with
  | some m => return some m
  | none => (set.findByHash host call v).recover fun f =>
    match f.general with
    | "KeyError" => some (return none)
    | "TypeError" => some (set.search call v set.members)
    | _ => none

/-- The member that a value names. -/
def find (host : Host) (call : Caller) (set : ClosedSet α) (v : Value) : Exec α := do
  match ← set.find? host call v with
  | some m => return m
  | none => Exec.fail (.naming ⟨set.className, ← v.askWritten call host.writingDepth⟩)

end ClosedSet

/-! ### Signatures -/

namespace Signature

/-- The tag that an item of a signature names, if any. -/
def askTag (host : Host) (call : Caller) (v : Value) : Exec (Option Tag) :=
  (some <$> Tag.closedSet.find host call v).recover fun f =>
    if f.general = "ValueError" then some (return none) else none

/-- The tags that a row of items names, from a position on. -/
def askTags (host : Host) (call : Caller) (position : Nat) : List Value → Exec (List Tag)
  | [] => return []
  | v :: vs => do
    match ← askTag host call v with
    | some t => return t :: (← askTags host call (position + 1) vs)
    | none => Exec.fail (.signature (.unknownTag v (← v.askWritten call host.writingDepth) position))

/-- The signature that a value writes, which may have to be asked for it. -/
def ask (host : Host) (call : Caller) (v : Value) : Exec Signature := do
  if v.isTagSequence then
    match v.items? with
    | some vs =>
      match ofTags? (← askTags host call 0 vs) with
      | some s => return s
      | none => Exec.fail (.signature .empty)
    | none => Exec.fail (.signature (.notIterable v.typeName))
  else Exec.fail (.signature (.notSequence v (← v.askWritten call host.writingDepth)))

end Signature
end CallGuard
