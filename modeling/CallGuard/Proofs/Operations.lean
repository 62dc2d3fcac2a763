import CallGuard.Proofs.Derived
import CallGuard.Proofs.Running

/-! What holds of every operation. A property of operations is closed if the elementary ones have it,
    asking a number whether it is NaN has it, and a sequence has it whose parts do, also where a part goes on
    after a failure. How values are called is a parameter of most operations, and so they have every closed
    property that the calls have. Some properties hang on values, which are then followed through the
    operations: what an operation is given has a property of values, and so has what it comes to (`Tracking`).
    Here are the operations on the store, those that ask values, those that look up members of closed sets, and
    those that build values. -/

namespace CallGuard

namespace Bearing

instance : Bearing LogRecord :=
  ⟨fun p r => match r with
    | .wrapping name _ => p name
    | .unsigned name => p name
    | .orphan key => p key,
    fun r => by cases r <;> trivial, fun _ _ h r hr => by cases r <;> exact h _ hr⟩

instance : Bearing Store :=
  ⟨fun p s => Bears p s.bindings ∧ Bears p s.calls ∧ Bears p s.comparisons ∧ Bears p s.logs,
    fun _ => ⟨all_true _, all_true _, all_true _, all_true _⟩,
    fun _ _ h _ hs => ⟨hs.1.mono h, hs.2.1.mono h, hs.2.2.1.mono h, hs.2.2.2.mono h⟩⟩

end Bearing

namespace Exec
variable {α β : Type}

/-- An operation that keeps the record of calls, and neither looks at the record of comparisons or at the
    marker in force nor changes them. -/
structure Elementary (x : Exec α) : Prop where
  calls : ∀ s, (x.on s).2.calls = s.calls
  comparisons : ∀ s ws, x.on { s with comparisons := ws } = ((x.on s).1, { (x.on s).2 with comparisons := ws })
  marker : ∀ s c, x.on { s with marker := c } = ((x.on s).1, { (x.on s).2 with marker := c })

namespace Elementary

theorem of_modify {f : Store → Store} (hc : ∀ s, (f s).calls = s.calls)
    (hw : ∀ s ws, f { s with comparisons := ws } = { f s with comparisons := ws })
    (hm : ∀ s c, f { s with marker := c } = { f s with marker := c }) : Elementary (modify f : Exec Unit) where
  calls := hc
  comparisons s ws := congrArg (Prod.mk _) (hw s ws)
  marker s c := congrArg (Prod.mk _) (hm s c)

/-- What is read from a store and hangs neither on the comparisons nor on the marker. -/
theorem of_read {f : Store → β} (hf : ∀ s ws c, f { s with comparisons := ws, marker := c } = f s) :
    Elementary (do return f (← get) : Exec β) where
  calls _ := rfl
  comparisons s ws := Prod.ext (congrArg Except.ok (hf s ws s.marker)) rfl
  marker s c := Prod.ext (congrArg Except.ok (hf s s.comparisons c)) rfl

theorem of_pure (a : α) : Elementary (pure a : Exec α) := ⟨fun _ => rfl, fun _ _ => rfl, fun _ _ => rfl⟩

theorem of_throw (e : Stop) : Elementary (throw e : Exec α) := ⟨fun _ => rfl, fun _ _ => rfl, fun _ _ => rfl⟩

theorem of_fresh : Elementary fresh := ⟨fun _ => rfl, fun _ _ => rfl, fun _ _ => rfl⟩

end Elementary

/-- An operation that hands a property of values on: where all values of a store have it, then so have those
    that the operation comes to and leaves behind. It changes no variable, and identities only grow. -/
structure HandsOn [Bearing α] (good : Value → Prop) (x : Exec α) (s : Store) : Prop where
  values : Bears good (x.on s).2
  bindings : (x.on s).2.bindings = s.bindings
  next : s.next ≤ (x.on s).2.next
  result : Bears good (x.on s).1

/-- An operation that hands a property of values on, on every store all of whose values have it. -/
def Keeps [Bearing α] (good : Value → Prop) (x : Exec α) : Prop := ∀ s, Bears good s → x.HandsOn good s

namespace Keeps
variable {good : Value → Prop}

theorem of_pure [Bearing α] {a : α} (ha : Bears good a) : Keeps good (pure a) := fun _ hs =>
  ⟨hs, rfl, Nat.le_refl _, Bears.of_ok ha⟩

theorem of_throw [Bearing α] (e : Stop) : Keeps good (throw e : Exec α) := fun _ hs => ⟨hs, rfl, Nat.le_refl _, nofun⟩

theorem of_read [Bearing β] {f : Store → β} (hf : ∀ s, Bears good s → Bears good (f s)) :
    Keeps good (do return f (← get) : Exec β) := fun s hs => ⟨hs, rfl, Nat.le_refl _, Bears.of_ok (hf s hs)⟩

theorem of_modify {f : Store → Store} (hf : ∀ s, Bears good s → Bears good (f s)) (hb : ∀ s, (f s).bindings = s.bindings)
    (hn : ∀ s, (f s).next = s.next) : Keeps good (modify f : Exec Unit) := fun s hs =>
  ⟨hf s hs, hb s, Nat.le_of_eq (hn s).symm, Bears.of_ok trivial⟩

theorem of_fresh : Keeps good fresh := fun _ hs => ⟨hs, rfl, Nat.le_succ _, Bears.of_ok trivial⟩

end Keeps

end Exec

/-- A property of operations that the elementary ones have, that asking for NaN has, and that sequences
    keep. -/
structure Closed (P : ∀ {α : Type}, Exec α → Prop) : Prop where
  elementary : ∀ {α : Type} {x : Exec α}, x.Elementary → P x
  askNaN : ∀ v : Value, P v.askNaN
  bind : ∀ {α β : Type} {x : Exec α} {k : α → Exec β}, P x → (∀ a, P (k a)) → P (x >>= k)
  recover : ∀ {α : Type} {x : Exec α} {handler : Failure → Option (Exec α)}, P x →
    (∀ f, P ((handler f).getD (Exec.fail f))) → P (x.recover handler)

/-- A property of operations that values with a property pass through: the elementary operations have it that
    hand the property of values on, asking a value with it for NaN has it, and sequences keep it, where what
    the first part comes to has the property of values. -/
structure Tracking (good : Value → Prop) (P : ∀ {α : Type} [Bearing α], Exec α → Prop) : Prop where
  hereditary : Hereditary good
  elementary : ∀ {α : Type} [Bearing α] {x : Exec α}, x.Elementary → x.Keeps good → P x
  askNaN : ∀ {v : Value}, good v → P v.askNaN
  bind : ∀ {α β : Type} [Bearing α] [Bearing β] {x : Exec α} {k : α → Exec β},
    P x → (∀ a, Bears good a → P (k a)) → P (x >>= k)
  recover : ∀ {α : Type} [Bearing α] {x : Exec α} {handler : Failure → Option (Exec α)}, P x →
    (∀ f, P ((handler f).getD (Exec.fail f))) → P (x.recover handler)

namespace Closed
variable {P : ∀ {α : Type}, Exec α → Prop}

/-- A closed property is one that all values pass through. -/
theorem tracking (hP : Closed P) : Tracking (fun _ => True) fun {_} _ x => P x where
  hereditary := hereditary_true
  elementary hx _ := hP.elementary hx
  askNaN {v} _ := hP.askNaN v
  bind hx hk := hP.bind hx fun a => hk a (Bearing.all_true a)
  recover := hP.recover

theorem pure (hP : Closed P) {α : Type} (a : α) : P (Pure.pure a : Exec α) := hP.elementary (.of_pure a)

theorem throw (hP : Closed P) {α : Type} (e : Stop) : P (MonadExcept.throw e : Exec α) := hP.elementary (.of_throw e)

end Closed

namespace Tracking
variable {good : Value → Prop} {P : ∀ {α : Type} [Bearing α], Exec α → Prop} {α β : Type} [Bearing α] [Bearing β]
  {call : Caller} {v w : Value} {vs : List Value} {es : List (Value × Value)}

/-! ### The store -/

section
variable (hP : Tracking good P)
include hP

theorem pure {a : α} (ha : Bears good a) : P (Pure.pure a : Exec α) := hP.elementary (.of_pure a) (.of_pure ha)

theorem throw (e : Stop) : P (MonadExcept.throw e : Exec α) := hP.elementary (.of_throw e) (.of_throw e)

theorem fail (f : Failure) : P (Exec.fail f : Exec α) := hP.throw _

theorem map {x : Exec α} {f : α → β} (hf : ∀ a, Bears good a → Bears good (f a)) (hx : P x) : P (f <$> x) := by
  rw [map_eq_pure_bind]
  exact hP.bind hx fun a ha => hP.pure (hf a ha)

theorem mapSome {x : Exec α} (hx : P x) : P (some <$> x) := hP.map (fun _ => Bears.of_some) hx

theorem lift {ε : Type} (cause : ε → Failure) {x : Except ε α} (hx : Bears good x) : P (Exec.lift cause x) := by
  cases x with
  | ok a => exact hP.pure (hx a rfl)
  | error e => exact hP.fail _

/-- An operation that goes on with what it reads from the store. -/
theorem read {f : Store → β} (hf : ∀ s ws c, f { s with comparisons := ws, marker := c } = f s)
    (hgood : ∀ s, Bears good s → Bears good (f s)) {k : β → Exec α} (hk : ∀ b, Bears good b → P (k b)) :
    P (do let s ← get; k (f s)) := by
  have := hP.bind (hP.elementary (Exec.Elementary.of_read hf) (.of_read hgood)) hk
  rwa [bind_assoc] at this

/-- An operation that goes on with what it finds in the store, if it finds anything. -/
theorem readOption {f : Store → Option β} (hf : ∀ s ws c, f { s with comparisons := ws, marker := c } = f s)
    (hgood : ∀ s, Bears good s → Bears good (f s)) {x : Exec α} {k : β → Exec α} {g : Store → Exec α}
    (hg : ∀ s, g s = (f s).elim x k) (hx : P x) (hk : ∀ b, Bears good b → P (k b)) : P (get >>= g) := by
  rw [show g = fun s => (f s).elim x k from funext hg]
  refine hP.read hf hgood (k := fun o => o.elim x k) fun o ho => ?_
  cases o with
  | none => exact hx
  | some b => exact hk b (ho b rfl)

/-- An operation that gives a result or fails. -/
theorem demand {p : Prop} [Decidable p] {a : α} (ha : Bears good a) (f : Failure) :
    P (if p then Pure.pure a else Exec.fail f) := by
  split
  · exact hP.pure ha
  · exact hP.fail f

/-- An operation that fails or goes on. -/
theorem refuse {p : Prop} [Decidable p] (f : Failure) {k : Unit → Exec α} (hk : P (k ())) :
    P (if p then Exec.fail f >>= k else k ()) := by
  split
  · exact hP.bind (hP.fail f) fun _ _ => hk
  · exact hk

theorem mapM {f : α → Exec β} (hf : ∀ a, Bears good a → P (f a)) {as : List α} (has : Bears good as) :
    P (as.mapM f) := by
  induction as with
  | nil => exact hP.pure .nil
  | cons a as ih =>
    obtain ⟨ha, has⟩ := List.forall_mem_cons.mp has
    rw [List.mapM_cons]
    exact hP.bind (hf a ha) fun b hb => hP.bind (ih has) fun bs hbs => hP.pure (List.forall_mem_cons.mpr ⟨hb, hbs⟩)

theorem mapOption {f : α → Exec β} (hf : ∀ a, Bears good a → P (f a)) {o : Option α} (ho : Bears good o) :
    P (o.mapM f) := by
  cases o with
  | none => exact hP.pure nofun
  | some a => exact hP.mapSome (hf a (ho a rfl))

omit [Bearing α] in
theorem forM {f : α → Exec Unit} (hf : ∀ a, P (f a)) (as : List α) : P (as.forM f) := by
  induction as with
  | nil => exact hP.pure trivial
  | cons a as ih =>
    exact hP.bind (hf a) fun _ _ => ih

theorem fresh : P Exec.fresh := hP.elementary .of_fresh .of_fresh

theorem adopt (hv : good v) : P (Exec.adopt v) := by
  unfold Exec.adopt
  split
  · next hid => exact hP.bind hP.fresh fun i _ => hP.pure (hP.hereditary.identified hv hid i)
  · exact hP.pure hv

theorem recordTaken (id : ObjectId) : P (Exec.recordTaken id) :=
  hP.elementary (.of_modify (fun _ => rfl) (fun _ _ => rfl) fun _ _ => rfl)
    (.of_modify (fun _ hs => hs) (fun _ => rfl) fun _ => rfl)

theorem recordOrigin (id : ObjectId) (mark : Nat) : P (Exec.recordOrigin id mark) :=
  hP.elementary (.of_modify (fun _ => rfl) (fun _ _ => rfl) fun _ _ => rfl)
    (.of_modify (fun _ hs => hs) (fun _ => rfl) fun _ => rfl)

theorem log {r : LogRecord} (hr : Bears good r) : P (Exec.log r) := by
  refine hP.elementary (.of_modify (fun _ => rfl) (fun _ _ => rfl) fun _ _ => rfl)
    (.of_modify (fun s hs => ⟨hs.1, hs.2.1, hs.2.2.1, ?_⟩) (fun _ => rfl) fun _ => rfl)
  exact List.forall_mem_append.mpr ⟨hs.2.2.2, List.forall_mem_singleton.mpr hr⟩

theorem valueOf (name : String) : P (Exec.valueOf name) := by
  refine hP.readOption (f := fun s => s.bindings.lookup name) (fun _ _ _ => rfl)
    (fun s hs => Bears.lookup hs.1 name) (fun s => ?_) (hP.fail (.unboundVariable name)) fun _ => hP.pure
  cases s.bindings.lookup name <;> rfl

theorem newList (hvs : Bears good vs) : P (Exec.newList vs) :=
  hP.bind hP.fresh fun _ _ => hP.pure (hP.hereditary.sequence hvs)

theorem newTuple (hvs : Bears good vs) : P (Exec.newTuple vs) :=
  hP.bind hP.fresh fun _ _ => hP.pure (hP.hereditary.sequence hvs)

theorem classify (hv : good v) : P v.classify := by
  unfold Value.classify
  split
  · exact hP.bind (hP.askNaN hv) fun _ _ => hP.pure trivial
  · exact hP.bind (hP.pure (a := false) trivial) fun _ _ => hP.pure trivial

end

/-! ### Asking -/

section
variable (hP : Tracking good P) (hcall : ∀ f args, good f → Bears good args → P (call f args))
include hP hcall

theorem askClassWith (name : String) (hvs : Bears good vs) (hv : good v) : P (v.askClassWith call name vs) := by
  unfold Value.askClassWith
  split
  · split
    · next f hf =>
      have hown := hP.hereditary.ownAttribute? (hP.hereditary.part hv List.mem_cons_self) name f hf
      exact hP.mapSome (hcall _ _ (hP.hereditary.readThrough hv hown) hvs)
    · exact hP.pure nofun
  · exact hP.pure nofun

theorem askClass (name : String) (hv : good v) : P (v.askClass call name) := hP.askClassWith hcall name .nil hv

theorem askLength (hv : good v) : P (v.askLength call) := by
  refine hP.bind (hP.askClass hcall _ hv) fun o _ => ?_
  cases o <;> exact hP.lift _ fun _ _ => trivial

theorem askTruth (hv : good v) : P (v.askTruth call) := by
  refine hP.bind (hP.askClass hcall _ hv) fun o _ => ?_
  split
  · exact hP.pure trivial
  · exact hP.fail _
  · refine hP.bind (hP.askClass hcall _ hv) fun o _ => ?_
    cases o with
    | none => exact hP.lift _ fun _ _ => trivial
    | some answer => exact hP.bind (hP.lift _ fun _ _ => trivial) fun (n : Nat) _ => hP.pure trivial

omit hcall in
theorem takeItems? (n : Nat) (hv : good v) : P (v.takeItems? n) := by
  unfold Value.takeItems?
  split
  · next id vs =>
    have hvs : Bears good vs := fun _ hu => hP.hereditary.part hv hu
    refine hP.read (f := fun s => s.takenFrom id) (fun _ _ _ => rfl) (fun _ _ => trivial) (k := fun k => do
      let taken := (vs.drop k).take n
      taken.forM fun _ => Exec.recordTaken id
      return some taken) fun k _ => ?_
    refine hP.bind (hP.forM (fun _ => hP.recordTaken id) _) fun _ _ => hP.pure (Bears.of_some fun u hu => ?_)
    exact hvs u (List.mem_of_mem_drop (List.mem_of_mem_take hu))
  · refine hP.pure (Bears.mapOption (hP.hereditary.items? hv) fun us hus u hu => ?_)
    exact hus u (List.mem_of_mem_take hu)

omit hcall in
theorem checkLength (v : Value) : P v.checkLength := by
  unfold Value.checkLength
  split
  · split
    · exact hP.fail _
    · split
      · exact hP.fail _
      · exact hP.pure trivial
  · exact hP.pure trivial

omit hcall in
theorem takeAll (v : Value) {source : Value} (hsource : good source) : P (do
    source.checkLength
    match ← source.takeItems? Value.greatestRow with
    | some vs => vs.mapM Exec.adopt
    | none => Exec.fail (.measure (.notIterable v.fullTypeName))) := by
  refine hP.bind (hP.checkLength source) fun _ _ => hP.bind (hP.takeItems? _ hsource) fun o ho => ?_
  cases o with
  | none => exact hP.fail _
  | some vs => exact hP.mapM (fun _ => hP.adopt) (ho vs rfl)

theorem listItems (hv : good v) : P (v.listItems call) := by
  refine hP.bind (hP.askClass hcall _ hv) fun o ho => ?_
  cases o with
  | none => exact hP.takeAll v hv
  | some answer =>
    dsimp only
    split
    · exact hP.takeAll v (ho answer rfl)
    · exact hP.bind (hP.fail _) fun _ => hP.takeAll v

theorem askItem (hv : good v) (hw : good w) : P (v.askItem call w) := by
  refine hP.bind (hP.askClassWith hcall _ (List.forall_mem_singleton.mpr hw) hv) fun o ho => ?_
  cases o with
  | none => exact hP.lift _ (hP.hereditary.item hv w)
  | some answer => exact hP.pure (ho answer rfl)

theorem askMagnitude (hv : good v) : P (v.askMagnitude call) := by
  refine hP.bind (hP.askClass hcall _ hv) fun o ho => ?_
  cases o with
  | none => exact hP.lift _ (hP.hereditary.magnitude v)
  | some answer => exact hP.pure (ho answer rfl)

theorem askIntegerUnder (hv : good v) (names : List String) : P (v.askIntegerUnder call names) := by
  induction names with
  | nil => exact hP.pure nofun
  | cons name names ih =>
    refine hP.bind (hP.askClass hcall name hv) fun o _ => ?_
    cases o with
    | none => exact ih
    | some answer =>
      dsimp only
      split
      · exact hP.pure fun _ _ => trivial
      · exact hP.fail _

theorem askInteger (hv : good v) : P (v.askInteger call) := by
  refine hP.bind (hP.askIntegerUnder hcall hv _) fun o _ => ?_
  cases o with
  | none => exact hP.lift _ fun _ _ => trivial
  | some n => exact hP.pure trivial

theorem askEqualOneWay (hv : good v) (hw : good w) : P (v.askEqualOneWay call w) := by
  refine hP.bind (hP.askClassWith hcall _ (List.forall_mem_singleton.mpr hw) hv) fun o ho => ?_
  split
  · exact hP.pure nofun
  · split
    · exact hP.pure nofun
    · exact hP.mapSome (hP.askTruth hcall (ho _ rfl))
  · exact hP.mapSome (hP.askTruth hcall (ho _ rfl))

theorem askEqual (hv : good v) (hw : good w) : P (v.askEqual call w) := by
  refine hP.bind (hP.askEqualOneWay hcall hv hw) fun o _ => ?_
  cases o with
  | some b => exact hP.pure trivial
  | none =>
    refine hP.bind (hP.askEqualOneWay hcall hw hv) fun o _ => ?_
    cases o with
    | some b => exact hP.pure trivial
    | none => exact hP.lift _ fun _ _ => trivial

end

/-! ### Looking up -/

section
variable (hP : Tracking good P) (hcall : ∀ f args, good f → Bears good args → P (call f args))
include hP hcall

theorem askObjectHash {family : Value} (hv : good v) : P (v.askObjectHash call family) := by
  refine hP.refuse _ (k := fun _ => _) (hP.bind (hP.askClass hcall _ hv) fun o _ => ?_)
  cases o with
  | none => exact hP.pure fun _ _ => trivial
  | some answer => exact hP.mapSome (hP.lift _ fun _ _ => trivial)

omit hcall in
theorem askHashes (hvs : ∀ w ∈ vs, P (w.askHash call)) : P (Value.askHashes call vs) := by
  induction vs with
  | nil => exact hP.pure trivial
  | cons v vs ih =>
    obtain ⟨hv, hvs⟩ := List.forall_mem_cons.mp hvs
    exact hP.bind hv fun _ _ => ih hvs

theorem askHash (hv : good v) : P (v.askHash call) := by
  induction v using Value.askHash_induction with
  | tuple id vs ih =>
    rw [Value.askHash]
    exact hP.bind (hP.askHashes fun w hw => ih w hw (hP.hereditary.part hv hw)) fun _ _ =>
      hP.pure fun _ _ => trivial
  | custom id className id' vs items traits replies ih =>
    rw [Value.askHash]
    have hcontent := hP.hereditary.part hv (List.mem_append_left _ (List.mem_singleton.mpr rfl))
    exact hP.bind (hP.askHashes fun w hw => ih w hw (hP.hereditary.part hcontent hw)) fun _ _ =>
      hP.pure fun _ _ => trivial
  | object id family =>
    rw [Value.askHash]
    exact hP.askObjectHash hcall hv
  | other v htuple hcustom hobject =>
    rw [Value.askHash_of_other htuple hcustom hobject]
    cases v.keyFault? with
    | some f => exact hP.fail _
    | none => exact hP.pure fun _ _ => trivial

theorem askWritten (depth : Nat) (hv : good v) : P (v.askWritten call depth) := by
  induction depth generalizing v with
  | zero => exact hP.throw _
  | succ depth ih =>
    refine hP.bind (hP.askClass hcall _ hv) fun o _ => ?_
    cases o with
    | some answer => exact hP.lift _ fun _ _ => trivial
    | none =>
      dsimp only
      split
      · refine hP.bind (hP.mapM (fun _ => ih) fun u hu => ?_) fun _ _ => hP.pure trivial
        exact hP.hereditary.part hv (Value.writtenParts_subset v hu)
      · exact hP.fail _

variable (set : ClosedSet α) (hα : ∀ a : α, Bears good a)
include hα

theorem search (hv : good v) (ms : List α) : P (set.search call v ms) := by
  induction ms with
  | nil => exact hP.pure nofun
  | cons m ms ih =>
    refine hP.bind (hP.askEqual hcall (hP.hereditary.ofString _) hv) fun b _ => ?_
    split
    · exact hP.pure fun a _ => hα a
    · exact ih

theorem findByHash (host : Host) (hv : good v) : P (set.findByHash host call v) := by
  refine hP.bind (hP.askHash hcall hv) fun o _ => ?_
  cases o with
  | some h => exact hP.search hcall set hα hv _
  | none => exact hP.pure fun a _ => hα a

theorem findMember? (host : Host) (hv : good v) : P (set.find? host call v) := by
  unfold ClosedSet.find?
  split
  · exact hP.pure fun a _ => hα a
  · refine hP.recover (hP.findByHash hcall set hα host hv) fun f => ?_
    split
    · exact hP.pure nofun
    · exact hP.search hcall set hα hv _
    · exact hP.fail f

theorem findMember (host : Host) (hv : good v) : P (set.find host call v) := by
  refine hP.bind (hP.findMember? hcall set hα host hv) fun o _ => ?_
  cases o with
  | some m => exact hP.pure (hα m)
  | none => exact hP.bind (hP.askWritten hcall _ hv) fun _ _ => hP.fail _

omit hα

theorem askTag (host : Host) (hv : good v) : P (Signature.askTag host call v) := by
  refine hP.recover (hP.mapSome (hP.findMember hcall Tag.closedSet (fun _ => trivial) host hv)) fun f => ?_
  split
  · exact hP.pure nofun
  · exact hP.fail f

theorem askTags (host : Host) (position : Nat) (hvs : Bears good vs) :
    P (Signature.askTags host call position vs) := by
  induction vs generalizing position with
  | nil => exact hP.pure .nil
  | cons v vs ih =>
    obtain ⟨hv, hvs⟩ := List.forall_mem_cons.mp hvs
    refine hP.bind (hP.askTag hcall host hv) fun o _ => ?_
    cases o with
    | some t => exact hP.bind (ih _ hvs) fun _ hts => hP.pure (List.forall_mem_cons.mpr ⟨trivial, hts⟩)
    | none => exact hP.bind (hP.askWritten hcall _ hv) fun _ _ => hP.fail _

theorem askSignature (host : Host) (hv : good v) : P (Signature.ask host call v) := by
  unfold Signature.ask
  split
  · split
    · next vs hvs =>
      refine hP.bind (hP.askTags hcall host 0 (hP.hereditary.items? hv vs hvs)) fun ts _ => ?_
      split
      · exact hP.pure trivial
      · exact hP.fail _
    · exact hP.fail _
  · exact hP.bind (hP.askWritten hcall _ hv) fun _ _ => hP.fail _

end

/-! ### Building -/

section
variable (hP : Tracking good P)
include hP

theorem checkKeys (vs : List Value) : P (Exec.checkKeys vs) := by
  induction vs with
  | nil => exact hP.pure trivial
  | cons v vs ih =>
    unfold Exec.checkKeys
    split
    · exact hP.fail _
    · exact ih

theorem newSet (frozen : Bool) (hvs : Bears good vs) : P (Value.newSet frozen vs) :=
  hP.bind (hP.checkKeys vs) fun _ _ => hP.bind hP.fresh fun _ _ =>
    hP.pure (hP.hereditary.set (hP.hereditary.gatherMembers hvs))

theorem newMapping (form : MappingKind) (hes : Bears good es) : P (Value.newMapping form es) :=
  hP.bind (hP.checkKeys _) fun _ _ => hP.bind hP.fresh fun _ _ =>
    hP.pure (hP.hereditary.mapping (Bears.gatherEntries hes))

theorem newCustom (className : String) (base : Base) {content : Option Value} (hcontent : Bears good content)
    {items : Option (List Value)} (hitems : Bears good items) (traits : AddedTraits) (replies : List Reply) :
    P (Value.newCustom className base content items traits replies) := by
  have made : ∀ {x : Exec (Option Value)} (replies : Option Replies), P x → P (do
      let content ← x
      return Value.custom (← Exec.fresh) ⟨className, content, items, traits, replies⟩) := fun _ hx =>
    hP.bind hx fun _ ho => hP.bind hP.fresh fun _ _ => hP.pure (hP.hereditary.custom ho hitems)
  have hnone : Bears good (none : Option Value) := nofun
  have hempty (b : Base) : Bears good b.empty? := hP.hereditary.emptyOf b
  unfold Value.newCustom
  cases content with
  | none => cases base <;> first | exact made _ (hP.pure hnone) | exact made _ (hP.pure (hempty _))
  | some v =>
    have hheld (b : Base) := hP.hereditary.hold b (hcontent v rfl)
    cases base <;> first | exact made _ (hP.pure hnone) | exact made _ (hP.mapSome (hP.lift _ (hheld _)))

end

section
variable (hP : Tracking good P)
include hP

-- The calls are given to each theorem, as most of them only hand them on.
mutual

theorem build (hcall : ∀ f args, good f → Bears good args → P (call f args)) : ∀ b : Blueprint, P (b.build call)
  | .integer _ _ => hP.pure (hP.hereditary.atom rfl)
  | .text _ _ => hP.pure (hP.hereditary.atom rfl)
  | .atom a => hP.bind hP.fresh fun _ _ => hP.pure (hP.hereditary.atom (by cases a <;> rfl))
  | .sequence _ bs =>
    hP.bind (buildAll hcall bs) fun _ hvs => hP.bind hP.fresh fun _ _ => hP.pure (hP.hereditary.sequence hvs)
  | .set _ bs => hP.bind (buildAll hcall bs) fun _ hvs => hP.newSet _ hvs
  | .mapping _ es => hP.bind (buildEntries hcall es) fun _ hes => hP.newMapping _ hes
  | .iterator bs =>
    hP.bind (buildAll hcall bs) fun _ hvs => hP.bind hP.fresh fun _ _ => hP.pure (hP.hereditary.whole rfl hvs)
  | .custom _ _ content items _ retorts =>
    hP.bind (buildOption hcall content) fun _ hcontent => hP.bind (buildRow hcall items) fun _ hitems =>
      hP.bind (buildReplies hcall retorts) fun _ _ => hP.newCustom _ _ hcontent hitems _ _
  | .routine _ ⟨module, name, qualname, doc⟩ _ =>
    hP.bind (buildOption hcall module) fun _ hmodule => hP.bind (buildOption hcall name) fun _ hname =>
      hP.bind (buildOption hcall qualname) fun _ hqualname => hP.bind (buildOption hcall doc) fun _ hdoc =>
        hP.bind hP.fresh fun _ _ => hP.pure (hP.hereditary.routine ⟨hmodule, hname, hqualname, hdoc⟩)
  | .named name => hP.valueOf name
  | .item b key =>
    hP.bind (build hcall b) fun _ hv => hP.bind (build hcall key) fun _ hw =>
      hP.bind (hP.askItem hcall hv hw) fun _ => hP.adopt
  | .attribute b name =>
    hP.bind (build hcall b) fun _ hv => hP.bind (hP.lift _ (hP.hereditary.readAttribute hv name)) fun _ => hP.adopt
  | .new b => hP.bind (build hcall b) fun _ hv => hcall _ _ hv .nil
  | .marked mark b => by
    refine hP.bind (build hcall b) fun v hv => ?_
    split
    · exact hP.bind (hP.recordOrigin _ mark) fun _ _ => hP.pure hv
    · exact hP.pure hv
  | .refused _ => hP.fail _

theorem buildAll (hcall : ∀ f args, good f → Bears good args → P (call f args)) :
    ∀ bs : List Blueprint, P (Blueprint.buildAll call bs)
  | [] => hP.pure .nil
  | b :: bs =>
    hP.bind (build hcall b) fun _ hv => hP.bind (buildAll hcall bs) fun _ hvs =>
      hP.pure (List.forall_mem_cons.mpr ⟨hv, hvs⟩)

theorem buildEntries (hcall : ∀ f args, good f → Bears good args → P (call f args)) :
    ∀ es : List (Blueprint × Blueprint), P (Blueprint.buildEntries call es)
  | [] => hP.pure .nil
  | (b, c) :: es =>
    hP.bind (build hcall b) fun _ hk => hP.bind (build hcall c) fun _ hv => hP.bind (buildEntries hcall es) fun _ hes =>
      hP.pure (List.forall_mem_cons.mpr ⟨⟨hk, hv⟩, hes⟩)

theorem buildOption (hcall : ∀ f args, good f → Bears good args → P (call f args)) :
    ∀ b : Option Blueprint, P (Blueprint.buildOption call b)
  | none => hP.pure nofun
  | some b => hP.mapSome (build hcall b)

theorem buildRow (hcall : ∀ f args, good f → Bears good args → P (call f args)) :
    ∀ bs : Option (List Blueprint), P (Blueprint.buildRow call bs)
  | none => hP.pure nofun
  | some bs => hP.mapSome (buildAll hcall bs)

theorem buildReplies (hcall : ∀ f args, good f → Bears good args → P (call f args)) :
    ∀ rs : List (Retort Blueprint), P (Blueprint.buildReplies call rs)
  | [] => hP.pure .nil
  | .value b :: rs =>
    hP.bind (build hcall b) fun _ _ => hP.bind (buildReplies hcall rs) fun _ _ => hP.pure fun _ _ => trivial
  | .raised _ :: rs => hP.bind (buildReplies hcall rs) fun _ _ => hP.pure fun _ _ => trivial

end

end

end Tracking
end CallGuard
