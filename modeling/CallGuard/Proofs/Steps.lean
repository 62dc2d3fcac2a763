import CallGuard.Proofs.Operations
import CallGuard.Proofs.Passes

/-! What holds of every step: the operations that call, check and wrap have every closed property that the
    calls inside them have, and so has a step of a session. A call that enters a routine is left open, for
    it is recorded, and so is one that enters a checked function, for it comes after the checks
    (`Tracking.enter`). What a step does with the marker in force is left open too: few look at it
    (`Step.readsMarker`) or set it (`Step.setsMarker`). Wrapping alone makes checked functions. What is known of
    values may then become more with each of them, and what is said of the rest of an operation is said of what
    is known by then (`Growing`). -/

namespace CallGuard

namespace Bearing

instance : Bearing Entry :=
  ⟨fun p e => p e.key ∧ p e.value, fun _ => ⟨trivial, trivial⟩, fun _ _ h _ he => ⟨h _ he.1, h _ he.2⟩⟩

instance : Bearing Answer :=
  ⟨fun p a => ∀ v ∈ a.value?, p v, fun _ _ _ => trivial, fun _ _ h _ ha v hv => h v (ha v hv)⟩

instance : Bearing Violation := .none
instance : Bearing Report := .none

end Bearing

namespace Tracking
variable {good : Value → Prop} {P : ∀ {α : Type} [Bearing α], Exec α → Prop} {α : Type} [Bearing α] {call : Caller}
  {v : Value} {args : List Value} {named : List (String × Value)}

/-! ### Calling -/

section
variable (hP : Tracking good P)
include hP

/-- An operation that comes to what is left open or fails. -/
theorem leaveOpen {p : Prop} [Decidable p] (callable : String) (f : Failure) :
    P (if p then MonadExcept.throw (.leftOpen callable) else Exec.fail f : Exec α) := by
  split
  · exact hP.throw _
  · exact hP.fail f

theorem refuseNamed (function : String) (named : List (String × Value)) : P (Stock.refuseNamed function named) :=
  hP.demand trivial _

theorem callUnary {function : String} {run : Value → Exec Value} (hargs : Bears good args)
    (hrun : ∀ v, good v → P (run v)) : P (Stock.callUnary function args named run) := by
  refine hP.bind (hP.refuseNamed _ _) fun _ _ => ?_
  split
  · exact hrun _ (hargs _ List.mem_cons_self)
  · exact hP.fail _

theorem argumentAt (hargs : Bears good args) (i : Int) : P (Body.argumentAt args i) := by
  unfold Body.argumentAt
  split
  · next v hv =>
    obtain ⟨place, -, hplace⟩ := Option.bind_eq_some_iff.mp hv
    exact hP.pure (hargs v (List.mem_of_getElem? hplace))
  · exact hP.fail _

end

section
variable (hP : Tracking good P) (hcall : ∀ f args, good f → Bears good args → P (call f args))
include hP hcall

theorem tellLength (hargs : Bears good args) (named : List (String × Value)) : P (Stock.tellLength call args named) :=
  hP.callUnary hargs fun _ hv => hP.bind (hP.askLength hcall hv) fun _ _ => hP.adopt (hP.hereditary.ofInt _)

theorem tellMagnitude (hargs : Bears good args) (named : List (String × Value)) :
    P (Stock.tellMagnitude call args named) :=
  hP.callUnary hargs fun _ hv => hP.bind (hP.askMagnitude hcall hv) fun _ => hP.adopt

theorem findTag (hv : good v) : P (Stock.findTag call v) :=
  hP.map (fun t _ => hP.hereditary.ofTag t) (hP.findMember hcall Tag.closedSet (fun _ => trivial) .usual hv)

theorem callTagClass (hargs : Bears good args) (hnamed : Bears good named) :
    P (Stock.callTagClass call args named) := by
  refine hP.bind (hP.lift _ (Bears.bindArguments hargs hnamed)) fun bound hbound => ?_
  have hvalue := (Bears.lookup hbound "value").getD hP.hereditary.null
  dsimp only
  split
  · exact hP.findTag hcall hvalue
  · exact hP.findTag hcall hvalue
  · exact hP.fail _

theorem makeList (hargs : Bears good args) (named : List (String × Value)) : P (Stock.makeList call args named) := by
  refine hP.bind (hP.refuseNamed _ _) fun _ _ => ?_
  split
  · exact hP.bind hP.fresh fun _ _ => hP.pure (hP.hereditary.atom rfl)
  · exact hP.bind (hP.listItems hcall (hargs _ List.mem_cons_self)) fun _ hvs => hP.bind hP.fresh fun _ _ =>
      hP.pure (hP.hereditary.sequence hvs)
  · exact hP.fail _

omit hcall in
theorem makeIntegerOf (args : List Value) (named : List (String × Value)) {x : Exec Int} (hx : P x) : P (do
    if 2 < args.length + named.length then
      Exec.fail (.calling (.atMostTwo "int" (args.length + named.length)))
    if let some (name, _) := named.find? fun e => e.1 != Stock.baseName then
      Exec.fail (.calling (.unknownName "int" name))
    Exec.adopt (.ofInt (← x))) := by
  have last := hP.bind hx fun n _ => hP.adopt (hP.hereditary.ofInt n)
  refine hP.refuse _ ?_
  split
  · exact hP.bind (hP.fail _) fun (_ : Unit) _ => last
  · exact last

theorem makeInteger (hargs : Bears good args) (named : List (String × Value)) :
    P (Stock.makeInteger call args named) := by
  unfold Stock.makeInteger
  split
  · exact hP.makeIntegerOf _ _ (hP.pure trivial)
  · exact hP.makeIntegerOf _ _ (hP.fail _)
  · exact hP.makeIntegerOf _ _ (hP.lift _ fun _ _ => trivial)
  · exact hP.makeIntegerOf _ _ (hP.askInteger hcall (hargs _ List.mem_cons_self))
  · exact hP.makeIntegerOf _ _ (hP.lift _ fun _ _ => trivial)

theorem callStock (s : Stock) (hargs : Bears good args) (hnamed : Bears good named) : P (s.call call args named) := by
  have hnull := hP.hereditary.null
  unfold Stock.call
  dsimp only
  split
  · exact hP.tellLength hcall hargs _
  · exact hP.tellLength hcall hargs _
  · exact hP.tellLength hcall hargs _
  · exact hP.tellMagnitude hcall hargs _
  · exact hP.callUnary hargs fun _ _ => hP.pure hnull
  · exact hP.makeList hcall hargs _
  · exact hP.makeInteger hcall hargs _
  · exact hP.callTagClass hcall hargs hnamed
  · exact hP.bind (hP.lift _ (Bears.bindArguments hargs hnamed)) fun _ _ => hP.pure (hP.hereditary.atom rfl)
  · exact hP.demand hnull _
  · exact hP.leaveOpen _ _
  · exact hP.leaveOpen _ _

end

section
variable (hP : Tracking good P)
include hP

-- The calls are given to both theorems, as one of them only hands them on.
mutual

theorem eval (hcall : ∀ f args, good f → Bears good args → P (call f args)) (id : ObjectId)
    (hargs : Bears good args) : ∀ b : Body Blueprint, P (b.eval id args call)
  | .argument _ => hP.argumentAt hargs _
  | .arguments => hP.newTuple hargs
  | .constant b => hP.build hcall b
  | .named _ => hP.valueOf _
  | .count =>
    hP.read (f := fun s => (s.callsOf id).length) (fun _ _ _ => rfl) (fun _ _ => trivial)
      (k := fun n => Exec.adopt (.ofInt n)) fun _ _ => hP.adopt (hP.hereditary.ofInt _)
  | .turns bs =>
    hP.read (f := fun s => (s.callsOf id).length) (fun _ _ _ => rfl) (fun _ _ => trivial)
      (k := fun n => (Body.turn bs n).build call) fun _ _ => hP.build hcall _
  | .list es => hP.bind (evalAll hcall id hargs es) fun _ => hP.newList
  | .arithmetic op l r =>
    hP.bind (eval hcall id hargs l) fun _ hv => hP.bind (eval hcall id hargs r) fun _ hw =>
      hP.bind (hP.lift _ (hP.hereditary.operate op hv hw)) fun _ => hP.adopt
  | .equal l r =>
    hP.bind (eval hcall id hargs l) fun _ hv => hP.bind (eval hcall id hargs r) fun _ hw =>
      hP.bind (hP.askEqual hcall hv hw) fun _ _ => hP.pure (hP.hereditary.atom rfl)
  | .choose condition yes no => by
    refine hP.bind (eval hcall id hargs condition) fun _ hv => hP.bind (hP.askTruth hcall hv) fun _ _ => ?_
    split
    · exact eval hcall id hargs yes
    · exact eval hcall id hargs no
  | .call f es => hP.bind (eval hcall id hargs f) fun _ hg => hP.bind (evalAll hcall id hargs es) fun _ hvs => hcall _ _ hg hvs
  | .throw _ => hP.fail _

theorem evalAll (hcall : ∀ f args, good f → Bears good args → P (call f args)) (id : ObjectId)
    (hargs : Bears good args) :
    ∀ es : List (Body Blueprint), P (Body.evalAll id args call es)
  | [] => hP.pure .nil
  | e :: es =>
    hP.bind (eval hcall id hargs e) fun _ hv => hP.bind (evalAll hcall id hargs es) fun _ hvs =>
      hP.pure (List.forall_mem_cons.mpr ⟨hv, hvs⟩)

end

end

section
variable (hP : Tracking good P) (hcall : ∀ f args, good f → Bears good args → P (call f args))
include hP hcall

/-- A call of a routine, if its record is made. -/
theorem run (r : Routine Value) (id : ObjectId) (hargs : Bears good args) (hnamed : Bears good named)
    (hrecord : P (Exec.recordCall id args)) : P (r.run id args named call) :=
  hP.bind (hP.lift _ (Bears.bindNamed hnamed)) fun _ _ => hP.bind hrecord fun _ _ => hP.eval hcall id hargs r.body

end

/-! ### Checks -/

section
variable (hP : Tracking good P) (c : Checked Value)
include hP

theorem raise (r : Report) : P (Checked.raise r : Exec α) := hP.fail _

theorem checkCount (given named : Nat) : P (c.checkCount given named) := by
  unfold Checked.checkCount
  split
  · exact hP.raise _
  · exact hP.pure trivial

theorem pass {judge : Nat → Tag → Value → Exec Unit} (hjudge : ∀ p t v, good v → P (judge p t v)) (position : Nat)
    (ts : List Tag) (hargs : Bears good args) : P (Checked.pass judge position ts args) := by
  induction ts generalizing position args with
  | nil => exact hP.pure trivial
  | cons t ts ih =>
    cases args with
    | nil => exact hP.pure trivial
    | cons v args =>
      obtain ⟨hv, hargs⟩ := List.forall_mem_cons.mp hargs
      exact hP.bind (hjudge _ _ _ hv) fun _ _ => ih _ hargs

theorem judgeTag (position : Nat) (t : Tag) (v : Value) (hv : good v) : P (c.judgeTag position t v) :=
  hP.bind (hP.classify hv) fun _ _ => hP.demand trivial _

theorem judgeNaN (position : Nat) (t : Tag) (v : Value) (hv : good v) : P (c.judgeNaN position t v) := by
  refine hP.bind (hP.classify hv) fun u _ => ?_
  split
  · exact hP.raise _
  · exact hP.pure trivial

theorem judgeUndefined (position : Nat) (t : Tag) (v : Value) : P (c.judgeUndefined position t v) := by
  unfold Checked.judgeUndefined
  split
  · exact hP.raise _
  · exact hP.pure trivial

theorem checkResult (hv : good v) : P (c.checkResult v) := by
  refine hP.bind (hP.classify hv) fun u _ => ?_
  dsimp only
  split
  · split
    · exact hP.raise _
    · exact hP.pure trivial
  · split
    · exact hP.pure trivial
    · exact hP.raise _

theorem checkArguments (hargs : Bears good args) (named : Nat) : P (c.checkArguments args named) := by
  rw [Checked.checkArguments, Checked.checkTags_eq_pass, Checked.checkNaN_eq_pass, Checked.checkUndefined_eq_pass]
  exact hP.bind (hP.checkCount c _ _) fun _ _ => hP.bind (hP.pass (hP.judgeTag c) _ _ hargs) fun _ _ =>
    hP.bind (hP.pass (hP.judgeNaN c) _ _ hargs) fun _ _ =>
      hP.pass (fun p t v _ => hP.judgeUndefined c p t v) _ _ hargs

theorem guard {call : List Value → Exec Value} (hargs : Bears good args) (named : Nat) (hcall : P (call args)) :
    P (c.guard args named call) :=
  hP.bind (hP.checkArguments c hargs named) fun _ _ => hP.bind hcall fun _ hv =>
    hP.bind (hP.checkResult c hv) fun _ _ => hP.pure hv

end

/-! ### Entering a call -/

section
variable {call : Invoker} (hP : Tracking good P)
  (hcall : ∀ f args named, good f → Bears good args → Bears good named → P (call f args named))
include hP hcall

theorem start (id : ObjectId) (name : String) {attributes : List (String × Value)} (hattributes : Bears good attributes)
    (hargs : Bears good args) (hnamed : Bears good named) : P (Value.start call id name attributes args named) := by
  have hobject (i : ObjectId) : good (.object i (.ownClass id name attributes)) :=
    hP.hereditary.object (hP.hereditary.ownClass hattributes)
  unfold Value.start
  split
  · next g hg =>
    have hg := Bears.lookup hattributes Value.startName g hg
    refine hP.bind hP.fresh fun i _ => ?_
    refine hP.bind (hcall _ _ _ (hP.hereditary.readThrough (hobject i) hg) hargs hnamed) fun answer _ => ?_
    split
    · exact hP.pure (hobject i)
    · exact hP.fail _
  · split
    · exact hP.bind hP.fresh fun i _ => hP.pure (hobject i)
    · exact hP.fail _

/-- A call, if the record of a call is made where a routine is called, and if a checked function keeps
    the property. -/
theorem enter {through : Checked Value → Caller} {f : Value} (hf : good f) (hargs : Bears good args)
    (hnamed : Bears good named) (hrecord : ∀ id r, f = .routine id r → P (Exec.recordCall id args))
    (hchecked : ∀ id c, f = .checked id c → P (c.guard args named.length (through c c.implementation))) :
    P (Value.enter call through f args named) := by
  have hcall' : ∀ f args, good f → Bears good args → P (byPosition call f args) := fun f args hf hargs =>
    hcall f args [] hf hargs .nil
  unfold Value.enter
  split
  · exact hP.run hcall' _ _ hargs hnamed (hrecord _ _ rfl)
  · exact hP.refuse _ (k := fun _ => _) (hchecked _ _ rfl)
  · refine hcall _ _ _ (hP.hereditary.part hf List.mem_cons_self) ?_ hnamed
    exact List.forall_mem_cons.mpr ⟨hP.hereditary.part hf (List.mem_cons_of_mem _ List.mem_cons_self), hargs⟩
  · exact hP.callStock hcall' _ hargs hnamed
  · exact hP.demand hP.hereditary.null _
  · exact hP.start hcall _ _ (hP.hereditary.attributes hf) hargs hnamed
  · split
    · next g hg =>
      have hown := hP.hereditary.ownAttribute? (hP.hereditary.part hf List.mem_cons_self) Value.callName g hg
      exact hcall _ _ _ (hP.hereditary.readThrough hf hown) hargs hnamed
    · exact hP.fail _
  · exact hP.fail _

end

/-! ### Parts of wrapping -/

section
variable (hP : Tracking good P)
include hP

theorem adoptMetadata {m : Metadata Value} (hm : Bears good m) : P m.adopt :=
  have adopted {o : Option Value} (ho : Bears good o) : P (o.mapM Exec.adopt) := hP.mapOption (fun _ => hP.adopt) ho
  hP.bind (adopted hm.1) fun _ hmodule => hP.bind (adopted hm.2.1) fun _ hname =>
    hP.bind (adopted hm.2.2.1) fun _ hqualname => hP.bind (adopted hm.2.2.2) fun _ hdoc =>
      hP.pure ⟨hmodule, hname, hqualname, hdoc⟩

theorem newModule {es : List (Value × Value)} (hes : Bears good es) : P (Module.newMapping es) := by
  have made : P (do return Value.mapping (← Exec.fresh) .plain es) :=
    hP.bind hP.fresh fun _ _ => hP.pure (hP.hereditary.mapping hes)
  unfold Module.newMapping
  split
  · exact made
  · exact hP.bind (hP.fail _) fun (_ : Unit) _ => made

theorem reportOrphans {ss : List Entry} (hss : Bears good ss) : P (Module.reportOrphans ss) := by
  induction ss with
  | nil => exact hP.pure trivial
  | cons s ss ih =>
    obtain ⟨hs, hss⟩ := List.forall_mem_cons.mp hss
    exact hP.bind (hP.log hs.1) fun _ _ => ih hss

/-- The choice of a marker, if nothing is chosen or reading the marker in force has the property. -/
theorem chooseMarker {marker : Value} (hread : marker = .null → P (do return String.singleton (← get).marker)) :
    P (Module.chooseMarker marker) := by
  unfold Module.chooseMarker
  split
  · exact hread rfl
  · exact hP.demand trivial _

theorem unpack (hv : good v) : P (Triples.unpack v) := by
  refine hP.bind (hP.takeItems? 4 hv) fun o ho => ?_
  split
  · exact hP.fail _
  · next name signature function =>
    obtain ⟨hname, hrest⟩ := List.forall_mem_cons.mp (ho _ rfl)
    obtain ⟨hsignature, hfunction⟩ := List.forall_mem_cons.mp hrest
    exact hP.pure ⟨hname, hsignature, hfunction function List.mem_cons_self⟩
  · exact hP.fail _

theorem checkName (name : Value) (done : List (Value × Value)) : P (Triples.checkName name done) := by
  refine hP.bind (hP.checkKeys _) fun _ _ => ?_
  split
  · exact hP.fail _
  · exact hP.pure trivial

/-- Configuring, if putting a marker in force has the property. -/
theorem configure (hset : ∀ c, P (modify fun s => { s with marker := c })) (environment : Option String) :
    P (Marker.configure environment) := by
  unfold Marker.configure
  split
  exact hP.refuse _ (hP.bind (hset _) fun _ _ => hP.pure fun _ _ => trivial)

end

theorem defaultName (hP : Tracking good P) (hcall : ∀ f args, good f → Bears good args → P (call f args))
    {implementation : Value} (himplementation : good implementation) :
    P (Checked.defaultName call implementation) := by
  have hanonymous : P (Pure.pure (Value.ofString Checked.anonymous)) := hP.pure (hP.hereditary.ofString _)
  unfold Checked.defaultName
  split
  · exact hanonymous
  · next name hname =>
    have hname : good name := (hP.hereditary.metadata himplementation).2.1 name hname
    refine hP.bind (hP.askTruth hcall hname) fun b _ => ?_
    split
    · exact hanonymous
    · refine hP.bind (hP.askEqual hcall hname (hP.hereditary.ofString _)) fun b _ => ?_
      split
      · exact hanonymous
      · exact hP.pure hname

end Tracking

namespace Step

/-- The values that an operation is given. -/
def values : Step → List Value
  | build _ => []
  | classify v => [v]
  | readSignature v => [v]
  | lookUpTag v => [v]
  | lookUpKind v => [v]
  | report _ args named => args ++ named.map Prod.snd
  | wrap signature implementation name => [signature, implementation, name]
  | wrapTyped tags implementation name => tags ++ [implementation, name]
  | wrapModule spec marker => [spec, marker]
  | wrapTriples entries => [entries]
  | .call f args named => f :: (args ++ named.map Prod.snd)
  | callAnnotated _ args named => args ++ named.map Prod.snd
  | configure _ => []
  | readAttribute v _ => [v]
  | changeAttribute v _ => [v]
  | defineClass _ attributes => attributes.map Prod.snd
  | hold v => [v]

/-- Whether an operation makes checked functions. -/
def wraps : Step → Bool
  | wrap .. => true
  | wrapTyped .. => true
  | wrapModule .. => true
  | wrapTriples .. => true
  | _ => false

/-- Whether an operation looks at the marker in force. -/
def readsMarker : Step → Bool
  | wrapModule _ .null => true
  | _ => false

/-- Whether an operation may put another marker in force. -/
def setsMarker : Step → Bool
  | configure _ => true
  | _ => false

end Step

namespace Tracking
variable {good : Value → Prop} {P : ∀ {α : Type} [Bearing α], Exec α → Prop} {call : Invoker}

omit P in
theorem bears_named {named : List (String × Value)} (h : ∀ v ∈ named.map Prod.snd, good v) : Bears good named :=
  fun e he => ⟨trivial, h e.2 (List.mem_map_of_mem he)⟩

/-- A step that makes no checked function has the property that the calls have, and the setting of the
    marker if it sets it. -/
theorem runStep (hP : Tracking good P)
    (hcall : ∀ f args named, good f → Bears good args → Bears good named → P (call f args named)) {step : Step}
    (hset : step.setsMarker = true → ∀ c, P (modify fun s => { s with marker := c }))
    (hwraps : step.wraps = false) (hstep : ∀ v ∈ step.values, good v) : P (step.run call) := by
  have hcall' : ∀ f args, good f → Bears good args → P (byPosition call f args) := fun f args hf hargs =>
    hcall f args [] hf hargs .nil
  have answered {v : Value} (hv : good v) : P (Pure.pure (Answer.value v) : Exec Answer) := by
    refine hP.pure ?_
    rintro _ ⟨⟩
    exact hv
  have told {a : Answer} (ha : a.value? = none) : P (Pure.pure a : Exec Answer) :=
    hP.pure fun v hv => by
      rw [ha] at hv
      cases hv
  cases step with
  | build b => exact hP.bind (hP.build hcall' b) fun _ => answered
  | classify v => exact hP.bind (hP.classify (hstep v List.mem_cons_self)) fun _ _ => told rfl
  | readSignature v =>
    exact hP.bind (hP.askSignature hcall' .usual (hstep v List.mem_cons_self)) fun (_ : Signature) _ => told rfl
  | lookUpTag v =>
    have hv := hstep v List.mem_cons_self
    exact hP.bind (hP.findMember hcall' Tag.closedSet (fun _ => trivial) .usual hv) fun (_ : Tag) _ => told rfl
  | lookUpKind v =>
    have hv := hstep v List.mem_cons_self
    exact hP.bind (hP.findMember hcall' Violation.closedSet (fun _ => trivial) .usual hv) fun (_ : Violation) _ =>
      told rfl
  | report c args named => exact hP.bind (hP.lift _ fun _ _ => trivial) fun (_ : Report) _ => told rfl
  | call f args named =>
    obtain ⟨hf, hrest⟩ := List.forall_mem_cons.mp hstep
    obtain ⟨hargs, hnamed⟩ := List.forall_mem_append.mp hrest
    exact hP.bind (hcall f args named hf hargs (bears_named hnamed)) fun _ => answered
  | callAnnotated f args named =>
    obtain ⟨hargs, hnamed⟩ := List.forall_mem_append.mp hstep
    refine hP.bind (hP.lift _ (hP.hereditary.callAnnotated f hargs (bears_named hnamed))) fun _ hv => ?_
    exact hP.bind (hP.adopt hv) fun _ => answered
  | configure environment => exact hP.bind (hP.configure (hset rfl) _) fun _ _ => told rfl
  | readAttribute v name =>
    refine hP.bind (hP.lift _ (hP.hereditary.readAttribute (hstep v List.mem_cons_self) name)) fun _ hv => ?_
    exact hP.bind (hP.adopt hv) fun _ => answered
  | changeAttribute v name => exact hP.fail _
  | defineClass name attributes =>
    exact hP.bind hP.fresh fun _ _ => answered (hP.hereditary.ownClass (bears_named hstep))
  | hold v => exact answered (hstep v List.mem_cons_self)
  | wrap | wrapTyped | wrapModule | wrapTriples => cases hwraps

end Tracking

/-! ### Wrapping -/

/-- A property of operations under which what is known of values grows: it is said of what is known when an
    operation begins, `K` holds of operations after which no more is known, and the rest of a sequence is
    judged by what is known after the first part. Making a checked function has it. -/
structure Growing {W : Type} (le : W → W → Prop) (good : W → Value → Prop)
    (K P : W → ∀ {α : Type} [Bearing α], Exec α → Prop) : Prop where
  tracking (w : W) : Tracking (good w) (K w)
  mono {w w' : W} (h : le w w') (v : Value) (hv : good w v) : good w' v
  steady {w : W} {α : Type} [Bearing α] {x : Exec α} (hx : K w x) : P w x
  bind {w : W} {α β : Type} [Bearing α] [Bearing β] {x : Exec α} {k : α → Exec β} (hx : P w x)
    (hk : ∀ w' a, le w w' → Bears (good w') a → P w' (k a)) : P w (x >>= k)
  make {w : W} (sig : Signature) {implementation name : Value} (himplementation : good w implementation)
    (hname : good w name) : P w (do
      Exec.log (.wrapping name sig)
      let id ← Exec.fresh
      let _ ← Exec.fresh
      return Value.checked id ⟨sig, implementation, name, ← implementation.metadata.adopt⟩)

/-- Where nothing has to be known of values, nothing more becomes known of them. -/
theorem Tracking.growing {P : ∀ {α : Type} [Bearing α], Exec α → Prop} (hP : Tracking (fun _ => True) P) :
    Growing (fun (_ _ : Unit) => True) (fun _ _ => True) (fun _ {_} _ x => P x) (fun _ {_} _ x => P x) where
  tracking _ := hP
  mono _ _ _ := trivial
  steady hx := hx
  bind hx hk := hP.bind hx fun a ha => hk () a trivial ha
  make _ _ _ _ _ := hP.bind (hP.log (Bearing.all_true _)) fun _ _ => hP.bind hP.fresh fun _ _ =>
    hP.bind hP.fresh fun _ _ => hP.bind (hP.adoptMetadata (Bearing.all_true _)) fun _ _ => hP.pure trivial

namespace Growing
variable {W : Type} {le : W → W → Prop} {good : W → Value → Prop}
  {K P : W → ∀ {α : Type} [Bearing α], Exec α → Prop} {α β : Type} [Bearing α] [Bearing β] {call : Caller} {w : W}

section
variable (hG : Growing le good K P)
include hG

theorem fail (f : Failure) : P w (Exec.fail f : Exec α) := hG.steady ((hG.tracking w).fail f)

theorem pure {a : α} (ha : Bears (good w) a) : P w (Pure.pure a : Exec α) := hG.steady ((hG.tracking w).pure ha)

/-- An operation that goes on or fails. -/
theorem require {p : Prop} [Decidable p] (f : Failure) {k : Unit → Exec α} (hk : P w (k ())) :
    P w (if p then k () else Exec.fail f >>= k) := by
  split
  · exact hk
  · exact hG.fail f

/-- An operation that fails or goes on. -/
theorem refuse {p : Prop} [Decidable p] (f : Failure) {k : Unit → Exec α} (hk : P w (k ())) :
    P w (if p then Exec.fail f >>= k else k ()) := by
  split
  · exact hG.fail f
  · exact hk

/-- An operation that goes on with what it finds in the store, if it finds anything. -/
theorem readOption {f : Store → Option β} (hf : ∀ s ws c, f { s with comparisons := ws, marker := c } = f s)
    (hgood : ∀ s, Bears (good w) s → Bears (good w) (f s)) {x : Exec α} {k : β → Exec α} {g : Store → Exec α}
    (hg : ∀ s, g s = (f s).elim x k) (hx : ∀ w', le w w' → P w' x)
    (hk : ∀ w' b, le w w' → Bears (good w') b → P w' (k b)) : P w (get >>= g) := by
  have hread := hG.steady ((hG.tracking w).elementary (Exec.Elementary.of_read hf) (.of_read hgood))
  have := hG.bind hread (k := fun o => o.elim x k) fun w' o hle ho => by
    cases o with
    | none => exact hx w' hle
    | some b => exact hk w' b hle (ho b rfl)
  rw [show g = fun s => (f s).elim x k from funext hg]
  rwa [bind_assoc] at this

theorem lift {ε : Type} (cause : ε → Failure) {x : Except ε α} (hx : Bears (good w) x) : P w (Exec.lift cause x) :=
  hG.steady ((hG.tracking w).lift cause hx)

end

section
variable (hG : Growing le good K P) (hcall : ∀ w f args, good w f → Bears (good w) args → K w (call f args))
include hG hcall

theorem wrap (signature : Value) {implementation name : Value} (himplementation : good w implementation)
    (hname : good w name) : P w (Value.wrap call signature implementation name) := by
  have made (sig : Signature) {w : W} {x : Exec Value} (hx : P w x) (himplementation : good w implementation) : P w (do
      let display ← x
      Exec.log (.wrapping display sig)
      let id ← Exec.fresh
      let _ ← Exec.fresh
      return Value.checked id ⟨sig, implementation, display, ← implementation.metadata.adopt⟩) :=
    hG.bind hx fun _ _ hle hdisplay => hG.make sig (hG.mono hle _ himplementation) hdisplay
  unfold Value.wrap
  split
  · refine hG.require _ (hG.bind (hG.lift _ fun _ _ => trivial) fun w' (sig : Signature) hle _ => ?_)
    have himplementation := hG.mono hle _ himplementation
    exact made sig (hG.steady ((hG.tracking w').defaultName (hcall w') himplementation)) himplementation
  · refine hG.require _ (hG.bind (hG.lift _ fun _ _ => trivial) fun w' (sig : Signature) hle _ => ?_)
    exact made sig (hG.pure (hG.mono hle _ hname)) (hG.mono hle _ himplementation)

theorem wrapFunction (m : String) (es : List Entry) {f : Entry} (hf : Bears (good w) f) :
    P w (Module.wrapFunction call m es f) := by
  unfold Module.wrapFunction
  split
  · exact hG.bind (hG.wrap hcall _ hf.2 hf.1) fun _ _ hle hc => hG.pure ⟨hG.mono hle _ hf.1, hc⟩
  · exact hG.bind (hG.steady ((hG.tracking w).log hf.1)) fun _ (_ : Unit) hle _ =>
      hG.pure ⟨hG.mono hle _ hf.1, hG.mono hle _ hf.2⟩

theorem wrapFunctions (m : String) (es : List Entry) {fs : List Entry} (hfs : Bears (good w) fs) :
    P w (Module.wrapFunctions call m es fs) := by
  induction fs generalizing w with
  | nil => exact hG.pure .nil
  | cons f fs ih =>
    obtain ⟨hf, hfs⟩ := List.forall_mem_cons.mp hfs
    refine hG.bind (hG.wrapFunction hcall m es hf) fun _ _ hle he => ?_
    refine hG.bind (ih fun f hf => (hfs f hf).mono (hG.mono hle)) fun _ _ hle hrest => ?_
    exact hG.pure (List.forall_mem_cons.mpr ⟨he.mono (hG.mono hle), hrest⟩)

theorem wrapEntries (m : String) {es : List Entry} (hes : Bears (good w) es) : P w (Module.wrapEntries call m es) := by
  have hrole (r : Role) : Bears (good w) (Module.ofRole m r es) := fun e he => hes e (List.mem_filter.mp he).1
  have horphans : Bears (good w) (Module.orphans m es) := fun e he => hrole .signature e (List.mem_filter.mp he).1
  have hdata : Bears (good w) ((Module.ofRole m .data es).map Entry.pair) := by
    intro p hp
    obtain ⟨e, he, rfl⟩ := List.mem_map.mp hp
    exact hrole .data e he
  refine hG.bind (hG.wrapFunctions hcall m es (hrole .function)) fun w' fs hle hfs => ?_
  have hreport := (hG.tracking w').reportOrphans (horphans.mono (hG.mono hle))
  refine hG.bind (hG.steady hreport) fun _ _ hle' _ => hG.pure (List.forall_mem_append.mpr ⟨?_, ?_⟩)
  · exact (hdata.mono (hG.mono hle)).mono (hG.mono hle')
  · exact hfs.mono (hG.mono hle')

omit hG hcall in
theorem readAll {markerType : String} {ps : List (Value × Value)} (hps : Bears (good w) ps) :
    Bears (good w) (Entry.readAll markerType ps) := by
  induction ps with
  | nil => exact Bears.of_ok .nil
  | cons p ps ih =>
    obtain ⟨hp, hps⟩ := List.forall_mem_cons.mp hps
    unfold Entry.readAll
    split
    · exact Bears.mapExcept (ih hps) fun es hes => List.forall_mem_cons.mpr ⟨hp, hes⟩
    · nofun

theorem wrapModule {spec marker : Value} (hspec : good w spec)
    (hread : marker = .null → K w (do return String.singleton (← get).marker)) :
    P w (Module.wrap call spec marker) := by
  unfold Module.wrap
  split
  · exact hG.fail _
  · next ps hps =>
    have hps := (hG.tracking w).hereditary.entries? hspec ps hps
    refine hG.require _ (hG.bind (hG.steady ((hG.tracking w).chooseMarker hread)) fun w₁ _ h₁ _ => ?_)
    refine hG.bind (hG.lift _ (readAll (hps.mono (hG.mono h₁)))) fun w₂ _ _ hes => ?_
    exact hG.bind (hG.wrapEntries hcall _ hes) fun w₃ _ _ hes => hG.steady ((hG.tracking w₃).newModule hes)

theorem wrapOne {done : List (Value × Value)} (hdone : Bears (good w) done) {v : Value} (hv : good w v) :
    P w (Triples.wrapOne call done v) := by
  refine hG.bind (hG.steady ((hG.tracking w).unpack hv)) fun w₁ parts h₁ hparts => ?_
  obtain ⟨name, signature, function⟩ := parts
  obtain ⟨hname, -, hfunction⟩ := hparts
  refine hG.bind (hG.steady ((hG.tracking w₁).checkName name done)) fun w₂ _ h₂ _ => ?_
  have hname := hG.mono h₂ _ hname
  refine hG.bind (hG.wrap hcall signature (hG.mono h₂ _ hfunction) hname) fun w₃ c h₃ hc => ?_
  refine hG.pure (List.forall_mem_append.mpr ⟨?_, List.forall_mem_singleton.mpr ⟨hG.mono h₃ _ hname, hc⟩⟩)
  exact ((hdone.mono (hG.mono h₁)).mono (hG.mono h₂)).mono (hG.mono h₃)

theorem wrapAll {done : List (Value × Value)} (hdone : Bears (good w) done) {vs : List Value} (hvs : Bears (good w) vs) :
    P w (Triples.wrapAll call done vs) := by
  induction vs generalizing w done with
  | nil => exact hG.pure hdone
  | cons v vs ih =>
    obtain ⟨hv, hvs⟩ := List.forall_mem_cons.mp hvs
    exact hG.bind (hG.wrapOne hcall hdone hv) fun _ _ hle hdone =>
      ih hdone fun v hv => hG.mono hle v (hvs v hv)

theorem wrapFrom (id : ObjectId) {vs : List Value} (hvs : Bears (good w) vs) (fuel : Nat)
    {done : List (Value × Value)} (hdone : Bears (good w) done) : P w (Triples.wrapFrom call id vs fuel done) := by
  induction fuel generalizing w done with
  | zero => exact hG.pure hdone
  | succ fuel ih =>
    refine hG.readOption (f := fun s => vs[s.takenFrom id]?) (fun _ _ _ => rfl)
      (fun s _ v hv => hvs v (List.mem_of_getElem? hv)) (k := fun v => do
        Exec.recordTaken id
        Triples.wrapFrom call id vs fuel (← Triples.wrapOne call done v))
      (fun s => ?_) (fun _ hle => hG.pure (a := done) (hdone.mono (hG.mono hle))) fun w₁ v h₁ hv => ?_
    · cases vs[s.takenFrom id]? <;> rfl
    · have hvs := hvs.mono (hG.mono h₁)
      refine hG.bind (hG.steady ((hG.tracking w₁).recordTaken id)) fun w₂ _ h₂ _ => ?_
      have hdone := (hdone.mono (hG.mono h₁)).mono (hG.mono h₂)
      exact hG.bind (hG.wrapOne hcall hdone (hG.mono h₂ v hv)) fun w₃ more h₃ hmore =>
        ih ((hvs.mono (hG.mono h₂)).mono (hG.mono h₃)) hmore

theorem wrapTriples {entries : Value} (hentries : good w entries) : P w (Triples.wrap call entries) := by
  have made {w : W} {x : Exec (List (Value × Value))} (hx : P w x) : P w (do Module.newMapping (← x)) :=
    hG.bind hx fun w' _ _ hes => hG.steady ((hG.tracking w').newModule hes)
  have hnone : Bears (good w) ([] : List (Value × Value)) := .nil
  unfold Triples.wrap
  split
  · refine hG.refuse _ (made (hG.wrapFrom hcall _ (fun _ hv => ?_) _ hnone))
    exact (hG.tracking w).hereditary.part hentries hv
  · refine hG.refuse _ ?_
    split
    · next vs hvs => exact made (hG.wrapAll hcall hnone ((hG.tracking w).hereditary.items? hentries vs hvs))
    · exact hG.fail _

end

/-! ### Steps -/

theorem runStep {call : Invoker} (hG : Growing le good K P)
    (hcall : ∀ w f args named, good w f → Bears (good w) args → Bears (good w) named → K w (call f args named))
    {step : Step} (hread : step.readsMarker = true → K w (do return String.singleton (← get).marker))
    (hset : step.setsMarker = true → ∀ c, K w (modify fun s => { s with marker := c }))
    (hstep : ∀ v ∈ step.values, good w v) : P w (step.run call) := by
  have hcall' : ∀ w f args, good w f → Bears (good w) args → K w (byPosition call f args) := fun w f args hf hargs =>
    hcall w f args [] hf hargs .nil
  have answered {x : Exec Value} (hx : P w x) : P w (do return Answer.value (← x)) := by
    refine hG.bind hx fun _ v _ hv => hG.pure ?_
    rintro _ ⟨⟩
    exact hv
  by_cases hwraps : step.wraps = true
  · cases step with
    | wrap signature implementation name =>
      exact answered (hG.wrap hcall' _ (hstep _ (by simp [Step.values])) (hstep _ (by simp [Step.values])))
    | wrapTyped tags implementation name =>
      exact answered (hG.wrap hcall' _ (hstep _ (by simp [Step.values])) (hstep _ (by simp [Step.values])))
    | wrapModule spec marker =>
      refine answered (hG.wrapModule hcall' (hstep spec List.mem_cons_self) fun hnull => hread ?_)
      subst hnull
      rfl
    | wrapTriples entries => exact answered (hG.wrapTriples hcall' (hstep entries List.mem_cons_self))
    | _ => cases hwraps
  · exact hG.steady ((hG.tracking w).runStep (hcall w) hset (Bool.eq_false_iff.mpr hwraps) hstep)

end Growing

namespace Closed
variable {P : ∀ {α : Type}, Exec α → Prop} (hP : Closed P)
include hP

theorem checkArguments (c : Checked Value) (args : List Value) (named : Nat) : P (c.checkArguments args named) :=
  hP.tracking.checkArguments c (Bearing.all_true args) named

theorem checkResult (c : Checked Value) (v : Value) : P (c.checkResult v) := hP.tracking.checkResult c trivial

theorem guard (c : Checked Value) {call : List Value → Exec Value} (args : List Value) (named : Nat)
    (hcall : P (call args)) : P (c.guard args named call) :=
  hP.tracking.guard c (Bearing.all_true args) named hcall

section
variable {call : Invoker} (hcall : ∀ f args named, P (call f args named))
include hcall

/-- A call, if the record of a call is made where a routine is called, and if a checked function keeps
    the property. -/
theorem enter {through : Checked Value → Caller} {f : Value} {args : List Value} {named : List (String × Value)}
    (hrecord : ∀ id r, f = .routine id r → P (Exec.recordCall id args))
    (hchecked : ∀ id c, f = .checked id c → P (c.guard args named.length (through c c.implementation))) :
    P (Value.enter call through f args named) :=
  hP.tracking.enter (fun _ _ _ _ _ _ => hcall _ _ _) trivial (Bearing.all_true args) (Bearing.all_true named) hrecord
    hchecked

/-- Every step of a session has a closed property that the calls have, and what it does with the marker. -/
theorem performBy {step : Step} (hread : step.readsMarker = true → P (do return String.singleton (← get).marker))
    (hset : step.setsMarker = true → ∀ c, P (modify fun s => { s with marker := c })) (target : Option String) :
    P (step.performBy call target) := by
  have hrun : P (step.run call) :=
    hP.tracking.growing.runStep (w := ()) (fun _ _ _ _ _ _ _ => hcall _ _ _) hread hset fun _ _ => trivial
  refine hP.bind hrun fun answer => ?_
  split
  · exact hP.bind (hP.elementary (.of_modify (fun _ => rfl) (fun _ _ => rfl) fun _ _ => rfl)) fun _ => hP.pure _
  · exact hP.bind (hP.pure ()) fun _ => hP.pure _

end

end Closed
end CallGuard
