import CallGuard.Proofs.Steps

/-! What is on record of a routine that is called only through checked functions of one signature. Calls
    can be barred by what is called and by the signature of the checked function that calls it, if one
    does (`invokeBarring`). Where it changes nothing about a session to bar the calls of a routine that no
    checked function of the signature makes, all arguments on record have passed the checks of the
    signature: a barred call leaves no record, and a call that is not barred comes after the checks. Every
    operation keeps this, calls by induction on how deep they nest. -/

namespace CallGuard

/-! ### Barring calls -/

/-- Calls a value, but stops where a call is barred. -/
def invokeBarring (barred : Option Signature → Value → Bool) : (fuel : Nat) → (under : Option Signature) → Invoker
  | 0, _ => fun _ _ _ => throw .exhausted
  | fuel + 1, under => fun f args named =>
    if barred under f then throw .exhausted
    else
      Value.enter (invokeBarring barred fuel none)
        (fun c => byPosition (invokeBarring barred fuel (some c.signature))) f args named

/-- Where nothing is barred, calls are as ever. -/
theorem invokeBarring_nothing (fuel : Nat) (under : Option Signature) :
    invokeBarring (fun _ _ => false) fuel under = invoke fuel := by
  induction fuel generalizing under with
  | zero => rfl
  | succ fuel ih =>
    funext f args named
    simp only [invokeBarring, invoke, ih, Bool.false_eq_true, ↓reduceIte]

/-- Whether a value is the routine with an identity, not called by a checked function of a signature. -/
def isUnchecked (id : ObjectId) (sig : Signature) (under : Option Signature) : Value → Bool
  | .routine i _ => i == id && under != some sig
  | _ => false

/-- A session calls a routine only through checked functions of a signature: barring every other call of
    it changes nothing. -/
def CalledOnlyUnder (id : ObjectId) (sig : Signature) (steps : List (Step × Option String)) : Prop :=
  Session.runBy (invokeBarring (isUnchecked id sig) nestingLimit none) .initial steps = Session.run .initial steps

/-! ### Arguments that passed -/

/-- Arguments that passed the checks of a signature: each was given a tag that is accepted at its
    position, and again a tag that is not that of NaN. -/
structure Passed (sig : Signature) (args : List Value) : Prop where
  count : args.length = sig.arity
  typed : ∀ (i : Nat) (t : Tag) (v : Value), sig.arguments[i]? = some t → args[i]? = some v →
    ∃ s u, (v.classify.on s).1 = .ok u ∧ t.accepts u = true
  noNaN : ∀ v ∈ args, ∃ s u, (v.classify.on s).1 = .ok u ∧ u ≠ .nan
  noUndefined : .undefined ∉ args

namespace Checked
variable {c : Checked Value} {s t : Store} {args : List Value} {v : Value} {p : Nat} {expected : Tag}

theorem judgeTag_ok (h : (c.judgeTag p expected v).on s = (.ok (), t)) :
    ∃ u, (v.classify.on s).1 = .ok u ∧ expected.accepts u = true := by
  obtain ⟨u, s', hu, h⟩ := Exec.on_bind_eq_ok h
  refine ⟨u, by rw [hu], ?_⟩
  split at h
  · assumption
  · simp [raise] at h

theorem judgeNaN_ok (h : (c.judgeNaN p expected v).on s = (.ok (), t)) :
    ∃ u, (v.classify.on s).1 = .ok u ∧ u ≠ .nan := by
  obtain ⟨u, s', hu, h⟩ := Exec.on_bind_eq_ok h
  refine ⟨u, by rw [hu], ?_⟩
  rintro rfl
  simp [raise] at h

theorem judgeUndefined_ok (h : (c.judgeUndefined p expected v).on s = (.ok (), t)) : v ≠ .undefined := by
  rintro rfl
  simp [judgeUndefined, raise] at h

theorem checkCount_ok {given named : Nat} (h : (c.checkCount given named).on s = (.ok (), t)) :
    given = c.signature.arity := by
  unfold checkCount at h
  split at h
  · simp [raise] at h
  · omega

/-- Where the checks let arguments through, the arguments passed. -/
theorem passed_of_checkArguments {named : Nat} (h : (c.checkArguments args named).on s = (.ok (), t)) :
    Passed c.signature args := by
  obtain ⟨_, s₁, hcount, h⟩ := Exec.on_bind_eq_ok h
  obtain ⟨_, s₂, htags, h⟩ := Exec.on_bind_eq_ok h
  obtain ⟨_, s₃, hnan, hundefined⟩ := Exec.on_bind_eq_ok h
  rw [checkTags_eq_pass] at htags
  rw [checkNaN_eq_pass] at hnan
  rw [checkUndefined_eq_pass] at hundefined
  have hn := checkCount_ok hcount
  refine ⟨hn, fun i t v ht hv => ?_, fun v hv => ?_, fun hv => ?_⟩
  · obtain ⟨s', t', hj⟩ := exists_judge_of_pass htags ht hv
    exact ⟨s', judgeTag_ok hj⟩
  · obtain ⟨i, hv⟩ := List.mem_iff_getElem?.mp hv
    obtain ⟨t, ht⟩ := Signature.exists_expected hn hv
    obtain ⟨s', t', hj⟩ := exists_judge_of_pass hnan ht hv
    exact ⟨s', judgeNaN_ok hj⟩
  · obtain ⟨i, hv⟩ := List.mem_iff_getElem?.mp hv
    obtain ⟨t, ht⟩ := Signature.exists_expected hn hv
    obtain ⟨s', t', hj⟩ := exists_judge_of_pass hundefined ht hv
    exact judgeUndefined_ok hj rfl

end Checked

/-! ### The record -/

/-- All arguments on record of a routine passed the checks of a signature. -/
def RecordPassed (id : ObjectId) (sig : Signature) (s : Store) : Prop := ∀ args ∈ s.callsOf id, Passed sig args

/-- An operation after which all arguments on record passed if they did before. -/
def KeepsRecord (id : ObjectId) (sig : Signature) {α : Type} (x : Exec α) : Prop :=
  ∀ s, RecordPassed id sig s → RecordPassed id sig (x.on s).2

namespace KeepsRecord
variable {id : ObjectId} {sig : Signature} {args : List Value}

theorem of_calls {α : Type} {x : Exec α} (h : ∀ s, (x.on s).2.calls = s.calls) : KeepsRecord id sig x := by
  intro s hs args hargs
  rw [Store.callsOf, h s] at hargs
  exact hs args hargs

theorem closed : Closed (KeepsRecord id sig) where
  elementary hx := of_calls hx.calls
  askNaN v := of_calls fun s => by rw [Value.on_askNaN, Store.calls_compared]
  bind := by
    intro α β x k hx hk s hs
    rw [Exec.on_bind]
    have hs' := hx s hs
    rcases hxs : x.on s with ⟨e | a, t⟩ <;> rw [hxs] at hs'
    · exact hs'
    · exact hk a t hs'
  recover := by
    intro α x handler hx hhandler s hs
    have hs' := hx s hs
    rcases hxs : x.on s with ⟨(f | _ | _) | a, t⟩ <;> rw [hxs] at hs'
    · rw [Exec.on_recover_failed hxs]
      exact hhandler f t hs'
    all_goals
      rw [Exec.on_recover_other handler hxs (by simp)]
      exact hs'

theorem recordCall {i : ObjectId} (h : i = id → Passed sig args) : KeepsRecord id sig (Exec.recordCall i args) := by
  intro s hs vs hvs
  simp only [Exec.recordCall, Exec.on_modify, Store.callsOf, List.filter_append, List.map_append,
    List.mem_append] at hvs
  rcases hvs with hvs | hvs
  · exact hs vs hvs
  · by_cases hi : i = id
    · simp only [hi, List.filter_cons, BEq.rfl, ↓reduceIte, List.filter_nil, List.map_cons, List.map_nil,
        List.mem_singleton] at hvs
      rw [hvs]
      exact h hi
    · simp [hi] at hvs

/-- What is called under checks may count on the arguments having passed them. -/
theorem guard {c : Checked Value} {named : Nat} {call : List Value → Exec Value}
    (h : Passed c.signature args → KeepsRecord id sig (call args)) : KeepsRecord id sig (c.guard args named call) := by
  intro s hs
  have ht := closed.checkArguments c args named s hs
  rcases hrun : (c.checkArguments args named).on s with ⟨e | _, t⟩ <;> rw [hrun] at ht
  · rw [Checked.guard, Exec.on_bind_error hrun]
    exact ht
  · rw [Checked.guard, Exec.on_bind_ok hrun]
    refine closed.bind (h (Checked.passed_of_checkArguments hrun)) (fun v => ?_) t ht
    exact closed.bind (closed.checkResult c v) fun _ => closed.pure v

/-- Calls keep the record, however deep they nest, if only checked functions of the signature get through
    to the routine. -/
theorem invokeBarring (fuel : Nat) {under : Option Signature} (f : Value) (args : List Value)
    (named : List (String × Value)) (h : under = some sig → Passed sig args) :
    KeepsRecord id sig (invokeBarring (isUnchecked id sig) fuel under f args named) := by
  induction fuel generalizing under f args named with
  | zero => exact closed.throw _
  | succ fuel ih =>
    -- The calls inside are made under nothing, but for that of a checked function, whose arguments passed.
    unfold CallGuard.invokeBarring
    split
    · exact closed.throw _
    · next hbar =>
      refine closed.enter (fun g args named => ih g args named fun hu => by cases hu) ?_ ?_
      · rintro i r rfl
        refine recordCall fun hi => h ?_
        simpa [isUnchecked, hi] using hbar
      · rintro i c rfl
        exact guard fun hpassed => ih _ _ _ fun hsig => by rwa [← Option.some.inj hsig]

end KeepsRecord

/-- The record is kept over the steps of a session. -/
theorem recordPassed_runBy {id : ObjectId} {sig : Signature} {call : Invoker}
    (hcall : ∀ f args named, KeepsRecord id sig (call f args named)) (steps : List (Step × Option String)) {s : Store}
    (hs : RecordPassed id sig s) : RecordPassed id sig (Session.runBy call s steps).2 := by
  induction steps generalizing s with
  | nil => exact hs
  | cons step steps ih =>
    refine ih (KeepsRecord.closed.performBy hcall (fun _ => ?_) (fun _ c => ?_) step.2 s hs)
    · exact KeepsRecord.of_calls fun _ => rfl
    · exact KeepsRecord.of_calls fun _ => rfl

theorem recordPassed_of_calledOnlyUnder {id : ObjectId} {sig : Signature} {steps : List (Step × Option String)}
    (h : CalledOnlyUnder id sig steps) : RecordPassed id sig (Session.run .initial steps).2 := by
  have hcall : ∀ f args named, KeepsRecord id sig (invokeBarring (isUnchecked id sig) nestingLimit none f args named) :=
    fun f args named => KeepsRecord.invokeBarring _ f args named fun hu => by cases hu
  rw [← h]
  exact recordPassed_runBy hcall steps fun args hargs => by cases hargs

namespace Passed
variable {sig : Signature} {args : List Value} {v : Value} {u : Tag}

theorem typed_of_keepsTag (h : Passed sig args) {i : Nat} {t : Tag} (ht : sig.arguments[i]? = some t)
    (hv : args[i]? = some v) (hu : v.KeepsTag .initial u) : t = .void ∨ u = t := by
  obtain ⟨s, u', hu', hacc⟩ := h.typed i t v ht hv
  rw [hu.everywhere s] at hu'
  cases hu'
  exact Tag.accepts_iff.mp hacc

theorem noNaN_of_keepsTag (h : Passed sig args) (hv : v ∈ args) (hu : v.KeepsTag .initial u) : u ≠ .nan := by
  obtain ⟨s, u', hu', hne⟩ := h.noNaN v hv
  rw [hu.everywhere s] at hu'
  cases hu'
  exact hne

/-- No arguments pass that keep their tags where NaN is expected: the check of tags asks for it and the
    next one refuses it. -/
theorem nan_notMem (h : Passed sig args) (hu : ∀ v ∈ args, ∃ u, v.KeepsTag .initial u) : .nan ∉ sig.arguments := by
  intro hnan
  obtain ⟨i, ht⟩ := List.mem_iff_getElem?.mp hnan
  have hi : i < args.length := h.count ▸ (List.getElem?_eq_some_iff.mp ht).1
  have hv := List.getElem?_eq_getElem hi
  obtain ⟨u, hu⟩ := hu _ (List.getElem_mem hi)
  rcases h.typed_of_keepsTag ht hv hu with he | he
  · cases he
  · exact h.noNaN_of_keepsTag (List.getElem_mem hi) hu he

end Passed

/-- Whatever a session does, arguments on record of a routine that it calls only through checked functions
    of a signature are as many as the signature has, none is missing, and those that keep their tags have
    the tags that are expected at their positions and are not NaN. Where NaN is expected nothing is on
    record. -/
theorem record_of_calledOnlyUnder {id : ObjectId} {sig : Signature} {steps : List (Step × Option String)}
    (h : CalledOnlyUnder id sig steps) :
    (∀ args ∈ (Session.run .initial steps).2.callsOf id,
      args.length = sig.arity ∧ .undefined ∉ args ∧
        ∀ (i : Nat) (t : Tag) (v : Value) (u : Tag), sig.arguments[i]? = some t → args[i]? = some v →
          v.KeepsTag .initial u → (t = .void ∨ u = t) ∧ u ≠ .nan) ∧
    (.nan ∈ sig.arguments →
      (∀ args ∈ (Session.run .initial steps).2.callsOf id, ∀ v ∈ args, ∃ u, v.KeepsTag .initial u) →
        (Session.run .initial steps).2.callsOf id = []) := by
  have passed := recordPassed_of_calledOnlyUnder h
  constructor
  · intro args hargs
    have hp := passed args hargs
    exact ⟨hp.count, hp.noUndefined, fun i t v u ht hv hu =>
      ⟨hp.typed_of_keepsTag ht hv hu, hp.noNaN_of_keepsTag (List.mem_of_getElem? hv) hu⟩⟩
  · intro hnan hstable
    refine List.eq_nil_iff_forall_not_mem.mpr fun args hargs => ?_
    exact (passed args hargs).nan_notMem (hstable args hargs) hnan

/-- A checked function that calls itself by its name until it comes to zero. -/
def countdown : Value :=
  .checked 9 ⟨⟨[.number], .number⟩,
    .routine 8 ⟨"countdown", .empty,
      .choose (.equal (.argument 0) (.constant (.integer 0 0))) (.argument 0)
        (.call (.named "countdown") [.arithmetic .subtract (.argument 0) (.constant (.integer 0 1))])⟩,
    .ofString "countdown", .empty⟩

/-- A session that calls it. -/
def countdownSession : List (Step × Option String) :=
  [(.hold countdown, some "countdown"), (.call countdown [.integer 3 1] [], none)]

/-- What the session comes to. -/
def countdownRun : List (Except Stop Answer) × Store :=
  ([.ok (.value countdown), .ok (.value (.integer 1 0))],
    { Store.initial with
      next := 2
      bindings := [("countdown", countdown)]
      calls := [(8, [.integer 3 1]), (8, [.integer 1 0])]
      comparisons := List.replicate 2 (.integer 3 1) ++ List.replicate 4 (.integer 1 0) })

theorem record_of_calledOnlyUnder_countdown :
    CalledOnlyUnder 8 ⟨[.number], .number⟩ countdownSession ∧
      (Session.run .initial countdownSession).2.callsOf 8 = [[.integer 3 1], [.integer 1 0]] ∧
      ∀ args ∈ (Session.run .initial countdownSession).2.callsOf 8, args.length = 1 ∧ .undefined ∉ args := by
  have h : CalledOnlyUnder 8 ⟨[.number], .number⟩ countdownSession := Eq.trans (b := countdownRun) rfl rfl
  refine ⟨h, rfl, fun args hargs => ?_⟩
  obtain ⟨hn, hu, -⟩ := (record_of_calledOnlyUnder h).1 args hargs
  exact ⟨hn, hu⟩

end CallGuard
