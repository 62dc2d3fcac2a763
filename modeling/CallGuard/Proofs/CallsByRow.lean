import CallGuard.Proofs.CallRecord
import CallGuard.Proofs.ModuleOutcome
import CallGuard.Proofs.SignatureRows

/-! Calls that go by a row of tags, place by place. The arguments are gone through side by side with the items
    of the row that stand for them, the tags to report are looked up by the places of arguments, and the tag
    of the result is the last item. All of this has gaps if the row does not fit: the arguments or the items
    may end early, a place may be beyond the end, and an empty row has no last item (`SignatureRow.guard_nil`).
    Calls of checked functions are the calls by the rows that the functions show, whatever a gap would come to,
    and however the calls nest (`invokeByRow_eq`). So none of them meets a gap, and none leaves an argument
    unchecked (`rows_without_gaps`). -/

namespace CallGuard

/-! ### Rows of any items -/

namespace SignatureRow
variable (gap : Stop) (row : List Value) (name : Value)

/-- The items that stand for arguments. -/
def expected : List Value := row.dropLast

/-- The item at a place, if the row goes that far. -/
def itemAt (items : List Value) (place : Nat) : Exec Value :=
  match items[place]? with
  | some v => pure v
  | none => throw gap

/-- The last item, if there is one. -/
def lastItem : Exec Value :=
  match row.getLast? with
  | some v => pure v
  | none => throw gap

/-- Whether an item is a tag. -/
def isTag (t : Tag) : Value → Bool
  | .tag u => u == t
  | _ => false

/-- Goes through items and arguments side by side, from a place on. There is a gap where one of them ends before
    the other. -/
def sideBySide (judge : Nat → Value → Value → Exec Unit) : Nat → List Value → List Value → Exec Unit
  | _, [], [] => pure ()
  | place, item :: items, v :: vs => do
    judge place item v
    sideBySide judge (place + 1) items vs
  | _, _, _ => throw gap

/-- Goes through arguments, from a place on. -/
def throughout (judge : Nat → Value → Exec Unit) : Nat → List Value → Exec Unit
  | _, [] => pure ()
  | place, v :: vs => do
    judge place v
    throughout judge (place + 1) vs

/-- Refuses an argument whose tag is not the item at its place. -/
def judgeTag (place : Nat) (item v : Value) : Exec Unit := do
  let u ← v.classify
  if isTag .void item || isTag u item then pure ()
  else Checked.raise (.argumentType name (.ofInt place) item (.tag u))

/-- Refuses an argument that is NaN, and looks up what was expected of it. -/
def judgeNaN (place : Nat) (v : Value) : Exec Unit := do
  let u ← v.classify
  if u = .nan then
    let item ← itemAt gap (expected row) place
    Checked.raise (.nanDetected name (.ofInt place) item)
  else pure ()

/-- Refuses an argument that is missing, and looks up what was expected of it. -/
def judgeUndefined (place : Nat) (v : Value) : Exec Unit :=
  match v with
  | .undefined => do
    let item ← itemAt gap (expected row) place
    Checked.raise (.undefinedArgument name (.ofInt place) item)
  | _ => pure ()

/-- Checks the number of arguments against that of the items. -/
def checkCount (given named : Nat) : Exec Unit :=
  if named ≠ 0 ∨ given + named ≠ (expected row).length then
    Checked.raise (.argumentCount (.ofInt (expected row).length) (.ofInt (given + named)) name)
  else pure ()

/-- Checks a result against the last item. -/
def checkResult (last v : Value) : Exec Unit := do
  let u ← v.classify
  if isTag .void last then
    if u = .nan then Checked.raise (.nanDetected name .null last) else pure ()
  else if isTag u last then pure ()
  else Checked.raise (.returnType name last (.tag u))

/-- A call under checks that go by a row. -/
def guard (args : List Value) (named : Nat) (call : List Value → Exec Value) : Exec Value := do
  checkCount row name args.length named
  sideBySide gap (judgeTag name) 0 (expected row) args
  throughout (judgeNaN gap row name) 0 args
  throughout (judgeUndefined gap row name) 0 args
  let result ← call args
  let last ← lastItem gap row
  checkResult name last result
  return result

end SignatureRow

/-- The row that a value shows as its signature. One that shows none has an empty one. -/
def Value.shownRow (f : Value) : List Value :=
  match f.readAttribute "signature" with
  | .ok v => v.items?.getD []
  | .error _ => []

/-- What calling a value comes to if checked functions go by the rows that they show. -/
def Value.enterByRow (gap : Stop) (call : Invoker) (f : Value) (args : List Value) (named : List (String × Value)) :
    Exec Value :=
  match f with
  | .checked id c => do
    if (named.lookup "self").isSome then
      Exec.fail (.binding (.twice "CheckedFunction.__call__" "self"))
    SignatureRow.guard gap (Value.checked id c).shownRow c.name args named.length (byPosition call c.implementation)
  | f => f.enter call (fun _ => byPosition call) args named

/-- Calls a value if checked functions go by the rows that they show, at every depth. -/
def invokeByRow (gap : Stop) : (fuel : Nat) → Invoker
  | 0 => fun _ _ _ => throw .exhausted
  | fuel + 1 => Value.enterByRow gap (invokeByRow gap fuel)

/-! ### Rows of signatures -/

theorem shownRow_checked (id : ObjectId) (c : Checked Value) : (Value.checked id c).shownRow = c.signature.row := rfl

namespace SignatureRow
variable {gap : Stop} {c : Checked Value} {args : List Value} {ts : List Tag} {place : Nat}

theorem expected_row (s : Signature) : expected s.row = s.arguments.map .tag := by
  rw [expected, s.row_eq, List.dropLast_concat]

theorem length_expected_row (s : Signature) : (expected s.row).length = s.arity := by
  rw [expected_row, List.length_map, Signature.arity]

theorem lastItem_row (s : Signature) : lastItem gap s.row = pure (.tag s.result) := by
  rw [lastItem, s.row_eq, List.getLast?_concat]

theorem isTag_tag (t u : Tag) : isTag u (.tag t) = (t == u) := rfl

theorem accepts_eq (t u : Tag) : (isTag .void (.tag t) || isTag u (.tag t)) = t.accepts u := by
  rw [isTag_tag, isTag_tag, Tag.accepts, Bool.beq_comm (a := t) (b := u)]

theorem judgeTag_eq (t : Tag) (v : Value) : judgeTag c.name place (.tag t) v = c.judgeTag place t v := by
  simp only [judgeTag, Checked.judgeTag, accepts_eq]

/-- Where there are as many arguments as tags, going through them side by side meets no gap. -/
theorem sideBySide_eq (h : args.length = ts.length) :
    sideBySide gap (judgeTag c.name) place (ts.map .tag) args = c.checkTags place ts args := by
  rw [Checked.checkTags_eq_pass]
  induction ts generalizing place args with
  | nil =>
    rw [List.eq_nil_of_length_eq_zero h]
    rfl
  | cons t ts ih =>
    cases args with
    | nil => cases h
    | cons v args =>
      rw [List.map_cons, sideBySide, Checked.pass, judgeTag_eq, ih (Nat.succ.inj h)]

/-- Where the tags that are left begin at the place, going through the arguments finds at each place the tag that
    stands there. -/
theorem throughout_eq {judge : Nat → Value → Exec Unit} {judge' : Nat → Tag → Value → Exec Unit} {items : List Value}
    (hjudge : ∀ place t v, items[place]? = some (.tag t) → judge place v = judge' place t v)
    (hitems : items.drop place = ts.map .tag) (h : args.length = ts.length) :
    throughout judge place args = Checked.pass judge' place ts args := by
  induction ts generalizing place args with
  | nil =>
    rw [List.eq_nil_of_length_eq_zero h]
    rfl
  | cons t ts ih =>
    cases args with
    | nil => cases h
    | cons v args =>
      have hitem : items[place]? = some (.tag t) := by rw [← List.head?_drop, hitems]; rfl
      have hrest : items.drop (place + 1) = ts.map .tag := by rw [← List.drop_drop, hitems]; rfl
      rw [throughout, Checked.pass, hjudge place t v hitem, ih hrest (Nat.succ.inj h)]

theorem itemAt_eq {items : List Value} {v : Value} (h : items[place]? = some v) : itemAt gap items place = pure v := by
  rw [itemAt, h]

theorem judgeNaN_eq {t : Tag} (h : (expected c.signature.row)[place]? = some (.tag t)) (v : Value) :
    judgeNaN gap c.signature.row c.name place v = c.judgeNaN place t v := by
  simp only [judgeNaN, Checked.judgeNaN, itemAt_eq h, pure_bind]

theorem judgeUndefined_eq {t : Tag} (h : (expected c.signature.row)[place]? = some (.tag t)) (v : Value) :
    judgeUndefined gap c.signature.row c.name place v = c.judgeUndefined place t v := by
  cases v with
  | undefined => rw [judgeUndefined, itemAt_eq h, pure_bind, Checked.judgeUndefined]
  | _ => rfl

theorem throughout_judgeNaN (h : args.length = c.signature.arity) :
    throughout (judgeNaN gap c.signature.row c.name) 0 args = c.checkNaN 0 c.signature.arguments args := by
  rw [Checked.checkNaN_eq_pass]
  exact throughout_eq (fun _ _ v hitem => judgeNaN_eq hitem v) (expected_row c.signature) h

theorem throughout_judgeUndefined (h : args.length = c.signature.arity) :
    throughout (judgeUndefined gap c.signature.row c.name) 0 args = c.checkUndefined 0 c.signature.arguments args := by
  rw [Checked.checkUndefined_eq_pass]
  exact throughout_eq (fun _ _ v hitem => judgeUndefined_eq hitem v) (expected_row c.signature) h

theorem checkResult_eq (v : Value) : checkResult c.name (.tag c.signature.result) v = c.checkResult v := by
  simp only [checkResult, Checked.checkResult, isTag_tag, beq_iff_eq, eq_comm (a := c.signature.result)]

theorem checkCount_eq (given named : Nat) :
    checkCount c.signature.row c.name given named = c.checkCount given named := by
  rw [checkCount, length_expected_row, Checked.checkCount]

/-- A call that goes by the row of a signature is a call under the checks of the signature, whatever a gap would
    come to: the count of the arguments is checked before anything is gone through. -/
theorem guard_eq (gap : Stop) (c : Checked Value) (args : List Value) (named : Nat) (call : List Value → Exec Value) :
    guard gap c.signature.row c.name args named call = c.guard args named call := by
  unfold guard Checked.guard Checked.checkArguments
  rw [checkCount_eq, expected_row, lastItem_row]
  by_cases hcount : named ≠ 0 ∨ args.length + named ≠ c.signature.arity
  · rw [Checked.checkCount, if_pos hcount]
    rfl
  · have h : args.length = c.signature.arity := by omega
    rw [sideBySide_eq h, throughout_judgeNaN h, throughout_judgeUndefined h]
    simp only [checkResult_eq, bind_assoc, pure_bind]

/-- A row without items has a gap: a call that goes by it comes to its end and finds no tag for the result. -/
theorem guard_nil {name v : Value} {call : List Value → Exec Value} {s t : Store} (h : (call []).on s = (.ok v, t)) :
    (guard gap [] name [] 0 call).on s = (.error gap, t) := Exec.on_bind_ok h

end SignatureRow

/-! ### Calls -/

/-- Calls that go by rows are the calls as ever, whatever a gap would come to. -/
theorem invokeByRow_eq (gap : Stop) (fuel : Nat) : invokeByRow gap fuel = invoke fuel := by
  induction fuel with
  | zero => rfl
  | succ fuel ih =>
    funext f args named
    rw [invokeByRow, invoke, ih]
    cases f with
    | checked id c =>
      rw [Value.enterByRow, Value.enter, Checked.run, shownRow_checked, SignatureRow.guard_eq]
    | _ => rfl

/-- A checked function calls its implementation with arguments that passed all checks, or fails before the
    call, and then it is all the same what the implementation does. -/
theorem Checked.passed_or_fails (c : Checked Value) (args : List Value) (named : Nat) (s : Store) :
    Passed c.signature args ∨ ∃ e t, ∀ call, (c.guard args named call).on s = (.error e, t) := by
  rcases h : (c.checkArguments args named).on s with ⟨e | _, t⟩
  · exact .inr ⟨e, t, fun call => Exec.on_bind_error h⟩
  · exact .inl (Checked.passed_of_checkArguments h)

/-- Every function that an operation wraps goes by a row that a value writes which the operation was given, and
    every checked function goes by one. In no session is there a gap in a call of a checked function, however
    the calls nest: the session comes to the same, whatever a gap would come to. And a call checks all of its
    arguments, unless it fails before. -/
theorem rows_without_gaps :
    (∀ (step : Step) (target : Option String) (s t : Store) (answer f : Value),
      (step.perform target).on s = (.ok (.value answer), t) → step.Wraps answer f →
        ∃ v, step.Offers v ∧ v.Underlies f) ∧
    (∀ (id : ObjectId) (c : Checked Value), ∃ row, (Value.checked id c).GoesBy row) ∧
    (∀ (gap : Stop) (s : Store) (steps : List (Step × Option String)),
      Session.runBy (invokeByRow gap nestingLimit) s steps = Session.run s steps) ∧
    (∀ (c : Checked Value) (args : List Value) (named : Nat) (s : Store),
      Passed c.signature args ∨ ∃ e t, ∀ call, (c.guard args named call).on s = (.error e, t)) := by
  refine ⟨fun step target s t answer f h hf => Step.underlies_of_perform h hf, fun id c => ⟨_, goesBy_checked id c⟩, ?_,
    Checked.passed_or_fails⟩
  intro gap s steps
  rw [invokeByRow_eq]
  rfl

/-- A module whose function is wrapped by the row that stands under its marked name, and a session in which
    a checked function calls itself. -/
theorem rows_without_gaps_scale :
    let step : Step := .wrapModule (.mapping 17 .plain (scaleModule.map Entry.pair)) .null
    let scale : Value := .checked 1
      ⟨⟨[.number], .number⟩, .routine 12 ⟨"scale", .empty, .argument 0⟩, .text 11 "scale", .empty⟩
    let answer : Value := .mapping 3 .plain [(.text 15 "origin", .integer 16 0), (.text 11 "scale", scale)]
    (∃ t, (step.perform none).on .initial = (.ok (.value answer), t)) ∧ step.Wraps answer scale ∧
      (∃ v, step.Offers v ∧ v.Underlies scale) ∧
      ∀ gap, Session.runBy (invokeByRow gap nestingLimit) .initial countdownSession = countdownRun := by
  intro step scale answer
  have hrun : ∃ t, (step.perform none).on .initial = (.ok (.value answer), t) := ⟨_, rfl⟩
  have hnew : (.text 11 "scale", scale) ∉ scaleModule.map Entry.pair := by simp [scaleModule, Entry.pair, scale]
  have hwraps : step.Wraps answer scale := .wrapModule rfl rfl (List.mem_cons_of_mem _ List.mem_cons_self) hnew
  obtain ⟨t, ht⟩ := hrun
  exact ⟨⟨t, ht⟩, hwraps, rows_without_gaps.1 step none .initial t answer scale ht hwraps, fun gap =>
    (rows_without_gaps.2.2.1 gap .initial countdownSession).trans rfl⟩

end CallGuard
