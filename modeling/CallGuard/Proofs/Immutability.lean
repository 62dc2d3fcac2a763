import CallGuard.Proofs.Registry
import Mathlib.Data.List.Nodup

/-! Checked functions over whole sessions. Whatever operations follow, succeed or fail, an identity that has been
    shown as that of a checked function is shown with the same signature, the same implementation, the same name
    and the same metadata ever after, at whatever depth the function occurs in what is answered or held; and a
    variable keeps it until it is given another value. Assigning and deleting attributes of it fails, and
    everything goes on as if it had not been tried (`unchanged_run`). -/

namespace CallGuard

/-! ### What a session shows -/

namespace LogRecord

/-- The value that a record names. -/
def subject : LogRecord → Value
  | wrapping name _ => name
  | unsigned name => name
  | orphan key => key

end LogRecord

namespace Store

/-- The values that a store holds. -/
def values (s : Store) : List Value :=
  s.bindings.map Prod.snd ++ s.calls.flatMap Prod.snd ++ s.comparisons ++ s.logs.map LogRecord.subject

end Store

/-- The checked functions that occur in a value occur in known ones: the value is made of known ones and of
    what is no checked function. -/
def Value.IsMadeOf (known : List Value) (v : Value) : Prop :=
  ∀ id c, (Value.checked id c).IsPart v → ∃ u ∈ known, (Value.checked id c).IsPart u

namespace Session

/-- The values among answers. -/
def answered (answers : List (Except Stop Answer)) : List Value :=
  answers.filterMap fun a => a.toOption.bind Answer.value?

/-- The values that have been answered and those that are held when operations are done. -/
def shown (s : Store) (steps : List (Step × Option String)) : List Value :=
  answered (run s steps).1 ++ (run s steps).2.values

/-- Operations are given what was answered before, besides new values: nobody else makes a checked function. -/
def Grounded (known : List Value) (s : Store) : List (Step × Option String) → Prop
  | [] => True
  | (step, target) :: rest =>
    (∀ v ∈ step.values, v.IsMadeOf known) ∧
      Grounded (known ++ answered [((step.perform target).on s).1]) ((step.perform target).on s).2 rest

end Session

theorem Value.isMadeOf_of_mem {known : List Value} {v : Value} (h : v ∈ known) : v.IsMadeOf known :=
  fun _ _ hpart => ⟨v, h, hpart⟩

theorem Value.isMadeOf_of_isAtom {known : List Value} {v : Value} (h : v.isAtom = true) : v.IsMadeOf known := by
  intro id c hpart
  cases hpart with
  | whole => cases h
  | inside hw hpart =>
    rw [List.isEmpty_iff.mp (Bool.and_eq_true_iff.mp h).2] at hw
    cases hw

namespace Known
variable {made : Registry} {known : List Value} {s : Store} {v : Value}

theorem of_isMadeOf (hknown : ∀ u ∈ known, Known made u) (hv : v.IsMadeOf known) : Known made v := by
  intro id c hpart
  obtain ⟨u, hu, hpart⟩ := hv id c hpart
  exact hknown u hu id c hpart

theorem of_mem_values (hs : Bears (Known made) s) : ∀ v ∈ s.values, Known made v := by
  obtain ⟨hbindings, hcalls, hcomparisons, hlogs⟩ := hs
  intro v hv
  simp only [Store.values, List.mem_append, List.mem_map, List.mem_flatMap] at hv
  rcases hv with ((⟨e, he, rfl⟩ | ⟨e, he, hv⟩) | hv) | ⟨r, hr, rfl⟩
  · exact (hbindings e he).2
  · exact (hcalls e he).2 v hv
  · exact hcomparisons v hv
  · have hsubject := hlogs r hr
    cases r <;> exact hsubject

theorem of_mem_answered {a : Except Stop Answer} (ha : Bears (Known made) a) : ∀ v ∈ Session.answered [a], Known made v := by
  intro v hv
  obtain ⟨b, hb, hv⟩ := List.mem_filterMap.mp hv
  cases List.mem_singleton.mp hb
  obtain ⟨answer, hanswer, hv⟩ := Option.bind_eq_some_iff.mp hv
  cases a with
  | error e => cases hanswer
  | ok a =>
    cases hanswer
    exact ha answer rfl v hv

end Known

/-! ### Steps -/

namespace Store

/-- A store in which a variable is given the value that is answered, if there are both. -/
def given (s : Store) (target : Option String) (answer : Answer) : Store :=
  match target, answer.value? with
  | some name, some v => { s with bindings := (name, v) :: s.bindings }
  | _, _ => s

end Store

namespace Step
variable {call : Invoker} {step : Step} {target : Option String} {s t : Store}

theorem on_performBy_ok {answer : Answer} (h : (step.run call).on s = (.ok answer, t)) :
    (step.performBy call target).on s = (.ok answer, t.given target answer) := by
  rw [performBy, Exec.on_bind_ok h]
  unfold Store.given
  cases target with
  | none => rfl
  | some name => cases answer.value? <;> rfl

theorem on_performBy_error {e : Stop} (h : (step.run call).on s = (.error e, t)) :
    (step.performBy call target).on s = (.error e, t) := Exec.on_bind_error h

end Step

theorem Registered.given {made : Registry} {s : Store} (hs : Registered made s) {answer : Answer}
    (hanswer : Bears (Known made) answer) (target : Option String) : Registered made (s.given target answer) := by
  unfold Store.given
  split
  · next name v hv =>
    obtain ⟨hbindings, hrest⟩ := hs.known
    exact ⟨hs.distinct, hs.below, hs.begun, List.forall_mem_cons.mpr ⟨⟨trivial, hanswer v hv⟩, hbindings⟩, hrest⟩
  · exact hs

theorem registered_perform {made : Registry} {s : Store} (hs : Registered made s) {step : Step}
    (hstep : ∀ v ∈ step.values, Known made v) (target : Option String) :
    ∃ made', made <+: made' ∧ Registered made' ((step.perform target).on s).2 ∧
      Bears (Known made') ((step.perform target).on s).1 := by
  have hrun : Exec.Grows made (step.run Value.call) :=
    growing.runStep (fun made f args named => Exec.Keeps.invoke (hereditary_known made) nestingLimit)
      (fun _ => .readMarker) (fun _ => .setMarker) hstep
  obtain ⟨made', hle, ht, -, hanswer⟩ := hrun s hs
  rw [Step.perform]
  rcases hon : (step.run Value.call).on s with ⟨e | answer, t⟩ <;> rw [hon] at ht hanswer
  · rw [Step.on_performBy_error hon]
    exact ⟨made', hle, ht, nofun⟩
  · rw [Step.on_performBy_ok hon]
    exact ⟨made', hle, ht.given (hanswer answer rfl) target, hanswer⟩

/-! ### Sessions -/

section
variable (step : Step) (target : Option String) (s : Store) (steps : List (Step × Option String))

theorem run_cons : Session.run s ((step, target) :: steps) =
    (((step.perform target).on s).1 :: (Session.run ((step.perform target).on s).2 steps).1,
      (Session.run ((step.perform target).on s).2 steps).2) := rfl

theorem run_append (after : List (Step × Option String)) : Session.run s (steps ++ after) =
    ((Session.run s steps).1 ++ (Session.run (Session.run s steps).2 after).1,
      (Session.run (Session.run s steps).2 after).2) := by
  induction steps generalizing s with
  | nil => rfl
  | cons x steps ih =>
    obtain ⟨step, target⟩ := x
    rw [List.cons_append, run_cons, ih, run_cons]
    rfl

theorem shown_cons : Session.shown s ((step, target) :: steps) =
    Session.answered [((step.perform target).on s).1] ++ Session.shown ((step.perform target).on s).2 steps := by
  rw [Session.shown, run_cons, Session.shown, ← List.append_assoc, Session.answered, Session.answered, Session.answered,
    ← List.filterMap_append]
  rfl

end

theorem registered_initial : Registered [] .initial :=
  ⟨List.nodup_nil, nofun, Nat.zero_lt_one, nofun, nofun, nofun, nofun⟩

/-- Whatever is shown by a session, or by a part of it that comes first, one registry has all checked functions
    of it. -/
theorem registered_run {made : Registry} {known : List Value} {s : Store} (hs : Registered made s)
    (hknown : ∀ v ∈ known, Known made v) {steps : List (Step × Option String)}
    (h : Session.Grounded known s steps) :
    ∃ made', made <+: made' ∧ (made'.map Prod.fst).Nodup ∧
      ∀ first, first <+: steps → ∀ v ∈ Session.shown s first, Known made' v := by
  -- The registry has to vary with the store: each operation may put more into it.
  induction steps generalizing made known s with
  | nil =>
    refine ⟨made, List.prefix_refl made, hs.distinct, fun first hfirst v hv => ?_⟩
    rw [List.prefix_nil.mp hfirst] at hv
    exact Known.of_mem_values hs.known v hv
  | cons x rest ih =>
    obtain ⟨step, target⟩ := x
    obtain ⟨hstep, hrest⟩ := h
    obtain ⟨made₁, h₁, ht, hanswer⟩ := registered_perform hs (fun v hv => Known.of_isMadeOf hknown (hstep v hv)) target
    have hknown₁ : ∀ v ∈ known ++ Session.answered [((step.perform target).on s).1], Known made₁ v :=
      List.forall_mem_append.mpr ⟨fun v hv => (hknown v hv).mono h₁, Known.of_mem_answered hanswer⟩
    obtain ⟨made₂, h₂, hdistinct, hshown⟩ := ih ht hknown₁ hrest
    refine ⟨made₂, h₁.trans h₂, hdistinct, fun first hfirst v hv => ?_⟩
    cases first with
    | nil => exact (Known.of_mem_values hs.known v hv).mono (h₁.trans h₂)
    | cons y first =>
      obtain ⟨rfl, hfirst'⟩ := List.cons_prefix_cons.mp hfirst
      rw [shown_cons] at hv
      rcases List.mem_append.mp hv with hv | hv
      · exact (Known.of_mem_answered hanswer v hv).mono h₂
      · exact hshown first hfirst' v hv

theorem bindings_runStep (step : Step) (s : Store) : ((step.run Value.call).on s).2.bindings = s.bindings := by
  have hkeeps : Exec.Keeps (fun _ => True) (step.run Value.call) :=
    (Exec.Keeps.tracking hereditary_true).growing.runStep (w := ())
      (fun _ _ _ _ => Exec.Keeps.invoke hereditary_true nestingLimit) (fun _ => .readMarker) (fun _ => .setMarker)
      fun _ _ => trivial
  exact (hkeeps s (Bearing.all_true s)).bindings

/-- A variable keeps its value while no operation gives it another. -/
theorem lookup_run {name : String} {steps : List (Step × Option String)} (h : ∀ x ∈ steps, x.2 ≠ some name) (s : Store) :
    (Session.run s steps).2.bindings.lookup name = s.bindings.lookup name := by
  induction steps generalizing s with
  | nil => rfl
  | cons x steps ih =>
    obtain ⟨step, target⟩ := x
    obtain ⟨htarget, h⟩ := List.forall_mem_cons.mp h
    have hbindings := bindings_runStep step s
    rw [run_cons, ih h, Step.perform]
    rcases hon : (step.run Value.call).on s with ⟨e | answer, t⟩ <;> rw [hon] at hbindings
    · rw [Step.on_performBy_error hon, hbindings]
    · rw [Step.on_performBy_ok hon, ← hbindings]
      unfold Store.given
      split
      · next other v _ =>
        have hne : (name == other) = false := beq_eq_false_iff_ne.mpr fun heq => htarget (heq ▸ rfl)
        rw [List.lookup_cons, hne]
      · rfl

theorem lookup_perform {step : Step} {name : String} {s : Store} {v : Value}
    (h : ((step.perform (some name)).on s).1 = .ok (.value v)) :
    ((step.perform (some name)).on s).2.bindings.lookup name = some v := by
  rw [Step.perform] at h ⊢
  rcases hon : (step.run Value.call).on s with ⟨e | answer, t⟩
  · rw [Step.on_performBy_error hon] at h
    cases h
  · rw [Step.on_performBy_ok hon] at h ⊢
    cases h
    exact List.lookup_cons_self

/-- Trying to change an attribute of a checked function fails and leaves everything as it is. -/
theorem on_perform_changeAttribute (id : ObjectId) (c : Checked Value) (name : String) (target : Option String)
    (s : Store) : ((Step.changeAttribute (.checked id c) name).perform target).on s =
      (.error (.failed (.access (.immutable c.name))), s) := rfl

/-- Checked functions are immutable over sessions whose operations are given what was answered before. An identity
    that is shown as that of a checked function, after some operations, is shown after any others as that of the
    same function: of the same signature, implementation, name and metadata. A variable keeps a function until it
    is given another value. Assigning or deleting an attribute, under any name and at any time, fails and leaves
    all that was there and all that comes after as if it had not been tried. -/
theorem unchanged_run {steps : List (Step × Option String)} (h : Session.Grounded [] .initial steps) :
    (∀ first second, first <+: steps → second <+: steps → ∀ u ∈ Session.shown .initial first,
      ∀ v ∈ Session.shown .initial second, ∀ id c d, (Value.checked id c).IsPart u → (Value.checked id d).IsPart v →
        c = d) ∧
    (∀ before step name after v, steps = before ++ (step, some name) :: after → (∀ x ∈ after, x.2 ≠ some name) →
      ((step.perform (some name)).on (Session.run .initial before).2).1 = .ok (.value v) →
        (Session.run .initial steps).2.bindings.lookup name = some v) ∧
    ∀ before after id c name target,
      let x := Session.run .initial before
      let y := Session.run x.2 after
      let failure : Failure := .access (.immutable c.name)
      failure.className = "AttributeError" ∧ Session.run .initial (before ++ after) = (x.1 ++ y.1, y.2) ∧
        Session.run .initial (before ++ (.changeAttribute (.checked id c) name, target) :: after) =
          (x.1 ++ .error (.failed failure) :: y.1, y.2) := by
  refine ⟨?_, ?_, ?_⟩
  · have hnone : ∀ v ∈ ([] : List Value), Known [] v := nofun
    obtain ⟨made, -, hdistinct, hshown⟩ := registered_run registered_initial hnone h
    intro first second hfirst hsecond u hu v hv id c d hc hd
    have hc := (hshown first hfirst u hu id c hc).2
    have hd := (hshown second hsecond v hv id d hd).2
    exact congrArg Prod.snd (List.inj_on_of_nodup_map hdistinct hc hd rfl)
  · rintro before step name after v rfl hafter hanswer
    rw [run_append, run_cons, lookup_run hafter, lookup_perform hanswer]
  · intro before after id c name target
    refine ⟨rfl, run_append _ _ _, ?_⟩
    rw [run_append, run_cons, on_perform_changeAttribute]

/-- A function is wrapped, someone tries to rename what comes of it, it is wrapped again and called. -/
theorem unchanged_run_renamed :
    let f : Value := .routine 1 ⟨"f", .empty, .argument 0⟩
    let signature : Value := .sequence 2 .list [.text 11 "Number", .text 12 "Number"]
    let c : Checked Value := ⟨⟨[.number], .number⟩, f, .text 13 "f", .empty⟩
    let steps : List (Step × Option String) :=
      [(.build (.routine "f" .empty (.argument 0)), some "f"),
        (.build (.sequence .list [.text 11 "Number", .text 12 "Number"]), some "signature"),
        (.wrap signature f (.text 13 "f"), some "c"), (.changeAttribute (.checked 3 c) "name", none),
        (.wrap signature (.checked 3 c) (.text 14 "d"), some "d"), (.call (.checked 3 c) [.integer 15 2] [], none)]
    Session.Grounded [] .initial steps ∧
      (∀ v ∈ Session.shown .initial steps, ∀ d, (Value.checked 3 d).IsPart v → c = d) ∧
      (Session.run .initial steps).2.bindings.lookup "c" = some (.checked 3 c) ∧
      Session.run .initial steps =
        ((Session.run .initial (steps.take 3)).1 ++ .error (.failed (.access (.immutable (.text 13 "f")))) ::
            (Session.run (Session.run .initial (steps.take 3)).2 (steps.drop 4)).1,
          (Session.run (Session.run .initial (steps.take 3)).2 (steps.drop 4)).2) := by
  intro f signature c steps
  have hgrounded : Session.Grounded [] .initial steps := by
    have hatom {known : List Value} {v : Value} (h : v.isAtom = true) : v.IsMadeOf known := Value.isMadeOf_of_isAtom h
    have hmem {known : List Value} {v : Value} (h : v ∈ known) : v.IsMadeOf known := Value.isMadeOf_of_mem h
    refine ⟨nofun, nofun, ?_, ?_, ?_, ?_, trivial⟩
    · change ∀ v ∈ [signature, f, .text 13 "f"], v.IsMadeOf [f, signature]
      exact List.forall_mem_cons.mpr ⟨hmem (by simp), List.forall_mem_cons.mpr
        ⟨hmem List.mem_cons_self, List.forall_mem_singleton.mpr (hatom rfl)⟩⟩
    · change ∀ v ∈ [Value.checked 3 c], v.IsMadeOf [f, signature, .checked 3 c]
      exact List.forall_mem_singleton.mpr (hmem (by simp))
    · change ∀ v ∈ [signature, Value.checked 3 c, .text 14 "d"], v.IsMadeOf [f, signature, .checked 3 c]
      exact List.forall_mem_cons.mpr ⟨hmem (by simp), List.forall_mem_cons.mpr
        ⟨hmem (by simp), List.forall_mem_singleton.mpr (hatom rfl)⟩⟩
    · refine List.forall_mem_cons.mpr ⟨hmem (List.mem_append_left _ ?_), List.forall_mem_singleton.mpr (hatom rfl)⟩
      change Value.checked 3 c ∈ [f, signature, .checked 3 c]
      simp
  obtain ⟨hsame, hkept, hattempt⟩ := unchanged_run hgrounded
  have hmade : Value.checked 3 c ∈ Session.shown .initial (steps.take 3) := by
    refine List.mem_append_left _ ?_
    change Value.checked 3 c ∈ [f, signature, .checked 3 c]
    simp
  refine ⟨hgrounded, fun v hv d hd => ?_, ?_, ?_⟩
  · exact hsame _ steps (List.take_prefix 3 steps) (List.prefix_refl steps) _ hmade v hv 3 c d .whole hd
  · refine hkept (steps.take 2) _ "c" (steps.drop 3) (.checked 3 c) rfl ?_ rfl
    simp [steps]
  · exact (hattempt (steps.take 3) (steps.drop 4) 3 c "name" none).2.2

end CallGuard
