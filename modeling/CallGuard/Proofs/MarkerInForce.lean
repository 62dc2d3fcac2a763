import CallGuard.Proofs.Immutability
import CallGuard.Proofs.ModuleOutcome

/-! The marker in force over sessions. What an environment configures is said by rules (`Configured`), and
    nothing but configuring puts a marker in force. Only wrapping a module without a marker looks at it, and
    does what it would do if it were given the marker as a text; all other operations come to the same
    under any marker (`IgnoresMarker`). So the environment that was configured last decides how modules are
    wrapped from then on, and nothing else changes (`latest_marker_decides`). -/

namespace CallGuard

/-! ### What environments configure -/

namespace Marker

/-- The marker that an environment configures, and what is warned of. -/
inductive Configured : Option String → Char → Option String → Prop
  | unset : Configured none '_' none
  | single (c : Char) : Configured (some (String.singleton c)) c none
  | other {named : String} (h : named.length ≠ 1) : Configured (some named) '_'
      (some ("Invalid signature marker " ++ Text.quoted named
        ++ ". The marker must be a single character. Using '_' as default."))

/-- An environment configures one marker. -/
theorem Configured.unique {environment : Option String} {c d : Char} {w x : Option String}
    (h : Configured environment c w) (h' : Configured environment d x) : c = d ∧ w = x := by
  cases h with
  | unset =>
    cases h'
    exact ⟨rfl, rfl⟩
  | single c =>
    generalize hnamed : String.singleton c = named at h'
    cases h' with
    | single d => exact ⟨by simpa using congrArg String.toList hnamed, rfl⟩
    | other hne => simp [← hnamed] at hne
  | other hne =>
    cases h' with
    | single d => simp at hne
    | other => exact ⟨rfl, rfl⟩

/-- An environment can be set: it does not hold the character zero. -/
def Settable (environment : Option String) : Prop := ∀ named ∈ environment, '\x00' ∉ named.toList

theorem warning_eq (named : String) :
    "Invalid signature marker " ++ Text.quoted named ++ ". The marker must be a single character. Using "
      ++ Text.quoted (String.singleton defaultMarker) ++ " as default." =
    "Invalid signature marker " ++ Text.quoted named
      ++ ". The marker must be a single character. Using '_' as default." := by
  have hdefault : Text.quoted (String.singleton defaultMarker) = "'_'" := rfl
  have hend : ". The marker must be a single character. Using " ++ ("'_'" ++ " as default.") =
      ". The marker must be a single character. Using '_' as default." := rfl
  rw [hdefault, String.append_assoc, String.append_assoc, hend]

theorem configured_ofEnvironment (environment : Option String) :
    Configured environment (ofEnvironment environment).1 (ofEnvironment environment).2 := by
  cases environment with
  | none => exact .unset
  | some named =>
    simp only [ofEnvironment, warning_eq]
    split
    · next c hc =>
      obtain rfl : named = String.singleton c := String.toList_inj.mp (by simpa using hc)
      exact .single c
    · next hne =>
      refine .other fun hlength => ?_
      rw [← String.length_toList] at hlength
      obtain ⟨c, hc⟩ := List.length_eq_one_iff.mp hlength
      exact hne c hc

theorem holdsZero_eq_false_iff {environment : Option String} :
    (environment.map fun s => s.toList.contains '\x00').getD false = false ↔ Settable environment := by
  cases environment <;> simp [Settable]

theorem on_configure {environment : Option String} (h : Settable environment) (s : Store) :
    (configure environment).on s =
      (.ok (ofEnvironment environment).2, { s with marker := (ofEnvironment environment).1 }) := by
  rw [configure, holdsZero_eq_false_iff.mpr h]
  rfl

/-- An environment that cannot be set configures nothing. -/
theorem on_configure_of_not_settable {environment : Option String} (h : ¬ Settable environment) (s : Store) :
    (configure environment).on s = (.error (.failed .nulInEnvironment), s) := by
  rw [configure, eq_true_of_ne_false (mt holdsZero_eq_false_iff.mp h)]
  rfl

end Marker

/-! ### Taking no notice of the marker -/

/-- An operation that does the same under every marker, and keeps the marker in force. -/
def IgnoresMarker {α : Type} (x : Exec α) : Prop :=
  ∀ s c, x.on { s with marker := c } = ((x.on s).1, { (x.on s).2 with marker := c })

namespace IgnoresMarker

theorem closed : Closed IgnoresMarker where
  elementary hx := hx.marker
  askNaN v := fun s c => by rw [Value.on_askNaN, Value.on_askNaN]; rfl
  bind := by
    intro α β x k hx hk s c
    rw [Exec.on_bind, Exec.on_bind, hx s c]
    rcases x.on s with ⟨e | a, t⟩
    · rfl
    · exact hk a t c
  recover := by
    intro α x handler hx hhandler s c
    have hxc := hx s c
    rcases hxs : x.on s with ⟨(f | _ | _) | a, t⟩ <;> rw [hxs] at hxc
    · rw [Exec.on_recover_failed hxs, Exec.on_recover_failed hxc]
      exact hhandler f t c
    all_goals rw [Exec.on_recover_other handler hxs (by simp), Exec.on_recover_other handler hxc (by simp)]

/-- Calls take no notice of the marker, however deep they nest. -/
theorem invoke (fuel : Nat) (f : Value) (args : List Value) (named : List (String × Value)) :
    IgnoresMarker (CallGuard.invoke fuel f args named) := by
  induction fuel generalizing f args named with
  | zero => exact closed.throw _
  | succ fuel ih =>
    refine closed.enter ih (fun id r _ _ _ => rfl) fun id c _ => ?_
    exact closed.guard c args _ (ih _ _ _)

theorem perform {step : Step} (hreads : step.readsMarker = false) (hsets : step.setsMarker = false)
    (target : Option String) : IgnoresMarker (step.perform target) :=
  closed.performBy (invoke nestingLimit) (fun h => by simp [hreads] at h) (fun h => by simp [hsets] at h) target

theorem marker_eq {α : Type} {x : Exec α} (hx : IgnoresMarker x) (s : Store) : (x.on s).2.marker = s.marker :=
  congrArg (fun r => r.2.marker) (hx s s.marker)

/-- Operations that take no notice of the marker come to the same under another, and leave the same. -/
theorem run {steps : List (Step × Option String)}
    (h : ∀ x ∈ steps, x.1.readsMarker = false ∧ x.1.setsMarker = false) (s : Store) (c : Char) :
    Session.run { s with marker := c } steps =
      ((Session.run s steps).1, { (Session.run s steps).2 with marker := c }) := by
  induction steps generalizing s with
  | nil => rfl
  | cons x steps ih =>
    obtain ⟨step, target⟩ := x
    obtain ⟨⟨hreads, hsets⟩, h⟩ := List.forall_mem_cons.mp h
    rw [run_cons, run_cons, perform hreads hsets target s c, ih h]

end IgnoresMarker

/-! ### Wrapping under the marker in force -/

/-- Without a marker, a module is wrapped as it is with the marker in force as a text. -/
theorem Module.on_wrap_null (call : Caller) (spec : Value) (i : ObjectId) (s : Store) :
    (Module.wrap call spec .null).on s = (Module.wrap call spec (.text i (String.singleton s.marker))).on s := by
  have hlength : (Value.text i (String.singleton s.marker)).length? = some 1 := by
    simp [Value.length?, Value.coreLength?, Value.coreItems?, Value.characters]
  have hchoose := Module.chooseMarker_on (s := s) (.given (v := .text i (String.singleton s.marker)) rfl hlength rfl)
  have htype : Module.markerType (.text i (String.singleton s.marker)) = Module.markerType .null := rfl
  have hname : Value.isNameOrNull (.text i (String.singleton s.marker)) = Value.isNameOrNull .null := rfl
  rw [Module.wrap, Module.wrap, htype, hname]
  split
  · rfl
  · split
    · rw [Exec.on_bind_ok hchoose, Exec.on_bind_ok (Module.chooseMarker_on .inForce)]
    · exact (Exec.on_bind_error (Exec.on_fail _ _)).trans (Exec.on_bind_error (Exec.on_fail _ _)).symm

/-- Whatever is wrong with a module whose keys are texts, it is not the marker. -/
theorem ModuleOutcome.ne_badMarker {m : String} {es : List Entry} {s t : Store} {r : Except Stop Value}
    (h : ModuleOutcome m es s (r, t)) (v : Value) : r ≠ .error (.failed (.module (.badMarker v))) := by
  cases h with
  | refused _ _ hf =>
    cases hf with
    | misused => nofun
    | unreadable => nofun
  | wrapped => nofun

/-! ### Sessions -/

section
variable {environment : Option String} (target : Option String) (s : Store)

theorem perform_configure (h : Marker.Settable environment) :
    ((Step.configure environment).perform target).on s =
      (.ok (.marker (Marker.ofEnvironment environment).2),
        { s with marker := (Marker.ofEnvironment environment).1 }) := by
  have hrun : ((Step.configure environment).run Value.call).on s = (.ok (.marker (Marker.ofEnvironment environment).2),
      { s with marker := (Marker.ofEnvironment environment).1 }) := Exec.on_bind_ok (Marker.on_configure h s)
  rw [Step.perform, Step.on_performBy_ok hrun]
  cases target <;> rfl

theorem perform_configure_of_not_settable (h : ¬ Marker.Settable environment) :
    ((Step.configure environment).perform target).on s = (.error (.failed .nulInEnvironment), s) :=
  Step.on_performBy_error (Exec.on_bind_error (Marker.on_configure_of_not_settable h s))

theorem perform_wrapModule_null (spec : Value) (i : ObjectId) :
    ((Step.wrapModule spec .null).perform target).on s =
      ((Step.wrapModule spec (.text i (String.singleton s.marker))).perform target).on s := by
  have hrun : ((Step.wrapModule spec .null).run Value.call).on s =
      ((Step.wrapModule spec (.text i (String.singleton s.marker))).run Value.call).on s := by
    rw [Step.run, Step.run, Exec.on_bind, Exec.on_bind, Module.on_wrap_null _ spec i]
  rw [Step.perform, Step.performBy, Step.performBy, Exec.on_bind, Exec.on_bind, hrun]

/-- An operation that configures nothing keeps the marker. -/
theorem marker_perform {step : Step} (h : ∀ e, step = .configure e → ¬ Marker.Settable e) :
    ((step.perform target).on s).2.marker = s.marker := by
  cases hsets : step.setsMarker with
  | true =>
    cases step with
    | configure e => rw [perform_configure_of_not_settable target s (h e rfl)]
    | _ => cases hsets
  | false =>
    cases hreads : step.readsMarker with
    | true =>
      -- The marker is only looked at, and could as well have been given.
      obtain ⟨spec, rfl⟩ : ∃ spec, step = .wrapModule spec .null := by
        unfold Step.readsMarker at hreads
        split at hreads
        · exact ⟨_, rfl⟩
        · cases hreads
      rw [perform_wrapModule_null target s spec 0]
      exact (IgnoresMarker.perform rfl rfl target).marker_eq s
    | false => exact (IgnoresMarker.perform hreads hsets target).marker_eq s

end

/-- The marker in force stays until an environment is configured. -/
theorem marker_run {steps : List (Step × Option String)}
    (h : ∀ x ∈ steps, ∀ e, x.1 = .configure e → ¬ Marker.Settable e) (s : Store) :
    (Session.run s steps).2.marker = s.marker := by
  induction steps generalizing s with
  | nil => rfl
  | cons x steps ih =>
    obtain ⟨step, target⟩ := x
    obtain ⟨hstep, h⟩ := List.forall_mem_cons.mp h
    rw [run_cons, ih h, marker_perform target s hstep]

/-- After any operations, configuring an environment puts the marker in force that the environment configures,
    with its warning, and changes nothing else. It stays in force until the next environment is configured, and
    until then a module that is given no marker is wrapped as one that is given this one, and the marker is
    never what is wrong. Operations that do not look at the marker, calls of what was wrapped before among them,
    come to what they would have come to without the new one. -/
theorem latest_marker_decides {s₀ : Store} {before after : List (Step × Option String)} {e : Option String}
    (target : Option String) (he : Marker.Settable e)
    (hafter : ∀ x ∈ after, ∀ e', x.1 = .configure e' → ¬ Marker.Settable e') :
    ∃ c w, Marker.Configured e c w ∧
      let s := (Session.run s₀ before).2
      let t := (Session.run s₀ (before ++ (.configure e, target) :: after)).2
      ((Step.configure e).perform target).on s = (.ok (.marker w), { s with marker := c }) ∧ t.marker = c ∧
      (∀ call spec i,
        (Module.wrap call spec .null).on t = (Module.wrap call spec (.text i (String.singleton c))).on t) ∧
      (∀ call spec (es : List Entry) v, spec.entries? = some (es.map Entry.pair) → (∀ x ∈ es, x.IsNamed) →
        ((Module.wrap call spec .null).on t).1 ≠ .error (.failed (.module (.badMarker v)))) ∧
      ∀ later : List (Step × Option String), (∀ x ∈ later, x.1.readsMarker = false ∧ x.1.setsMarker = false) →
        Session.run { s with marker := c } later =
          ((Session.run s later).1, { (Session.run s later).2 with marker := c }) := by
  have hconfigured := Marker.configured_ofEnvironment e
  refine ⟨(Marker.ofEnvironment e).1, (Marker.ofEnvironment e).2, hconfigured, ?_⟩
  intro s t
  have hperform := perform_configure target s he
  have hmarker : t.marker = (Marker.ofEnvironment e).1 := by
    rw [show t = (Session.run { s with marker := (Marker.ofEnvironment e).1 } after).2 by
      simp only [t, run_append, run_cons, s, hperform], marker_run hafter]
  refine ⟨hperform, hmarker, fun call spec i => ?_, fun call spec es v hspec hes => ?_, fun later hlater => ?_⟩
  · rw [Module.on_wrap_null call spec i, hmarker]
  · rw [Module.on_wrap hspec hes .inForce]
    exact (Module.moduleOutcome_wrapEntries call hes t).ne_badMarker v
  · exact IgnoresMarker.run hlater s _

/-- A function with signatures under two markers. -/
def doublyMarked : List Entry :=
  [⟨.text 11 "scale", "scale", .routine 12 ⟨"scale", .empty, .argument 0⟩⟩,
    ⟨.text 13 "scale$", "scale$", .list [.text 14 "Number", .text 14 "Number"]⟩,
    ⟨.text 15 "scale_", "scale_", .list [.text 16 "String"]⟩]

theorem isNamed_doublyMarked : ∀ e ∈ doublyMarked, e.IsNamed := by
  intro e he
  simp only [doublyMarked, List.mem_cons, List.not_mem_nil, or_false] at he
  rcases he with rfl | rfl | rfl <;> exact ⟨rfl, rfl⟩

/-- Two markers are configured, the first of them no single character; a third environment cannot be set. -/
theorem latest_marker_decides_dollar :
    let spec : Value := .mapping 17 .plain (doublyMarked.map Entry.pair)
    let before : List (Step × Option String) := [(.configure (some "__"), none), (.wrapModule spec .null, some "m")]
    let after : List (Step × Option String) := [(.wrapModule spec .null, some "n"), (.configure (some "a\x00"), none)]
    let s := (Session.run .initial before).2
    let t := (Session.run .initial (before ++ (.configure (some "$"), none) :: after)).2
    let f : Value := .routine 12 ⟨"scale", .empty, .argument 0⟩
    let later : List (Step × Option String) := [(.call f [.integer 18 5] [], none)]
    (Marker.Settable (some "$") ∧ (∀ x ∈ after, ∀ e, x.1 = .configure e → ¬ Marker.Settable e) ∧
      spec.entries? = some (doublyMarked.map Entry.pair) ∧ (∀ e ∈ doublyMarked, e.IsNamed) ∧
      ∀ x ∈ later, x.1.readsMarker = false ∧ x.1.setsMarker = false) ∧
    Marker.Configured (some "$") '$' none ∧ t.marker = '$' ∧
    (Module.wrap caller spec .null).on t = (Module.wrap caller spec (.text 19 (String.singleton '$'))).on t ∧
    (∀ v, ((Module.wrap caller spec .null).on t).1 ≠ .error (.failed (.module (.badMarker v)))) ∧
    (Session.run { s with marker := '$' } later).1 = [.ok (.value (.integer 18 5))] := by
  intro spec before after s t f later
  have hsettable : Marker.Settable (some "$") := by
    rintro _ ⟨⟩
    decide
  have hafter : ∀ x ∈ after, ∀ e, x.1 = .configure e → ¬ Marker.Settable e := by
    intro x hx e he
    simp only [after, List.mem_cons, List.not_mem_nil, or_false] at hx
    rcases hx with rfl | rfl
    · cases he
    · cases he
      exact fun h => h _ rfl (by decide)
  have hlater : ∀ x ∈ later, x.1.readsMarker = false ∧ x.1.setsMarker = false :=
    List.forall_mem_singleton.mpr ⟨rfl, rfl⟩
  obtain ⟨c, w, hconfigured, -, hmarker, hwrap, hbad, hrun⟩ :=
    @latest_marker_decides .initial before after (some "$") none hsettable hafter
  obtain ⟨rfl, rfl⟩ := hconfigured.unique (.single '$')
  refine ⟨⟨hsettable, hafter, rfl, isNamed_doublyMarked, hlater⟩, hconfigured, hmarker, hwrap _ _ _,
    fun v => hbad _ _ _ v rfl isNamed_doublyMarked, ?_⟩
  rw [hrun later hlater]
  rfl

end CallGuard
