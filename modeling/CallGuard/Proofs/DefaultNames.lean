import CallGuard.Proofs.Agreement
import CallGuard.Proofs.Messages

/-! Display names that nobody gave. A function is to be shown by its own name if that is a text with
    something in it and was given by somebody, and as anonymous in all other cases. Its name can be any
    value, and wrapping does not look whether it is a text: it asks the name for its truth, and whether it
    equals the name of functions that nobody named. So it shows what it should just for names that are texts,
    count as false, or say that they equal that name; any other name is shown as it is, or stops the wrapping
    (`rightlyNamed_iff`). -/

namespace CallGuard

/-! ### Asking names -/

namespace Value
variable {call : Caller} {v : Value} {t : String} {s : Store}

theorem askClassWith_of_ne_object (h : ∀ i family, v ≠ .object i family) (name : String) (args : List Value) :
    v.askClassWith call name args = pure none := by
  cases v with
  | object i family => exact absurd rfl (h i family)
  | _ => rfl

theorem askTruth_of_ne_object (h : ∀ i family, v ≠ .object i family) :
    v.askTruth call = Exec.lift Failure.ambiguous v.isTrue := by
  simp only [askTruth, askClass, askClassWith_of_ne_object h, pure_bind]

theorem askEqual_of_ne_object (h : ∀ i family, v ≠ .object i family) (u : String) :
    v.askEqual call (.ofString u) = Exec.lift Failure.comparison (v.equal (.ofString u)) := by
  have hu : ∀ i family, ofString u ≠ .object i family := nofun
  simp only [askEqual, askEqualOneWay, askClassWith_of_ne_object h, askClassWith_of_ne_object hu, pure_bind]

theorem ne_object_of_text? (h : v.text? = some t) : ∀ i family, v ≠ .object i family := by
  rintro i family rfl
  cases h

theorem equal_of_text? (h : v.text? = some t) (u : String) : v.equal (.ofString u) = .ok (t == u) := by
  have hu : (ofString u).text? = some u := rfl
  rw [equal, equalIn_of_text? h, atomEqual_of_text? h hu]

theorem HoldsText.coreTruth (h : HoldsText t v) : ∃ b, v.coreTruth = .ok b := by
  cases h <;> exact ⟨_, rfl⟩

/-- A text is empty or not, whatever its class makes of it. -/
theorem isTrue_of_text? (h : v.text? = some t) : ∃ b, v.isTrue = .ok b := by
  have hcore := holdsText_core h
  cases v with
  | custom i c =>
    obtain ⟨name, content, items, traits, replies⟩ := c
    cases content with
    | none => cases h
    | some w =>
      obtain ⟨b, hb⟩ := HoldsText.coreTruth hcore
      cases items with
      | none => exact ⟨b, hb⟩
      | some vs =>
        unfold isTrue
        dsimp only
        split
        · exact ⟨b, hb⟩
        · exact ⟨_, rfl⟩
  | _ => exact hcore.coreTruth

theorem HoldsText.isText (h : HoldsText t v) : v.isText = true := by
  cases h with
  | stock i hnature => simp [Value.isText, traits, Stock.traits, hnature]
  | _ => rfl

theorem isText_core (v : Value) : v.core.isText = v.isText := by
  cases v with
  | custom i c =>
    obtain ⟨name, content, items, traits, replies⟩ := c
    cases content <;> rfl
  | _ => rfl

theorem isText_of_text? (h : v.text? = some t) : v.isText = true := by
  rw [← isText_core]
  exact (holdsText_core h).isText

end Value

/-! ### The right name -/

namespace Checked
variable {call : Caller} {own : Option Value} {display f : Value} {s : Store}

/-- What a function is to be shown by: its own name, if it has one that is a text with something in it and that
    somebody gave, and else as anonymous. -/
inductive RightName (own : Option Value) : Value → Prop
  | own {v : Value} {t : String} (hown : own = some v) (htext : v.text? = some t) (hfull : v.isTrue = .ok true)
      (hgiven : t ≠ unnamed) : RightName own v
  | anonymous (h : ∀ v t, own = some v → v.text? = some t → v.isTrue = .ok true → t = unnamed) :
      RightName own (.ofString anonymous)

namespace RightName

theorem exists_text (h : RightName own display) : ∃ t, display.text? = some t := by
  cases h with
  | own _ htext => exact ⟨_, htext⟩
  | anonymous => exact ⟨_, rfl⟩

theorem isTrue (h : RightName own display) : display.isTrue = .ok true := by
  cases h with
  | own _ _ hfull => exact hfull
  | anonymous => rfl

end RightName

/-- What a name can answer for its function to be shown by the right one: it is a text, it counts as false,
    or it equals the name of functions that nobody named. -/
def Resolves (call : Caller) (s : Store) (v : Value) : Prop :=
  (∃ t, v.text? = some t) ∨ (∃ u, (v.askTruth call).on s = (.ok false, u)) ∨
    ∃ u w, (v.askTruth call).on s = (.ok true, u) ∧ (v.askEqual call (.ofString unnamed)).on u = (.ok true, w)

theorem defaultName_of_text {v : Value} {t : String} (hname : f.metadata.name = some v) (ht : v.text? = some t)
    (s : Store) : ∃ display, (defaultName call f).on s = (.ok display, s) ∧ RightName (some v) display := by
  obtain ⟨b, hb⟩ := Value.isTrue_of_text? ht
  have hne := Value.ne_object_of_text? ht
  simp only [defaultName, hname, Value.askTruth_of_ne_object hne, Value.askEqual_of_ne_object hne,
    Value.equal_of_text? ht, hb, Exec.lift, pure_bind]
  cases b with
  | false =>
    refine ⟨_, rfl, .anonymous ?_⟩
    rintro w u ⟨⟩ - hfull
    cases hb.symm.trans hfull
  | true =>
    by_cases hgiven : t = unnamed
    · refine ⟨.ofString anonymous, by simp [hgiven], .anonymous ?_⟩
      rintro w u ⟨⟩ hu -
      exact Option.some.inj (hu.symm.trans (ht.trans (congrArg some hgiven)))
    · exact ⟨v, by simp [hgiven], .own rfl ht hb hgiven⟩

theorem defaultName_of_resolves (h : ∀ v, f.metadata.name = some v → Resolves call s v) :
    ∃ display u, (defaultName call f).on s = (.ok display, u) ∧ RightName f.metadata.name display := by
  cases hname : f.metadata.name with
  | none => exact ⟨.ofString anonymous, s, by simp [defaultName, hname], .anonymous nofun⟩
  | some v =>
    by_cases htext : ∃ t, v.text? = some t
    · obtain ⟨t, ht⟩ := htext
      obtain ⟨display, hdisplay, hright⟩ := defaultName_of_text hname ht s
      exact ⟨display, s, hdisplay, hright⟩
    · -- A name that is no text is not to be shown, whatever it answers.
      have hright : RightName (some v) (.ofString anonymous) := by
        refine .anonymous ?_
        rintro w u ⟨⟩ hu -
        exact absurd ⟨u, hu⟩ htext
      rcases h v hname with ht | ⟨u, hfalse⟩ | ⟨u, w, htrue, hequal⟩
      · exact absurd ht htext
      · refine ⟨_, u, ?_, hright⟩
        simp only [defaultName, hname]
        rw [Exec.on_bind_ok hfalse]
        rfl
      · refine ⟨_, w, ?_, hright⟩
        simp only [defaultName, hname]
        rw [Exec.on_bind_ok htrue]
        simp only [Bool.not_true, Bool.false_eq_true, ↓reduceIte]
        rw [Exec.on_bind_ok hequal]
        rfl

theorem resolves_of_defaultName {v : Value} (hname : f.metadata.name = some v) {u : Store}
    (hdisplay : (defaultName call f).on s = (.ok display, u)) (hright : RightName f.metadata.name display) :
    Resolves call s v := by
  simp only [defaultName, hname] at hdisplay
  obtain ⟨full, w, htruth, hdisplay⟩ := Exec.on_bind_eq_ok hdisplay
  cases full with
  | false => exact .inr (.inl ⟨w, htruth⟩)
  | true =>
    obtain ⟨unnamed, x, hequal, hdisplay⟩ := Exec.on_bind_eq_ok hdisplay
    cases unnamed with
    | true => exact .inr (.inr ⟨w, x, htruth, hequal⟩)
    | false =>
      cases hdisplay
      exact .inl hright.exists_text

theorem Reports.functionName {c : Checked Value} {r : Report} (h : c.Reports r) : r.functionName = c.name := by
  obtain ⟨k, rfl⟩ := h.complaint
  cases k <;> rfl

/-- A function wrapped under no name is shown by the right name, which is a text that is not empty, and every
    report of its checks names it so. -/
def RightlyNamed (call : Caller) (signature f : Value) (s : Store) : Prop :=
  ∃ id c t, (Value.wrap call signature f .null).on s = (.ok (.checked id c), t) ∧
    RightName f.metadata.name c.name ∧ c.name.isText = true ∧ c.name.isTrue = .ok true ∧
    ∀ r, c.Reports r → r.functionName = c.name

end Checked

/-- Whatever can be wrapped with a signature is shown by the right name if it gives none, just if its own name
    is missing, is a text, counts as false, or equals the name of functions that nobody named. -/
theorem rightlyNamed_iff {f signature : Value} {sig : Signature} (hf : f.isImplementation = true)
    (hread : Signature.read signature = .ok sig) (call : Caller) (s : Store) :
    Checked.RightlyNamed call signature f s ↔ ∀ v, f.metadata.name = some v → Checked.Resolves call s v := by
  constructor
  · rintro ⟨id, c, t, hwrap, hright, -⟩ v hname
    obtain ⟨_, display, m, u, hdisplay, hc⟩ := Value.wrap_eq_ok hread hwrap
    obtain ⟨-, rfl⟩ := Value.checked.inj hc
    exact Checked.resolves_of_defaultName hname hdisplay hright
  · intro h
    obtain ⟨display, u, hdisplay, hright⟩ := Checked.defaultName_of_resolves h
    have hdisplayed : (Value.displayed call f .null).on s = (.ok display, u) := hdisplay
    obtain ⟨id, m, t, hwrap⟩ := Value.wrap_displayed hf rfl hread hdisplayed
    obtain ⟨_, htext⟩ := hright.exists_text
    exact ⟨id, _, t, hwrap, hright, Value.isText_of_text? htext, hright.isTrue, fun r hr => hr.functionName⟩

def routineNamed (name : Value) : Value := .routine 3 ⟨"f", { Metadata.empty with name := some name }, .argument 0⟩

/-- The signature of a function of one number. -/
def oneNumber : Value := .tuple [.ofString "Number", .ofString "Number"]

/-- A text is shown as it is even if it is of a class of its own. -/
theorem rightlyNamed_iff_madeText :
    let f := routineNamed (.custom 4 ⟨"Name", some (.text 5 "half"), none, ⟨false, false, false, none⟩, none⟩)
    f.isImplementation = true ∧ Signature.read oneNumber = .ok ⟨[.number], .number⟩ ∧
      Checked.RightlyNamed caller oneNumber f .initial := by
  intro f
  have hf : f.isImplementation = true := rfl
  have hread : Signature.read oneNumber = .ok ⟨[.number], .number⟩ := rfl
  refine ⟨hf, hread, (rightlyNamed_iff hf hread caller .initial).mpr ?_⟩
  rintro v ⟨⟩
  exact .inl ⟨"half", rfl⟩

/-- A function that is named by a number is shown by the number, not as anonymous. -/
theorem not_rightlyNamed_number :
    let five : Value := .integer 4 5
    let f := routineNamed five
    f.isImplementation = true ∧ Signature.read oneNumber = .ok ⟨[.number], .number⟩ ∧
      ((Value.wrap caller oneNumber f .null).on .initial).1 =
        .ok (.checked 1 ⟨⟨[.number], .number⟩, f, five, { Metadata.empty with name := some five }⟩) ∧
      five.isText = false ∧ ¬Checked.RightlyNamed caller oneNumber f .initial := by
  intro five f
  have hwrap : ((Value.wrap caller oneNumber f .null).on .initial).1 =
      .ok (.checked 1 ⟨⟨[.number], .number⟩, f, five, { Metadata.empty with name := some five }⟩) := rfl
  refine ⟨rfl, rfl, hwrap, rfl, ?_⟩
  rintro ⟨id, c, t, h, -, htext, -⟩
  rw [h] at hwrap
  cases hwrap
  cases htext

end CallGuard
