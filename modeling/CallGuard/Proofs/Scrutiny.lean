import CallGuard.Proofs.CallOutcome

/-! What the checks around a call ask of objects whose answers change. A number is compared with itself at
    each classification, and an object of a class of its own may answer otherwise each time, or raise. So
    the pass over the tags and the pass for NaN may see one argument differently, and one argument may be
    seen differently at two positions. Each classification is settled by the answer that comes after all
    comparisons of the object so far: those on record, and those of earlier positions (`tagAt`). The passes
    compare every number but the decimals once, in the order of positions and up to the position where a
    pass stops; the check for missing arguments compares nothing, and the result is compared once
    (`scrutinizedCall_invoke`). -/

namespace CallGuard

/-! ### What is compared -/

namespace Value
variable {v : Value} {s : Store} {args ws : List Value}

/-- Whether a value is a decimal, or of a class that is built on decimals. -/
def isDecimal (v : Value) : Bool :=
  match v.core with
  | .decimal .. => true
  | _ => false

/-- Whether classifying a value compares it with itself: it is a number and no decimal. -/
def isCompared (v : Value) : Bool := v.isAsked && !v.isDecimal

theorem compares_coreSelfTest (v : Value) (h : ∀ id d, v ≠ .decimal id d) : v.coreSelfTest.compares = true := by
  cases v with
  | decimal id d => exact absurd rfl (h id d)
  | array id g =>
    simp only [coreSelfTest]
    cases soleTruth (g.items.map Scalar.isNaN) <;> rfl
  | _ => rfl

/-- Only decimals give their own account of whether they are NaN. -/
theorem compares_selfTest (v : Value) : v.selfTest.compares = !v.isDecimal := by
  cases v with
  | custom id c =>
    obtain ⟨className, content, items, traits, replies⟩ := c
    cases content with
    | none => cases replies <;> rfl
    | some w =>
      by_cases hw : ∃ i d, w = .decimal i d
      · obtain ⟨i, d, rfl⟩ := hw
        rfl
      · have hne : ∀ i d, w ≠ .decimal i d := fun i d he => hw ⟨i, d, he⟩
        have htest : (Value.custom id ⟨className, some w, items, traits, replies⟩).selfTest =
            replies.elim w.coreSelfTest .replies := by
          cases w with
          | decimal i d => exact absurd rfl (hne i d)
          | _ => cases replies <;> rfl
        have hdecimal : (Value.custom id ⟨className, some w, items, traits, replies⟩).isDecimal = false := by
          cases w with
          | decimal i d => exact absurd rfl (hne i d)
          | _ => rfl
        rw [htest, hdecimal]
        cases replies with
        | none => exact compares_coreSelfTest w hne
        | some r => rfl
  | decimal id d => rfl
  | array id g => exact compares_coreSelfTest (.array id g) fun _ _ h => by cases h
  | _ => rfl

theorem selfComparisons_eq (v : Value) : v.selfComparisons = [v].filter isCompared := by
  rw [selfComparisons, compares_selfTest]
  cases h : v.isCompared <;> simp_all [isCompared]

theorem comparisonsIn_compared (v : Value) (s : Store) (ws : List Value) :
    v.comparisonsIn (s.compared ws) = v.comparisonsIn s + ws.countP v.isSubject := by
  simp [comparisonsIn, Store.compared, List.countP_eq_length_filter]

end Value

/-- The tag of the argument at a position in a pass over arguments that begins on a store. What counts is
    the answer after the comparisons on record and those of earlier positions, which may hold the same
    object. -/
def tagAt (s : Store) (args : List Value) (i : Nat) (v : Value) : Except Failure Tag :=
  v.tagAfter (v.comparisonsIn s + ((args.take i).filter Value.isCompared).countP v.isSubject)

/-- The store in a pass over arguments before a position. -/
def storeAt (s : Store) (args : List Value) (i : Nat) : Store := s.compared ((args.take i).filter Value.isCompared)

theorem storeAt_zero (s : Store) (args : List Value) : storeAt s args 0 = s := by simp [storeAt]

theorem storeAt_length (s : Store) (args : List Value) :
    storeAt s args args.length = s.compared (args.filter Value.isCompared) := by
  simp [storeAt]

theorem on_classify_storeAt {s : Store} {args : List Value} {i : Nat} {v : Value} (hv : args[i]? = some v) :
    v.classify.on (storeAt s args i) = ((tagAt s args i v).mapError .failed, storeAt s args (i + 1)) := by
  rw [Value.on_classify, storeAt, Value.comparisonsIn_compared, Store.compared_compared, Value.selfComparisons_eq,
    ← List.filter_append, storeAt, List.take_add_one, hv]
  rfl

/-! ### Refusals -/

/-- How a pass over arguments judges their tags: which it refuses where another is expected, and what it
    reports then of a position. -/
structure Inspection where
  refuses : Tag → Tag → Prop
  report : Nat → Tag → Tag → Report

/-- The pass over the tags refuses a tag that is not the expected one, unless any will do. -/
def Checked.tagInspection (c : Checked Value) : Inspection where
  refuses t u := t ≠ .void ∧ u ≠ t
  report i t u := .argumentType c.name (.ofInt i) (.tag t) (.tag u)

/-- The pass for NaN refuses NaN, whatever is expected. -/
def Checked.nanInspection (c : Checked Value) : Inspection where
  refuses _ u := u = .nan
  report i t _ := .nanDetected c.name (.ofInt i) (.tag t)

/-- What a pass that begins on a store refuses at a position: an argument whose comparison raises, or whose
    tag it refuses. -/
inductive Refuses (k : Inspection) (sig : Signature) (s : Store) (args : List Value) (i : Nat) : Failure → Prop
  | raised {v : Value} {f : Failure} (hv : args[i]? = some v) (hf : tagAt s args i v = .error f) :
    Refuses k sig s args i f
  | tagged {v : Value} {t u : Tag} (hv : args[i]? = some v) (ht : sig.arguments[i]? = some t)
    (hu : tagAt s args i v = .ok u) (hr : k.refuses t u) : Refuses k sig s args i (.report (k.report i t u))

/-- What the check for missing arguments refuses at a position. -/
inductive RefusesMissing (c : Checked Value) (args : List Value) (i : Nat) : Failure → Prop
  | undefined {t : Tag} (hv : args[i]? = some .undefined) (ht : c.signature.arguments[i]? = some t) :
    RefusesMissing c args i (.report (.undefinedArgument c.name (.ofInt i) (.tag t)))

/-- A pass stops at the first position that it refuses. -/
structure StopsAt (refused : Nat → Failure → Prop) (i : Nat) (f : Failure) : Prop where
  here : refused i f
  before : ∀ j < i, ∀ g, ¬refused j g

/-- A pass that begins on a store gets through: every argument is given a tag, and none is refused. -/
def LetsPass (k : Inspection) (sig : Signature) (s : Store) (args : List Value) : Prop :=
  ∀ i t v, sig.arguments[i]? = some t → args[i]? = some v → ∃ u, tagAt s args i v = .ok u ∧ ¬k.refuses t u

/-- The checks let arguments through. The pass for NaN begins where the pass over the tags has compared
    all that it compares. -/
structure Admitted (c : Checked Value) (s : Store) (args : List Value) : Prop where
  tagged : LetsPass c.tagInspection c.signature s args
  noNaN : LetsPass c.nanInspection c.signature (s.compared (args.filter Value.isCompared)) args
  noUndefined : .undefined ∉ args

theorem StopsAt.unique {refused : Nat → Failure → Prop} {i j : Nat} {f g : Failure} (hf : StopsAt refused i f)
    (hg : StopsAt refused j g) (huniq : ∀ {i f g}, refused i f → refused i g → f = g) : i = j ∧ f = g := by
  have hij : i = j := eq_of_least (p := fun i => ∃ f, refused i f) ⟨f, hf.here⟩ ⟨g, hg.here⟩
    (fun k hk ⟨e, he⟩ => hf.before k hk e he) (fun k hk ⟨e, he⟩ => hg.before k hk e he)
  subst hij
  exact ⟨rfl, huniq hf.here hg.here⟩

theorem stopsAt_or_forall_not (refused : Nat → Failure → Prop) :
    (∃ i f, StopsAt refused i f) ∨ ∀ i f, ¬refused i f := by
  by_cases h : ∃ i f, refused i f
  · obtain ⟨i, ⟨f, hf⟩, least⟩ := exists_least h
    exact .inl ⟨i, f, hf, fun j hj g hg => least j hj ⟨g, hg⟩⟩
  · exact .inr fun i f hf => h ⟨i, f, hf⟩

section
variable {k : Inspection} {sig : Signature} {c : Checked Value} {s : Store} {args : List Value} {i : Nat}
  {f g : Failure}

theorem Refuses.unique (hf : Refuses k sig s args i f) (hg : Refuses k sig s args i g) : f = g := by
  cases hf with
  | raised hv hf =>
    cases hg with
    | raised hv' hf' =>
      cases hv.symm.trans hv'
      cases hf.symm.trans hf'
      rfl
    | tagged hv' ht' hu' hr' =>
      cases hv.symm.trans hv'
      cases hf.symm.trans hu'
  | tagged hv ht hu hr =>
    cases hg with
    | raised hv' hf' =>
      cases hv.symm.trans hv'
      cases hu.symm.trans hf'
    | tagged hv' ht' hu' hr' =>
      cases hv.symm.trans hv'
      cases ht.symm.trans ht'
      cases hu.symm.trans hu'
      rfl

theorem Refuses.not_letsPass (hn : args.length = sig.arity) (hf : Refuses k sig s args i f) :
    ¬LetsPass k sig s args := by
  intro h
  cases hf with
  | raised hv hf =>
    obtain ⟨t, ht⟩ := Signature.exists_expected hn hv
    obtain ⟨u, hu, -⟩ := h i t _ ht hv
    cases hf.symm.trans hu
  | tagged hv ht hu hr =>
    obtain ⟨u', hu', hr'⟩ := h i _ _ ht hv
    cases hu.symm.trans hu'
    exact hr' hr

theorem letsPass_of_forall_not (h : ∀ i f, ¬Refuses k sig s args i f) : LetsPass k sig s args := by
  intro i t v ht hv
  cases hu : tagAt s args i v with
  | error f => exact absurd (.raised hv hu) (h i f)
  | ok u => exact ⟨u, rfl, fun hr => h i _ (.tagged hv ht hu hr)⟩

theorem RefusesMissing.unique (hf : RefusesMissing c args i f) (hg : RefusesMissing c args i g) : f = g := by
  obtain ⟨-, ht⟩ := hf
  obtain ⟨-, ht'⟩ := hg
  cases ht.symm.trans ht'
  rfl

theorem RefusesMissing.mem (hf : RefusesMissing c args i f) : .undefined ∈ args := by
  obtain ⟨hv, -⟩ := hf
  exact List.mem_of_getElem? hv

theorem undefined_notMem_of_forall_not (hn : args.length = c.signature.arity) (h : ∀ i f, ¬RefusesMissing c args i f) :
    .undefined ∉ args := by
  intro hmem
  obtain ⟨i, hv⟩ := List.mem_iff_getElem?.mp hmem
  obtain ⟨t, ht⟩ := Signature.exists_expected hn hv
  exact h i _ (.undefined hv ht)

end

/-! ### The checks of the arguments -/

/-- What the checks of the arguments come to, and what they leave on record: the comparisons of the pass
    over the tags up to the position where it stops, and if it gets through, those of the pass for NaN. -/
inductive Scrutiny (c : Checked Value) (args : List Value) (s : Store) : Except Stop Unit × Store → Prop
  | tag {i : Nat} {f : Failure} (h : StopsAt (Refuses c.tagInspection c.signature s args) i f) :
    Scrutiny c args s (.error (.failed f), s.compared ((args.take (i + 1)).filter Value.isCompared))
  | nan {i : Nat} {f : Failure} (tagged : LetsPass c.tagInspection c.signature s args)
    (h : StopsAt (Refuses c.nanInspection c.signature (s.compared (args.filter Value.isCompared)) args) i f) :
    Scrutiny c args s (.error (.failed f),
      s.compared (args.filter Value.isCompared ++ (args.take (i + 1)).filter Value.isCompared))
  | missing {i : Nat} {f : Failure} (tagged : LetsPass c.tagInspection c.signature s args)
    (noNaN : LetsPass c.nanInspection c.signature (s.compared (args.filter Value.isCompared)) args)
    (h : StopsAt (RefusesMissing c args) i f) :
    Scrutiny c args s (.error (.failed f),
      s.compared (args.filter Value.isCompared ++ args.filter Value.isCompared))
  | admitted (h : Admitted c s args) :
    Scrutiny c args s (.ok (), s.compared (args.filter Value.isCompared ++ args.filter Value.isCompared))

/-- What the check of a result comes to. The result is classified once. -/
inductive ResultScrutiny (c : Checked Value) (v : Value) (s : Store) : Except Stop Value × Store → Prop
  | raised {f : Failure} (hv : v.tagAfter (v.comparisonsIn s) = .error f) :
    ResultScrutiny c v s (.error (.failed f), s.compared ([v].filter Value.isCompared))
  | misreturned {tag : Tag} {r : Report} (hv : v.tagAfter (v.comparisonsIn s) = .ok tag)
    (hr : ResultViolation c.signature c.name tag r) :
    ResultScrutiny c v s (.error (.failed (.report r)), s.compared ([v].filter Value.isCompared))
  | returned {tag : Tag} (hv : v.tagAfter (v.comparisonsIn s) = .ok tag) (hr : AdmitsResult c.signature tag) :
    ResultScrutiny c v s (.ok v, s.compared ([v].filter Value.isCompared))

/-- The outcome of a call of a checked function on a store, whatever its arguments answer: what the checks
    of the arguments refuse, what the implementation raises, or what the check of its result comes to. -/
inductive ScrutinizedCall (c : Checked Value) (args : List Value) (implementation : Exec Value) (s : Store) :
    Except Stop Value × Store → Prop
  | refused {e : Stop} {t : Store} (h : Scrutiny c args s (.error e, t)) :
    ScrutinizedCall c args implementation s (.error e, t)
  | raised {e : Stop} {t u : Store} (h : Scrutiny c args s (.ok (), t)) (hrun : implementation.on t = (.error e, u)) :
    ScrutinizedCall c args implementation s (.error e, u)
  | answered {v : Value} {t u : Store} {x : Except Stop Value × Store} (h : Scrutiny c args s (.ok (), t))
    (hrun : implementation.on t = (.ok v, u)) (hx : ResultScrutiny c v u x) :
    ScrutinizedCall c args implementation s x

/-- A judge inspects a position: it classifies the argument, and refuses what the inspection refuses. -/
structure Inspects (k : Inspection) (judge : Nat → Tag → Value → Exec Unit) : Prop where
  raises : ∀ {i t v s s' e}, v.classify.on s = (.error e, s') → (judge i t v).on s = (.error e, s')
  refuses : ∀ {i t v s s' u}, v.classify.on s = (.ok u, s') → k.refuses t u →
    (judge i t v).on s = (.error (.failed (.report (k.report i t u))), s')
  accepts : ∀ {i t v s s' u}, v.classify.on s = (.ok u, s') → ¬k.refuses t u → (judge i t v).on s = (.ok (), s')

namespace Inspects
variable {k : Inspection} {judge : Nat → Tag → Value → Exec Unit} {sig : Signature} {s : Store} {args : List Value}
  {i : Nat} {t : Tag} {v : Value}

theorem on_error (hk : Inspects k judge) {f : Failure} (hf : Refuses k sig s args i f)
    (ht : sig.arguments[i]? = some t) (hv : args[i]? = some v) :
    (judge i t v).on (storeAt s args i) = (.error (.failed f), storeAt s args (i + 1)) := by
  have hclassify := on_classify_storeAt (s := s) hv
  cases hf with
  | raised hv' hf =>
    cases hv.symm.trans hv'
    rw [hf] at hclassify
    exact hk.raises hclassify
  | tagged hv' ht' hu hr =>
    cases hv.symm.trans hv'
    cases ht.symm.trans ht'
    rw [hu] at hclassify
    exact hk.refuses hclassify hr

theorem on_ok (hk : Inspects k judge) (hf : ∀ f, ¬Refuses k sig s args i f) (ht : sig.arguments[i]? = some t)
    (hv : args[i]? = some v) : (judge i t v).on (storeAt s args i) = (.ok (), storeAt s args (i + 1)) := by
  have hclassify := on_classify_storeAt (s := s) hv
  cases hu : tagAt s args i v with
  | error f => exact absurd (.raised hv hu) (hf f)
  | ok u =>
    rw [hu] at hclassify
    exact hk.accepts hclassify fun hr => hf _ (.tagged hv ht hu hr)

/-- A pass stops at the first position that the inspection refuses, and has compared all up to it. -/
theorem pass_stops (hk : Inspects k judge) (hn : args.length = sig.arity) {f : Failure}
    (h : StopsAt (Refuses k sig s args) i f) :
    (Checked.pass judge 0 sig.arguments args).on s = (.error (.failed f), storeAt s args (i + 1)) := by
  obtain ⟨v, hv⟩ : ∃ v, args[i]? = some v := by
    cases h.here with
    | raised hv hf => exact ⟨_, hv⟩
    | tagged hv ht hu hr => exact ⟨_, hv⟩
  obtain ⟨t, ht⟩ := Signature.exists_expected hn hv
  obtain ⟨s', hpass, rfl⟩ := Checked.pass_error (p := 0) (R := fun j u => u = storeAt s args j) ht hv
    (fun j hj t' v' ht' hv' u hu => by
      subst hu
      rw [Nat.zero_add]
      exact ⟨_, hk.on_ok (h.before j hj) ht' hv', rfl⟩)
    (fun u hu => by
      subst hu
      rw [Nat.zero_add]
      exact ⟨_, hk.on_error h.here ht hv, rfl⟩)
    (storeAt_zero s args).symm
  exact hpass

/-- A pass gets through where the inspection refuses nothing, and has compared all. -/
theorem pass_passes (hk : Inspects k judge) (hn : args.length = sig.arity) (h : ∀ i f, ¬Refuses k sig s args i f) :
    (Checked.pass judge 0 sig.arguments args).on s = (.ok (), s.compared (args.filter Value.isCompared)) := by
  obtain ⟨s', hpass, hs'⟩ := Checked.pass_ok (p := 0) (R := fun j u => u = storeAt s args j)
    (fun j t' v' ht' hv' u hu => by
      subst hu
      rw [Nat.zero_add]
      exact ⟨_, hk.on_ok (h j) ht' hv', rfl⟩)
    (storeAt_zero s args).symm
  rw [hpass, hs', show sig.arguments.length = args.length from hn.symm, Nat.min_self, storeAt_length]

end Inspects

namespace Checked
variable {c : Checked Value} {s : Store} {args : List Value}

theorem judgeTag_inspects (c : Checked Value) : Inspects c.tagInspection c.judgeTag where
  raises h := Exec.on_bind_error h
  refuses := by
    rintro i t v s s' u h ⟨hvoid, hne⟩
    have hacc : t.accepts u = false := by
      rw [Bool.eq_false_iff, ne_eq, Tag.accepts_iff, not_or]
      exact ⟨hvoid, hne⟩
    rw [judgeTag, Exec.on_bind_ok h, hacc]
    rfl
  accepts := by
    intro i t v s s' u h hr
    have hacc : t.accepts u = true := by
      rw [Tag.accepts_iff]
      by_contra hor
      exact hr (not_or.mp hor)
    rw [judgeTag, Exec.on_bind_ok h, hacc]
    rfl

theorem judgeNaN_inspects (c : Checked Value) : Inspects c.nanInspection c.judgeNaN where
  raises h := Exec.on_bind_error h
  refuses := by
    rintro i t v s s' u h rfl
    rw [judgeNaN, Exec.on_bind_ok h]
    rfl
  accepts := by
    intro i t v s s' u h hr
    have hne : u ≠ .nan := hr
    rw [judgeNaN, Exec.on_bind_ok h, if_neg hne]
    rfl

/-- The check for missing arguments stops at the first one and leaves the store as it is. -/
theorem checkUndefined_stops {i : Nat} {f : Failure} (h : StopsAt (RefusesMissing c args) i f) :
    (c.checkUndefined 0 c.signature.arguments args).on s = (.error (.failed f), s) := by
  obtain ⟨hv, ht⟩ := h.here
  rw [checkUndefined_eq_pass]
  have before (j : Nat) (hj : j < i) (t : Tag) (w : Value) (ht : c.signature.arguments[j]? = some t)
      (hw : args[j]? = some w) (u : Store) (hu : u = s) :
      ∃ s', (c.judgeUndefined (0 + j) t w).on u = (.ok (), s') ∧ s' = s := by
    refine ⟨u, judgeUndefined_of_ne ?_ u, hu⟩
    rintro rfl
    exact h.before j hj _ (.undefined hw ht)
  obtain ⟨s', hpass, hs'⟩ := pass_error (R := fun _ u => u = s) ht hv before
    (fun u hu => ⟨u, by rw [Nat.zero_add]; rfl, hu⟩) rfl
  rw [hpass, hs']

theorem checkUndefined_passes (h : .undefined ∉ args) :
    (c.checkUndefined 0 c.signature.arguments args).on s = (.ok (), s) := by
  rw [checkUndefined_eq_pass]
  have passes (j : Nat) (t : Tag) (w : Value) (_ : c.signature.arguments[j]? = some t) (hw : args[j]? = some w)
      (u : Store) (hu : u = s) : ∃ s', (c.judgeUndefined (0 + j) t w).on u = (.ok (), s') ∧ s' = s := by
    refine ⟨u, judgeUndefined_of_ne ?_ u, hu⟩
    rintro rfl
    exact h (List.mem_of_getElem? hw)
  obtain ⟨s', hpass, hs'⟩ := pass_ok (R := fun _ u => u = s) passes rfl
  rw [hpass, hs']

/-- The checks of as many arguments as expected come to what their scrutiny says. -/
theorem scrutiny_checkArguments (hn : args.length = c.signature.arity) (s : Store) :
    Scrutiny c args s ((c.checkArguments args 0).on s) := by
  have hcount : (c.checkCount args.length 0).on s = (.ok (), s) := by simp [checkCount, hn]
  rw [checkArguments, Exec.on_bind_ok hcount]
  rcases stopsAt_or_forall_not (Refuses c.tagInspection c.signature s args) with ⟨i, f, htag⟩ | htag
  · have hpass := (judgeTag_inspects c).pass_stops hn htag
    rw [← checkTags_eq_pass] at hpass
    rw [Exec.on_bind_error hpass]
    exact .tag htag
  have tagged := letsPass_of_forall_not htag
  have hpass := (judgeTag_inspects c).pass_passes hn htag
  rw [← checkTags_eq_pass] at hpass
  rw [Exec.on_bind_ok hpass]
  generalize hs₁ : s.compared (args.filter Value.isCompared) = s₁
  rcases stopsAt_or_forall_not (Refuses c.nanInspection c.signature s₁ args) with ⟨i, f, hnan⟩ | hnan
  · have hpass := (judgeNaN_inspects c).pass_stops hn hnan
    rw [← checkNaN_eq_pass] at hpass
    rw [Exec.on_bind_error hpass, ← hs₁, storeAt, Store.compared_compared]
    rw [← hs₁] at hnan
    exact .nan tagged hnan
  have noNaN := letsPass_of_forall_not hnan
  have hpass := (judgeNaN_inspects c).pass_passes hn hnan
  rw [← checkNaN_eq_pass] at hpass
  rw [Exec.on_bind_ok hpass, ← hs₁, Store.compared_compared]
  rw [← hs₁] at noNaN
  rcases stopsAt_or_forall_not (RefusesMissing c args) with ⟨i, f, hmissing⟩ | hmissing
  · rw [checkUndefined_stops hmissing]
    exact .missing tagged noNaN hmissing
  · have noUndefined := undefined_notMem_of_forall_not hn hmissing
    rw [checkUndefined_passes noUndefined]
    exact .admitted ⟨tagged, noNaN, noUndefined⟩

end Checked

/-! ### Outcomes are unique -/

section
variable {c : Checked Value} {args : List Value} {s : Store} {implementation : Exec Value}

theorem Scrutiny.unique (hn : args.length = c.signature.arity) {x y : Except Stop Unit × Store}
    (hx : Scrutiny c args s x) (hy : Scrutiny c args s y) : x = y := by
  cases hx with
  | tag h =>
    cases hy with
    | tag h' =>
      obtain ⟨rfl, rfl⟩ := h.unique h' Refuses.unique
      rfl
    | nan tagged => exact absurd tagged (h.here.not_letsPass hn)
    | missing tagged => exact absurd tagged (h.here.not_letsPass hn)
    | admitted ha => exact absurd ha.tagged (h.here.not_letsPass hn)
  | nan tagged h =>
    cases hy with
    | tag h' => exact absurd tagged (h'.here.not_letsPass hn)
    | nan tagged' h' =>
      obtain ⟨rfl, rfl⟩ := h.unique h' Refuses.unique
      rfl
    | missing tagged' noNaN => exact absurd noNaN (h.here.not_letsPass hn)
    | admitted ha => exact absurd ha.noNaN (h.here.not_letsPass hn)
  | missing tagged noNaN h =>
    cases hy with
    | tag h' => exact absurd tagged (h'.here.not_letsPass hn)
    | nan tagged' h' => exact absurd noNaN (h'.here.not_letsPass hn)
    | missing tagged' noNaN' h' =>
      obtain ⟨rfl, rfl⟩ := h.unique h' RefusesMissing.unique
      rfl
    | admitted ha => exact absurd h.here.mem ha.noUndefined
  | admitted ha =>
    cases hy with
    | tag h' => exact absurd ha.tagged (h'.here.not_letsPass hn)
    | nan tagged' h' => exact absurd ha.noNaN (h'.here.not_letsPass hn)
    | missing tagged' noNaN' h' => exact absurd h'.here.mem ha.noUndefined
    | admitted => rfl

theorem ResultScrutiny.unique {v : Value} {x y : Except Stop Value × Store} (hx : ResultScrutiny c v s x)
    (hy : ResultScrutiny c v s y) : x = y := by
  cases hx with
  | raised hv =>
    cases hy with
    | raised hv' =>
      cases hv.symm.trans hv'
      rfl
    | misreturned hv' => cases hv.symm.trans hv'
    | returned hv' => cases hv.symm.trans hv'
  | misreturned hv hr =>
    cases hy with
    | raised hv' => cases hv.symm.trans hv'
    | misreturned hv' hr' =>
      cases hv.symm.trans hv'
      rw [hr.unique hr']
    | returned hv' hr' =>
      cases hv.symm.trans hv'
      exact absurd hr' hr.not_admitsResult
  | returned hv hr =>
    cases hy with
    | raised hv' => cases hv.symm.trans hv'
    | misreturned hv' hr' =>
      cases hv.symm.trans hv'
      exact absurd hr hr'.not_admitsResult
    | returned => rfl

theorem ScrutinizedCall.unique (hn : args.length = c.signature.arity) {x y : Except Stop Value × Store}
    (hx : ScrutinizedCall c args implementation s x) (hy : ScrutinizedCall c args implementation s y) : x = y := by
  cases hx with
  | refused h =>
    cases hy with
    | refused h' =>
      cases h.unique hn h'
      rfl
    | raised h' => cases h.unique hn h'
    | answered h' => cases h.unique hn h'
  | raised h hrun =>
    cases hy with
    | refused h' => cases h.unique hn h'
    | raised h' hrun' =>
      cases h.unique hn h'
      cases hrun.symm.trans hrun'
      rfl
    | answered h' hrun' =>
      cases h.unique hn h'
      cases hrun.symm.trans hrun'
  | answered h hrun hx =>
    cases hy with
    | refused h' => cases h.unique hn h'
    | raised h' hrun' =>
      cases h.unique hn h'
      cases hrun.symm.trans hrun'
    | answered h' hrun' hy =>
      cases h.unique hn h'
      cases hrun.symm.trans hrun'
      exact hx.unique hy

end

/-! ### Calls -/

namespace Checked
variable {c : Checked Value} {args : List Value} {s t : Store}

theorem resultScrutiny_checkResult (c : Checked Value) (v : Value) (s : Store) :
    ResultScrutiny c v s ((do c.checkResult v; return v : Exec Value).on s) := by
  have hclassify := Value.on_classify v s
  rw [Value.selfComparisons_eq] at hclassify
  cases hv : v.tagAfter (v.comparisonsIn s) with
  | error f =>
    rw [hv] at hclassify
    rw [Exec.on_bind_error (by rw [checkResult, Exec.on_bind_error hclassify])]
    exact .raised hv
  | ok tag =>
    rw [hv] at hclassify
    rcases resultViolation_or_admitsResult c.signature c.name tag with ⟨r, hr⟩ | hr
    · rw [Exec.on_bind_error (checkResult_violated hclassify hr)]
      exact .misreturned hv hr
    · rw [Exec.on_bind_ok (checkResult_admitted hclassify hr)]
      exact .returned hv hr

theorem scrutinizedCall_guard (hn : args.length = c.signature.arity) (call : List Value → Exec Value) (s : Store) :
    ScrutinizedCall c args (call args) s ((c.guard args 0 call).on s) := by
  have hscrutiny := scrutiny_checkArguments hn s
  rcases hcheck : (c.checkArguments args 0).on s with ⟨e | _, t⟩ <;> rw [hcheck] at hscrutiny
  · rw [guard, Exec.on_bind_error hcheck]
    exact .refused hscrutiny
  · rw [guard, Exec.on_bind_ok hcheck]
    rcases hrun : (call args).on t with ⟨e | v, u⟩
    · rw [Exec.on_bind_error hrun]
      exact .raised hscrutiny hrun
    · rw [Exec.on_bind_ok hrun]
      exact .answered hscrutiny hrun (resultScrutiny_checkResult c v u)

/-- A call by position from one store on goes on with the implementation on another, whatever the
    implementation does. -/
def Reaches (c : Checked Value) (args : List Value) (s t : Store) : Prop :=
  ∀ call : Caller, (c.run args [] call).on s =
    (do let v ← call c.implementation args; c.checkResult v; return v : Exec Value).on t

/-- A call goes on with the implementation where its arguments are admitted, after all comparisons. -/
theorem reaches_iff (hn : args.length = c.signature.arity) :
    c.Reaches args s t ↔
      Admitted c s args ∧ t = s.compared (args.filter Value.isCompared ++ args.filter Value.isCompared) := by
  have hscrutiny := scrutiny_checkArguments hn s
  have hrun (call : Caller) : c.run args [] call = c.guard args 0 (call c.implementation) := rfl
  rcases hcheck : (c.checkArguments args 0).on s with ⟨e | _, t'⟩ <;> rw [hcheck] at hscrutiny
  · constructor
    · -- A refused call comes to the same whatever the implementation raises.
      intro h
      have hrefused (f : Failure) := (h fun _ _ => Exec.fail f).symm.trans (by
        rw [hrun, guard, Exec.on_bind_error hcheck])
      cases (hrefused .noArgument).trans (hrefused .noMemory).symm
    · rintro ⟨ha, -⟩
      cases hscrutiny.unique hn (.admitted ha)
  · have hguard (call : Caller) : (c.run args [] call).on s =
        (do let v ← call c.implementation args; c.checkResult v; return v : Exec Value).on t' := by
      rw [hrun, guard, Exec.on_bind_ok hcheck]
    cases hscrutiny with
    | admitted ha =>
      constructor
      · intro h
        have heq := (h fun _ _ => Exec.fail .noArgument).symm.trans (hguard _)
        exact ⟨ha, congrArg Prod.snd heq⟩
      · rintro ⟨-, rfl⟩
        exact hguard

end Checked

/-- A call by position with as many arguments as expected has the outcome that its scrutiny gives it, and
    no other, whatever its arguments answer when they are compared; and it goes on with the implementation
    just where every argument is given a tag that is expected, and again one that is not NaN, and none is
    missing, after the comparisons of both passes. -/
theorem scrutinizedCall_invoke (id : ObjectId) (c : Checked Value) {args : List Value}
    (hn : args.length = c.signature.arity) (depth : Nat) (s : Store) :
    (∀ x, ScrutinizedCall c args (invoke depth c.implementation args []) s x ↔
      x = (invoke (depth + 1) (.checked id c) args []).on s) ∧
    ∀ t, c.Reaches args s t ↔
      Admitted c s args ∧ t = s.compared (args.filter Value.isCompared ++ args.filter Value.isCompared) := by
  have hcall : ScrutinizedCall c args (invoke depth c.implementation args []) s
      ((invoke (depth + 1) (.checked id c) args []).on s) :=
    Checked.scrutinizedCall_guard hn (byPosition (invoke depth) c.implementation) s
  refine ⟨fun x => ⟨fun hx => hx.unique hn hcall, ?_⟩, fun t => Checked.reaches_iff hn⟩
  rintro rfl
  exact hcall

/-- A number by its class that is NaN from the third comparison on. -/
def fickle : Value := .custom 5 ⟨"Fickle", none, none, ⟨true, false, false, none⟩, some ⟨.truth false, [.truth false, .truth true]⟩⟩

/-- At two positions it passes the check of tags twice, and is NaN when it is first looked at again. -/
theorem scrutinizedCall_invoke_fickle :
    let c : Checked Value := ⟨⟨[.number, .number], .number⟩, .null, .ofString "f", .empty⟩
    let x : Except Stop Value × Store :=
      (.error (.failed (.report (.nanDetected (.ofString "f") (.ofInt 0) (.tag .number)))),
        Store.initial.compared [fickle, fickle, fickle])
    [fickle, fickle].length = c.signature.arity ∧
      (invoke 2 (.checked 3 c) [fickle, fickle] []).on .initial = x ∧
      ScrutinizedCall c [fickle, fickle] (invoke 1 c.implementation [fickle, fickle] []) .initial x ∧
      ∀ t, ¬c.Reaches [fickle, fickle] .initial t := by
  intro c x
  have hn : [fickle, fickle].length = c.signature.arity := rfl
  have hx : (invoke 2 (.checked 3 c) [fickle, fickle] []).on .initial = x := rfl
  obtain ⟨houtcome, hreaches⟩ := scrutinizedCall_invoke 3 c hn 1 .initial
  refine ⟨hn, hx, (houtcome x).mpr hx.symm, fun t ht => ?_⟩
  obtain ⟨u, hu, hne⟩ := ((hreaches t).mp ht).1.noNaN 0 .number fickle rfl rfl
  cases hu
  exact hne rfl

end CallGuard
