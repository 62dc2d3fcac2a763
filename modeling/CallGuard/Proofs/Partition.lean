import CallGuard.Proofs.Scrutiny

/-! Classification without an order of tests. What a value is called depends on what it is and, for a
    number, on what it answers when it is asked whether it is NaN: a decimal gives an account of itself,
    any other number is compared with itself. The categories overlap as long as only what a value is is
    looked at, and each value falls in exactly one of them as they are told apart here (`Falls`). Classifying
    finds it, asks once at most, and fails only as the answer does (`classification_iff`). -/

namespace CallGuard

namespace Value
variable {v : Value} {s : Store} {t : Tag}

/-! ### The answer of a number -/

/-- What a value answers to the question whether it is NaN. -/
def nanAnswer (v : Value) (s : Store) : Except Failure Bool := v.selfTest.outcome (v.comparisonsIn s)

/-- The comparisons that asking a number makes: a decimal is not compared. -/
def askings (v : Value) : List Value := if v.isDecimal then [] else [v]

/-- A decimal that gives its own account of whether it is NaN, also where its class is built on decimals. -/
inductive Accounts (d : Decimal) : Value → Prop
  | plain (i : ObjectId) : Accounts d (.decimal i d)
  | derived (i j : ObjectId) {className : String} {items : Option (List Value)} {traits : AddedTraits}
    {replies : Option Replies} (h : traits.replacesNaN = none) :
    Accounts d (.custom i ⟨className, some (.decimal j d), items, traits, replies⟩)

theorem Accounts.isDecimal {d : Decimal} (h : Accounts d v) : v.isDecimal = true := by
  cases h <;> rfl

theorem Accounts.number {d : Decimal} (h : Accounts d v) : v.traits.number = true := by
  cases h <;> rfl

theorem Accounts.nanAnswer {d : Decimal} (h : Accounts d v) (s : Store) : v.nanAnswer s = .ok d.isNaN := by
  cases h with
  | plain i => rfl
  | derived i j h => simp [Value.nanAnswer, selfTest, h, SelfTest.outcome, Reply.outcome]

theorem className_of_nanAnswer {f : Failure} (h : v.nanAnswer s = .error f) : f.className ≠ "UnknownTypeError" := by
  have reply {r : Reply} (hr : r.outcome = .error f) : f.className ≠ "UnknownTypeError" := by
    cases r with
    | truth b => cases hr
    | raised e =>
      obtain ⟨family, text⟩ := e
      cases hr
      cases family <;> simp [Failure.ofThrown, Failure.className, Report.ofText, Report.family, ReportClass.text,
        ThrownClass.text]
    | ambiguous a =>
      cases hr
      simp [Failure.ambiguous, Failure.className, ComparisonFault.className]
  unfold Value.nanAnswer at h
  cases hself : v.selfTest with
  | account answer => exact reply (hself ▸ h)
  | replies rs => exact reply (hself ▸ h)
  | comparison unequal =>
    rw [hself] at h
    cases h
  | ambiguous a =>
    rw [hself] at h
    cases h
    simp [Failure.ambiguous, Failure.className, ComparisonFault.className]

/-! ### Comparing a number with itself -/

theorem agreesAsNumber_finite (q : Rat) : agreesAsNumber (.finite q, .zero) (.finite q, .zero) = true := by
  simp [agreesAsNumber, Extended.agrees, Extended.zero]

theorem agrees_extended (r : Real) : r.extended.agrees r.extended = !r.isNaN := by
  rw [← Bool.not_inj_iff, Bool.not_not, Bool.eq_iff_iff, ← Real.extended_eq_undefined_iff,
    ← Extended.agrees_self_eq_false_iff, Bool.not_eq_true']

theorem agreesAsNumber_real (r : Real) :
    agreesAsNumber (r.extended, .zero) (r.extended, .zero) = !r.isNaN := by
  have hzero : Extended.zero.agrees .zero = true := by decide
  simp [agreesAsNumber, agrees_extended, hzero]

theorem agreesAsNumber_parts (re im : Real) :
    agreesAsNumber (re.extended, im.extended) (re.extended, im.extended) = !(re.isNaN || im.isNaN) := by
  simp [agreesAsNumber, agrees_extended]

theorem partsBeside_scalar (i j : ObjectId) (x : Scalar) (p : Extended × Extended) :
    partsBeside (.scalar i x) (.scalar j x) p = p := by
  cases x <;> rfl

theorem scalarEqual_self (i : ObjectId) {x : Scalar} (h : x.isNumber = true) :
    scalarEqual .rounded x (.scalar i x) = .ok !x.isNaN := by
  have numbers {p : Extended × Extended} (hp : x.number? = some p) :
      (numbersEqual? .rounded (.scalar 0 x) (.scalar i x)).getD (.ok false) = .ok (agreesAsNumber p p) := by
    have hparts (j : ObjectId) : (Value.scalar j x).number? = some p := hp
    simp [numbersEqual?, hparts, partsBeside_scalar, isSignalling, core]
  cases x with
  | duration d => cases d <;> simp [scalarEqual, core, Scalar.isNaN]
  | real w r => exact (numbers rfl).trans (congrArg Except.ok (agreesAsNumber_real r))
  | complex w re im => exact (numbers rfl).trans (congrArg Except.ok (agreesAsNumber_parts re im))
  | integer signed bits n => exact (numbers rfl).trans (congrArg Except.ok (agreesAsNumber_finite n))
  | boolean | text | octets | moment => cases h

/-- A number of no class of its own differs from itself exactly if it is NaN. -/
theorem equal_self (hn : v.traits.number = true) (hd : v.isDecimal = false) (hc : ∀ i c, v ≠ .custom i c) :
    ∃ nan, v.nanAnswer s = .ok nan ∧ v.equal v = .ok !nan := by
  cases v with
  | custom i c => exact absurd rfl (hc i c)
  | decimal i d => cases hd
  | boolean b => exact ⟨false, rfl, congrArg Except.ok (agreesAsNumber_finite _)⟩
  | integer i n => exact ⟨false, rfl, congrArg Except.ok (agreesAsNumber_finite _)⟩
  | fraction i q => exact ⟨false, rfl, congrArg Except.ok (agreesAsNumber_finite _)⟩
  | real i r => exact ⟨r.isNaN, rfl, congrArg Except.ok (agreesAsNumber_real r)⟩
  | complex i re im => exact ⟨re.isNaN || im.isNaN, rfl, congrArg Except.ok (agreesAsNumber_parts re im)⟩
  | scalar i x =>
    have hx : x.isNumber = true := by cases x <;> first | rfl | cases hn
    have hrow : scalarEqualAny .rounded x (.scalar i x) = scalarEqual .rounded x (.scalar i x) := by
      simp [scalarEqualAny, row?, core]
    exact ⟨x.isNaN, rfl, hrow.trans (scalarEqual_self i hx)⟩
  | stock i x =>
    obtain ⟨n, hnature⟩ : ∃ n, x.nature = .number n := by
      revert hn
      simp only [traits, Stock.traits]
      cases x.nature <;> simp
    refine ⟨false, rfl, ?_⟩
    simp [equal, equalIn, stockEqualAny, Stock.tuple?, hnature, atomEqual, core, numbersEqual?, number?, isSignalling,
      partsBeside, partsBeside.beside, agreesAsNumber_finite]
  | _ => cases hn

/-! ### Categories -/

/-- Nothing, and what is not defined. -/
def IsMissing (v : Value) : Prop := v = .null ∨ v = .undefined

/-- A number that says of itself, or shows by comparison, that it is NaN. -/
def IsNaN (v : Value) (s : Store) : Prop := v.traits.number = true ∧ v.nanAnswer s = .ok true

/-- An array of the array library, or a sequence that is no text. -/
def IsArray (v : Value) : Prop := v.traits.array = true ∨ v.traits.sequence = true ∧ v.traits.text = false

/-- What is there, and neither NaN nor an array. -/
structure IsPlain (v : Value) (s : Store) : Prop where
  there : ¬v.IsMissing
  noNaN : ¬v.IsNaN s
  noArray : ¬v.IsArray

/-- A value falls in the category of a tag. -/
def Falls (v : Value) (s : Store) : Tag → Prop
  | .void => False
  | .null => v.IsMissing
  | .nan => v.IsNaN s
  | .array => ¬v.IsMissing ∧ ¬v.IsNaN s ∧ v.IsArray
  | .boolean => v.IsPlain s ∧ v.traits.boolean = true
  | .number => v.IsPlain s ∧ v.traits.boolean = false ∧ v.traits.number = true
  | .string => v.IsPlain s ∧ v.traits.boolean = false ∧ v.traits.number = false ∧ v.traits.text = true
  | .function =>
    v.IsPlain s ∧ v.traits.boolean = false ∧ v.traits.number = false ∧ v.traits.text = false ∧ v.isCallable = true
  | .object =>
    v.IsPlain s ∧ v.traits.boolean = false ∧ v.traits.number = false ∧ v.traits.text = false ∧ v.isCallable = false

theorem missing_iff : v.traits.missing = true ↔ v.IsMissing := by
  have other (hv : v.traits.missing = false) (hnull : v ≠ .null) (hundefined : v ≠ .undefined) :
      v.traits.missing = true ↔ v.IsMissing :=
    iff_of_false (by simp [hv]) fun h => h.elim hnull hundefined
  cases v with
  | null => exact iff_of_true rfl (.inl rfl)
  | undefined => exact iff_of_true rfl (.inr rfl)
  | scalar i x => exact other (by cases x <;> rfl) nofun nofun
  | stock i x => exact other (by simp only [traits, Stock.traits]; split <;> rfl) nofun nofun
  | custom i c =>
    obtain ⟨className, content, items, added, replies⟩ := c
    exact other (by cases content <;> rfl) nofun nofun
  | _ => exact other rfl nofun nofun

theorem number_of_isMissing (h : v.IsMissing) : v.traits.number = false := by
  rcases h with rfl | rfl <;> rfl

theorem isAsked_eq (v : Value) : v.isAsked = v.traits.number := by
  cases hm : v.traits.missing with
  | false => simp [isAsked, hm]
  | true => simp [isAsked, number_of_isMissing (missing_iff.mp hm)]

/-- The tests in their order come to the categories. -/
theorem falls_iff {nan : Bool} (hnan : v.IsNaN s ↔ v.traits.number = true ∧ nan = true) :
    v.Falls s t ↔ v.traits.tag nan = t := by
  have hm := missing_iff (v := v)
  have hnumber := number_of_isMissing (v := v)
  have ha : v.traits.isArray = true ↔ v.IsArray := by simp [Traits.isArray, IsArray]
  have hp : v.IsPlain s ↔ v.traits.missing = false ∧ (v.traits.number && nan) = false ∧ v.traits.isArray = false := by
    rw [← Bool.not_eq_true, ← Bool.not_eq_true, ← Bool.not_eq_true, hm, ha, Bool.and_eq_true, ← hnan]
    exact ⟨fun h => ⟨h.there, h.noNaN, h.noArray⟩, fun ⟨h, h', h''⟩ => ⟨h, h', h''⟩⟩
  constructor
  · -- A category rules out the tests before its own.
    intro h
    cases t <;> simp_all [Falls, Traits.tag, isCallable]
  · -- A test is reached where those before it have failed.
    rintro rfl
    unfold Traits.tag
    repeat' split
    all_goals simp_all [Falls, isCallable]

/-- Every value falls in exactly one category, whatever it answers. -/
theorem existsUnique_falls (v : Value) (s : Store) : ∃! t, v.Falls s t := by
  obtain ⟨nan, hnan⟩ : ∃ nan, v.IsNaN s ↔ v.traits.number = true ∧ nan = true := by
    by_cases h : v.IsNaN s
    · exact ⟨true, iff_of_true h ⟨h.1, rfl⟩⟩
    · exact ⟨false, iff_of_false h (by simp)⟩
  exact ⟨v.traits.tag nan, (falls_iff hnan).mpr rfl, fun t ht => ((falls_iff hnan).mp ht).symm⟩

theorem Falls.unique {u : Tag} (ht : v.Falls s t) (hu : v.Falls s u) : t = u := (existsUnique_falls v s).unique ht hu

end Value

/-! ### Classification -/

/-- What classifying a value on a store comes to, and what it leaves on record. -/
inductive Classification (v : Value) (s : Store) : Except Stop Tag × Store → Prop
  | unasked {t : Tag} (hn : v.traits.number = false) (ht : v.Falls s t) : Classification v s (.ok t, s)
  | answered {t : Tag} {nan : Bool} (hn : v.traits.number = true) (ha : v.nanAnswer s = .ok nan)
    (ht : v.Falls s t) : Classification v s (.ok t, s.compared v.askings)
  | unanswered {f : Failure} (hn : v.traits.number = true) (ha : v.nanAnswer s = .error f) :
    Classification v s (.error (.failed f), s.compared v.askings)

namespace Value
variable {v : Value} {s : Store}

theorem on_classify_of_number (hn : v.traits.number = true) :
    v.classify.on s = (((v.nanAnswer s).map v.traits.tag).mapError .failed, s.compared v.askings) := by
  have hcomparisons : v.selfComparisons = v.askings := by
    rw [selfComparisons, isAsked_eq, hn, compares_selfTest, askings]
    cases v.isDecimal <;> rfl
  rw [on_classify, hcomparisons, tagAfter, isAsked_eq, hn]
  rfl

theorem on_classify_of_not_number (hn : v.traits.number = false) :
    v.classify.on s = (.ok (v.traits.tag false), s) := by
  rw [on_classify, tagAfter, selfComparisons, isAsked_eq, hn]
  exact congrArg _ (Store.compared_nil s)

theorem Accounts.on_classify {d : Decimal} (h : Accounts d v) (s : Store) :
    ∃ t, v.classify.on s = (.ok t, s) ∧ (t = .nan ↔ d.isNaN = true) := by
  have hnan : v.IsNaN s ↔ v.traits.number = true ∧ d.isNaN = true := by simp [IsNaN, h.number, h.nanAnswer s]
  refine ⟨v.traits.tag d.isNaN, ?_, ?_⟩
  · rw [on_classify_of_number h.number, h.nanAnswer s, askings, if_pos h.isDecimal, Store.compared_nil]
    rfl
  · rw [← falls_iff hnan, Falls, hnan, and_iff_right h.number]

theorem classification_classify (v : Value) (s : Store) : Classification v s (v.classify.on s) := by
  cases hn : v.traits.number with
  | false =>
    have hnan : v.IsNaN s ↔ v.traits.number = true ∧ false = true := iff_of_false (by simp [IsNaN, hn]) (by simp)
    rw [on_classify_of_not_number hn]
    exact .unasked hn ((falls_iff hnan).mpr rfl)
  | true =>
    rw [on_classify_of_number hn]
    cases ha : v.nanAnswer s with
    | error f => exact .unanswered hn ha
    | ok nan =>
      have hnan : v.IsNaN s ↔ v.traits.number = true ∧ nan = true := by simp [IsNaN, hn, ha]
      exact .answered hn ha ((falls_iff hnan).mpr rfl)

end Value

theorem Classification.unique {v : Value} {s : Store} {x y : Except Stop Tag × Store} (hx : Classification v s x)
    (hy : Classification v s y) : x = y := by
  cases hx with
  | unasked hn ht =>
    cases hy with
    | unasked _ hu => rw [ht.unique hu]
    | answered hn' | unanswered hn' => cases hn.symm.trans hn'
  | answered hn ha ht =>
    cases hy with
    | unasked hn' => cases hn.symm.trans hn'
    | answered _ _ hu => rw [ht.unique hu]
    | unanswered _ hb => cases ha.symm.trans hb
  | unanswered hn ha =>
    cases hy with
    | unasked hn' => cases hn.symm.trans hn'
    | answered _ hb => cases ha.symm.trans hb
    | unanswered _ hb =>
      cases ha.symm.trans hb
      rfl

/-- Classifying a value comes to what its category and its answer say, and to nothing else: the categories
    share no value and leave none out. A number is asked once, and compared unless it is a decimal; only
    its answer can be an error, which passes as it is and is no report of an unknown type. A decimal with
    an account of its own is given a tag, signalling or not; a number of no class of its own is NaN exactly
    if it does not equal itself. -/
theorem classification_iff (v : Value) (s : Store) :
    (∀ x, Classification v s x ↔ x = v.classify.on s) ∧
    (∃! t, v.Falls s t) ∧ ¬v.Falls s .void ∧
    (∀ f, v.nanAnswer s = .error f → f.className ≠ "UnknownTypeError") ∧
    (∀ d, v.Accounts d → ∃ t, v.classify.on s = (.ok t, s) ∧ (t = .nan ↔ d.isNaN = true)) ∧
    (v.traits.number = true → v.isDecimal = false → (∀ i c, v ≠ .custom i c) →
      ∃ nan, v.nanAnswer s = .ok nan ∧ v.equal v = .ok !nan) := by
  exact ⟨fun x => ⟨fun hx => hx.unique (v.classification_classify s), fun hx => hx ▸ v.classification_classify s⟩,
    v.existsUnique_falls s, id, fun f => Value.className_of_nanAnswer, fun d hd => hd.on_classify s, Value.equal_self⟩

/-- A signalling decimal of a class of its own that is also a sequence, and the undefined binary number. -/
theorem classification_iff_signalling :
    let d : Decimal := .nan false true 0
    let v : Value := .custom 1 ⟨"Amount", some (.decimal 0 d), none, ⟨false, true, false, none⟩, none⟩
    let w : Value := .real 2 .nan
    v.Accounts d ∧ v.IsArray ∧ (∃ t, v.classify.on .initial = (.ok t, .initial) ∧ (t = .nan ↔ d.isNaN = true)) ∧
      w.traits.number = true ∧ w.isDecimal = false ∧ (∀ i c, w ≠ .custom i c) ∧
      ∃ nan, w.nanAnswer .initial = .ok nan ∧ w.equal w = .ok !nan := by
  intro d v w
  have hv : v.Accounts d := .derived 1 0 rfl
  have hw : ∀ i c, w ≠ .custom i c := by simp [w]
  obtain ⟨-, -, -, -, hdecimal, -⟩ := classification_iff v .initial
  obtain ⟨-, -, -, -, -, hplain⟩ := classification_iff w .initial
  exact ⟨hv, .inr ⟨rfl, rfl⟩, hdecimal d hv, rfl, rfl, hw, hplain rfl rfl hw⟩

end CallGuard
