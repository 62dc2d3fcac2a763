import CallGuard.Proofs.LogAccount

/-! Modules that mark their signatures with another character. Adding a marker to keys and taking it off are
    undone by each other under every marker, so that functions find the same signatures and signatures the
    same functions. Wrapping fails under both markers, with the same failure, or comes to the same value
    under both; and but for the keys of the signatures that have no function, the same is told
    (`sameUpToMarker_wrap`). -/

namespace CallGuard

/-- An entry of a module, and the one in its place if signatures are marked otherwise: a signature stands under
    its name and the other marker, and an entry whose key ends with neither marker stays as it is. -/
inductive Remarked (m m' : String) : Entry → Entry → Prop
  | signature {e e' : Entry} (name : String) (ht : e.text = name ++ m) (ht' : e'.text = name ++ m')
    (hnamed : e'.IsNamed) (hvalue : e'.value = e.value) : Remarked m m' e e'
  | other {e : Entry} (h : endsWith m e.text = false) (h' : endsWith m' e.text = false) : Remarked m m' e e

/-- Two outcomes of wrapping a module on a store, its signatures marked differently: they are the same, but
    for the keys under which signatures without a function are told of. -/
inductive SameUpToMarker (m m' : String) (es es' : List Entry) (s : Store) :
    Except Stop Value × Store → Except Stop Value × Store → Prop
  | failed {failure : Failure} {n : ObjectId} {rs : List LogRecord} :
    SameUpToMarker m m' es es' s (.error (.failed failure), { s with next := n, logs := s.logs ++ rs })
      (.error (.failed failure), { s with next := n, logs := s.logs ++ rs })
  | made {id n : ObjectId} {ps : List (Value × Value)} {rs : List LogRecord} (hrs : ∀ r ∈ rs, r.isOrphan = false)
    (horphans : List.Forall₂ (Remarked m m') (Module.orphans m es) (Module.orphans m' es')) :
    SameUpToMarker m m' es es' s
      (.ok (.mapping id .plain ps),
        { s with next := n, logs := s.logs ++ rs ++ (Module.orphans m es).map fun e => .orphan e.key })
      (.ok (.mapping id .plain ps),
        { s with next := n, logs := s.logs ++ rs ++ (Module.orphans m' es').map fun e => .orphan e.key })

section
variable {m m' : String} {e e' : Entry}

theorem endsWith_of_eq_append {t name : String} (h : t = name ++ m) : endsWith m t = true :=
  h ▸ Module.endsWith_append name m

theorem Remarked.isNamed (h : Remarked m m' e e') (he : e.IsNamed) : e'.IsNamed := by
  cases h with
  | signature _ _ _ hnamed => exact hnamed
  | other => exact he

theorem Remarked.role_eq (h : Remarked m m' e e') : e'.role m' = e.role m := by
  cases h with
  | signature _ ht ht' =>
    rw [Module.role_of_endsWith (endsWith_of_eq_append ht), Module.role_of_endsWith (endsWith_of_eq_append ht')]
  | other h h' => simp [Entry.role, h, h']

theorem Remarked.value_eq (h : Remarked m m' e e') : e'.value = e.value := by
  cases h with
  | signature _ _ _ _ hvalue => exact hvalue
  | other => rfl

/-- Only signatures change. -/
theorem Remarked.eq_of_role (h : Remarked m m' e e') (hrole : e.role m ≠ .signature) : e' = e := by
  cases h with
  | signature _ ht => exact absurd (Module.role_of_endsWith (endsWith_of_eq_append ht)) hrole
  | other => rfl

/-- An entry stands under a key and the marker if and only if it stands under that key and the other marker. -/
theorem Remarked.under_iff (h : Remarked m m' e e') (key : String) : e.text = key ++ m ↔ e'.text = key ++ m' := by
  cases h with
  | signature _ ht ht' => rw [ht, ht', String.append_left_inj, String.append_left_inj]
  | other h h' =>
    constructor
    · exact fun ht => absurd (endsWith_of_eq_append ht) (by simp [h])
    · exact fun ht' => absurd (endsWith_of_eq_append ht') (by simp [h'])

/-- Different keys stay different. -/
theorem Remarked.text_eq {b b' : Entry} (h : Remarked m m' e e') (hb : Remarked m m' b b') (heq : e'.text = b'.text) :
    e.text = b.text := by
  cases h with
  | signature _ ht ht' => rw [ht, (hb.under_iff _).mpr (heq.symm.trans ht')]
  | other _ h' =>
    cases hb with
    | signature _ _ hb' => exact absurd (endsWith_of_eq_append (heq.trans hb')) (by simp [h'])
    | other => exact heq

end

namespace Module
variable {m m' : String} {es es' : List Entry}

/-! ### Parts of a module -/

theorem ofRole_remarked (h : List.Forall₂ (Remarked m m') es es') (r : Role) :
    List.Forall₂ (Remarked m m') (ofRole m r es) (ofRole m' r es') :=
  List.rel_filter (fun _ _ he => by dsimp only; rw [he.role_eq]) h

theorem eq_of_remarked (h : List.Forall₂ (Remarked m m') es es') (hes : ∀ e ∈ es, e.role m ≠ .signature) : es' = es := by
  induction h with
  | nil => rfl
  | cons he _ ih =>
    obtain ⟨hrole, hes⟩ := List.forall_mem_cons.mp hes
    rw [he.eq_of_role hrole, ih hes]

/-- Functions and data are the same under both markers. -/
theorem ofRole_eq (h : List.Forall₂ (Remarked m m') es es') {r : Role} (hr : r ≠ .signature) :
    ofRole m' r es' = ofRole m r es := by
  refine eq_of_remarked (ofRole_remarked h r) fun e he => ?_
  rw [beq_iff_eq.mp (List.mem_filter.mp he).2]
  exact hr

/-- What is under a key and the marker has the same value as what is under that key and the other marker. -/
theorem entryOf?_value (h : List.Forall₂ (Remarked m m') es es') (key : String) :
    (entryOf? es' (key ++ m')).map Entry.value = (entryOf? es (key ++ m)).map Entry.value := by
  induction h with
  | nil => rfl
  | @cons e e' es es' he _ ih =>
    simp only [entryOf?, List.find?_cons] at ih ⊢
    have hunder : (e'.text == key ++ m') = (e.text == key ++ m) := by
      rw [Bool.eq_iff_iff, beq_iff_eq, beq_iff_eq]
      exact (he.under_iff key).symm
    rw [hunder]
    cases e.text == key ++ m with
    | true => exact congrArg some he.value_eq
    | false => exact ih

/-- Functions are wrapped in the same way under both markers. -/
theorem wrapFunction_eq (h : List.Forall₂ (Remarked m m') es es') (call : Caller) (f : Entry) :
    wrapFunction call m' es' f = wrapFunction call m es f := by
  have hvalue := entryOf?_value h f.text
  rw [wrapFunction, wrapFunction, signatureOf?_eq, signatureOf?_eq]
  cases he : entryOf? es (f.text ++ m) with
  | none =>
    rw [he, Option.map_none, Option.map_eq_none_iff] at hvalue
    rw [hvalue]
  | some e =>
    rw [he, Option.map_some, Option.map_eq_some_iff] at hvalue
    obtain ⟨e', he', heq⟩ := hvalue
    rw [he']
    dsimp only
    rw [heq]

theorem wrapFunctions_eq (h : List.Forall₂ (Remarked m m') es es') (call : Caller) (fs : List Entry) :
    wrapFunctions call m' es' fs = wrapFunctions call m es fs := by
  induction fs with
  | nil => rfl
  | cons f fs ih => rw [wrapFunctions, wrapFunctions, wrapFunction_eq h, ih]

theorem isNamed_remarked (h : List.Forall₂ (Remarked m m') es es') (hes : ∀ e ∈ es, e.IsNamed) :
    ∀ e ∈ es', e.IsNamed := by
  intro e' he'
  obtain ⟨e, he, hremarked⟩ := exists_left_of_forall₂ h he'
  exact hremarked.isNamed (hes e he)

/-- Keys that are distinct stay so. -/
theorem nodup_remarked (h : List.Forall₂ (Remarked m m') es es') (distinct : (es.map Entry.text).Nodup) :
    (es'.map Entry.text).Nodup := by
  induction h with
  | nil => exact distinct
  | cons he hes ih =>
    obtain ⟨hnew, distinct⟩ := List.nodup_cons.mp distinct
    refine List.nodup_cons.mpr ⟨fun hmem => hnew ?_, ih distinct⟩
    obtain ⟨b', hb', htext⟩ := List.mem_map.mp hmem
    obtain ⟨b, hb, hremarked⟩ := exists_left_of_forall₂ hes hb'
    exact List.mem_map.mpr ⟨b, hb, hremarked.text_eq he htext⟩

theorem unclaimed_remarked (h : List.Forall₂ (Remarked m m') es es') :
    List.Forall₂ (Remarked m m') (unclaimed m es) (unclaimed m' es') := by
  refine List.rel_filter (fun e e' he => ?_) (ofRole_remarked h .signature)
  have hclaims (f : Entry) : f.claims m' e' = f.claims m e := by
    rw [Entry.claims, Entry.claims, Bool.eq_iff_iff, beq_iff_eq, beq_iff_eq, eq_comm, eq_comm (b := e.text)]
    exact (he.under_iff f.text).symm
  dsimp only
  rw [ofRole_eq h (by decide), funext hclaims]

end Module

namespace Module
variable {c c' : Char} {es es' : List Entry}

theorem orphans_remarked (h : List.Forall₂ (Remarked (String.singleton c) (String.singleton c')) es es') :
    List.Forall₂ (Remarked (String.singleton c) (String.singleton c')) (orphans (String.singleton c) es)
      (orphans (String.singleton c') es') := by
  rw [orphans_eq_unclaimed, orphans_eq_unclaimed]
  exact unclaimed_remarked h

theorem not_isOrphan_of_held {m : String} {es fs : List Entry} {rs : List ((Value × Value) × LogRecord)}
    (hrs : List.Forall₂ (Held m es) fs rs) : ∀ r ∈ rs.map Prod.snd, r.isOrphan = false := by
  have hcount := countP_of_isOrphan hrs (p := LogRecord.isOrphan) fun _ => id
  exact fun r hr => Bool.eq_false_iff.mpr (List.countP_eq_zero.mp hcount r hr)

theorem sameUpToMarker_wrapEntries (h : List.Forall₂ (Remarked (String.singleton c) (String.singleton c')) es es')
    (hes : ∀ e ∈ es, e.IsNamed) (call : Caller) (s : Store) :
    SameUpToMarker (String.singleton c) (String.singleton c') es es' s
      ((do newMapping (← wrapEntries call (String.singleton c) es) : Exec Value).on s)
      ((do newMapping (← wrapEntries call (String.singleton c') es') : Exec Value).on s) := by
  have named : ∀ f ∈ ofRole (String.singleton c) .function es, f.IsNamed := fun f hf => hes f (mem_of_mem_ofRole hf)
  have hfunctions := wrapFunctions_eq h call (ofRole (String.singleton c) .function es)
  rcases wrapFunctions_on (String.singleton c) es call _ named s with
    ⟨before, f, after, rs, failure, n, -, -, -, hon⟩ | ⟨rs, n, hrs, hon⟩
  · have hon' := hfunctions ▸ hon
    rw [← ofRole_eq h (by decide)] at hon'
    rw [Exec.on_bind_error (by rw [wrapEntries, Exec.on_bind_error hon]),
      Exec.on_bind_error (by rw [wrapEntries, Exec.on_bind_error hon'])]
    exact .failed
  · have hon' := hfunctions ▸ hon
    rw [← ofRole_eq h (by decide)] at hon'
    have hkeys := held_isText hrs named
    rw [on_wrapEntries_ok hes hon hkeys, on_wrapEntries_ok (isNamed_remarked h hes) hon' hkeys,
      ofRole_eq h (by decide)]
    exact .made (not_isOrphan_of_held hrs) (orphans_remarked h)

end Module

/-- Whatever two characters mark the signatures of a module whose keys are texts, wrapping it fails with the
    same failure or comes to the same value, on every store and however values are called. As much is told
    as well, where a signature without a function is told of under its own key. Keys that are distinct under
    one marker are distinct under the other. -/
theorem sameUpToMarker_wrap {spec spec' : Value} {es es' : List Entry}
    (hspec : spec.entries? = some (es.map Entry.pair)) (hspec' : spec'.entries? = some (es'.map Entry.pair))
    (hes : ∀ e ∈ es, e.IsNamed) {marker marker' : Value} {c c' : Char} {s : Store} (hm : Marks s marker c)
    (hm' : Marks s marker' c')
    (hremarked : List.Forall₂ (Remarked (String.singleton c) (String.singleton c')) es es') (call : Caller) :
    SameUpToMarker (String.singleton c) (String.singleton c') es es' s ((Module.wrap call spec marker).on s)
      ((Module.wrap call spec' marker').on s) ∧
    ((es.map Entry.text).Nodup → (es'.map Entry.text).Nodup) := by
  rw [Module.on_wrap hspec hes hm, Module.on_wrap hspec' (Module.isNamed_remarked hremarked hes) hm']
  exact ⟨Module.sameUpToMarker_wrapEntries hremarked hes call s, Module.nodup_remarked hremarked⟩

/-- The module with a signature too many, its signatures marked with a dollar sign. -/
def dollarModule : List Entry :=
  (mixedModule.set 0 ⟨.text 31 "lost$", "lost$", .list [.text 22 "Number"]⟩).set 2
    ⟨.text 33 "scale$", "scale$", .list [.text 14 "Number", .text 14 "Number"]⟩

/-- The signature without a function is told of under the key that it has. -/
theorem sameUpToMarker_wrap_dollar :
    let spec : Value := .mapping 25 .plain (mixedModule.map Entry.pair)
    let spec' : Value := .mapping 35 .plain (dollarModule.map Entry.pair)
    let x := (Module.wrap caller spec .null).on .initial
    let x' := (Module.wrap caller spec' (.text 36 "$")).on .initial
    spec.entries? = some (mixedModule.map Entry.pair) ∧ spec'.entries? = some (dollarModule.map Entry.pair) ∧
      (∀ e ∈ mixedModule, e.IsNamed) ∧ Marks .initial .null '_' ∧ Marks .initial (.text 36 "$") '$' ∧
      List.Forall₂ (Remarked (String.singleton '_') (String.singleton '$')) mixedModule dollarModule ∧
      SameUpToMarker (String.singleton '_') (String.singleton '$') mixedModule dollarModule .initial x x' ∧
      x.2.logs = [.wrapping (.text 11 "scale") ⟨[.number], .number⟩, .unsigned (.text 23 "plain"),
        .orphan (.text 21 "lost_")] ∧
      x'.2.logs = [.wrapping (.text 11 "scale") ⟨[.number], .number⟩, .unsigned (.text 23 "plain"),
        .orphan (.text 31 "lost$")] := by
  intro spec spec' x x'
  have hspec : spec.entries? = some (mixedModule.map Entry.pair) := rfl
  have hspec' : spec'.entries? = some (dollarModule.map Entry.pair) := rfl
  have hes := isNamed_mixedModule
  have hm : Marks .initial .null '_' := .inForce
  have hm' : Marks .initial (.text 36 "$") '$' := .given rfl rfl rfl
  have hremarked : List.Forall₂ (Remarked (String.singleton '_') (String.singleton '$')) mixedModule dollarModule := by
    refine .cons (.signature "lost" rfl rfl ⟨rfl, rfl⟩ rfl) (.cons (.other rfl rfl) ?_)
    refine .cons (.signature "scale" rfl rfl ⟨rfl, rfl⟩ rfl) (.cons (.other rfl rfl) ?_)
    exact .cons (.other rfl rfl) .nil
  obtain ⟨hsame, -⟩ := sameUpToMarker_wrap hspec hspec' hes hm hm' hremarked caller
  exact ⟨hspec, hspec', hes, hm, hm', hremarked, hsame, rfl, rfl⟩

end CallGuard
