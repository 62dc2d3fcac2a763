import CallGuard.Proofs.Towers

/-! Every part of a signature shows. Two signatures check alike if no call tells functions apart that are
    wrapped with them, whatever is wrapped, however it is named and whatever it is called with. They do only
    if they are the same, or expect the same arguments and a NaN among them: no call with such an argument
    gets through to the implementation, and the tag of the result is never looked at
    (`checksAlike_iff`). The calls that tell signatures apart are made of specimens, one value for each tag. -/

namespace CallGuard

/-! ### Specimens -/

namespace Tag

/-- A value that is accepted where a tag is expected. -/
def specimen : Tag → Atom
  | null => .null
  | nan => .real .nan
  | array => .range 0 0 1
  | number => .fraction 0
  | string => .tag .string
  | boolean => .boolean true
  | function => .stock (Stock.function "len")
  | object => .kind .argumentCount
  | void => .null

/-- The tag of a specimen: the tag that is expected, and for the wildcard that of nothing. -/
def concrete (t : Tag) : Tag := if t = .void then .null else t

theorem concrete_of_ne {t : Tag} (h : t ≠ .void) : t.concrete = t := if_neg h

theorem concrete_eq_nan_iff {t : Tag} : t.concrete = .nan ↔ t = .nan := by cases t <;> decide

theorem specimen_ne_undefined (t : Tag) (id : ObjectId) : t.specimen.toValue id ≠ .undefined := by
  cases t <;> exact nofun

theorem keepsTag_specimen (t : Tag) (id : ObjectId) (s : Store) :
    (t.specimen.toValue id).KeepsTag s t.concrete := by
  intro ws
  cases t <;> rfl

theorem exists_other (t : Tag) : ∃ u : Tag, u ≠ .void ∧ u ≠ t := by
  cases t with
  | null => exact ⟨.boolean, by decide⟩
  | _ => exact ⟨.null, by decide⟩

end Tag

/-- Specimens of tags in a row. -/
def specimens (ts : List Tag) : List Value := ts.map fun t => t.specimen.toValue 0

theorem keepsTags_specimens (ts : List Tag) (s : Store) :
    List.Forall₂ (Value.KeepsTag s) (specimens ts) (ts.map Tag.concrete) := by
  rw [specimens, List.forall₂_map_left_iff, List.forall₂_map_right_iff]
  exact List.forall₂_same.mpr fun t _ => t.keepsTag_specimen 0 s

/-- A function that returns a specimen of a tag, whatever it is called with. -/
def constantly (t : Tag) : Value := .routine 0 ⟨"constantly", .empty, .constant (.atom t.specimen)⟩

theorem invoke_constantly (t : Tag) (args : List Value) (s : Store) :
    (invoke 1 (constantly t) args []).on s =
      (.ok (t.specimen.toValue s.next), { s with calls := s.calls ++ [(0, args)], next := s.next + 1 }) := rfl

theorem returnsStably_constantly (t : Tag) (args : List Value) (s : Store) :
    ReturnsStably args s (invoke 1 (constantly t) args []) := by
  intro s' v u _ hrun
  rw [invoke_constantly] at hrun
  cases hrun
  exact ⟨_, t.keepsTag_specimen _ _⟩

/-! ### Signatures that check alike -/

/-- Two signatures check alike: functions that are wrapped with them, one like the other, answer every call
    alike whose arguments keep their tags and whose implementation returns what keeps its tag. -/
def ChecksAlike (sig sig' : Signature) : Prop :=
  ∀ (call : Caller) (written written' f name : Value) (s₀ t t' : Store) (g g' : Value),
    Signature.read written = .ok sig → Signature.read written' = .ok sig' →
    (Value.wrap call written f name).on s₀ = (.ok g, t) → (Value.wrap call written' f name).on s₀ = (.ok g', t') →
    ∀ (args : List Value) (tags : List Tag) (s : Store) (depth : Nat), List.Forall₂ (Value.KeepsTag s) args tags →
      ReturnsStably args s (invoke depth f args []) →
      ((invoke (depth + 1) g args []).on s).1 = ((invoke (depth + 1) g' args []).on s).1

theorem ChecksAlike.symm {sig sig' : Signature} (h : ChecksAlike sig sig') : ChecksAlike sig' sig :=
  fun call w w' f name s₀ t t' g g' hw hw' hg hg' args tags s depth hargs hstable =>
    (h call w' w f name s₀ t' t g' g hw' hw hg' hg args tags s depth hargs hstable).symm

/-! ### What does not show -/

theorem Admits.nan_notMem_arguments {sig : Signature} {args : List Value} {tags : List Tag} (ha : Admits sig args tags)
    (hlen : args.length = tags.length) : .nan ∉ sig.arguments := by
  intro hnan
  obtain ⟨i, hi⟩ := List.mem_iff_getElem?.mp hnan
  have hlt : i < tags.length := hlen ▸ ha.count ▸ (List.getElem?_eq_some_iff.mp hi).1
  have hu := List.getElem?_eq_getElem hlt
  exact ha.typed i ⟨.nan, _, hi, hu, by decide, fun h => ha.noNaN (h ▸ List.mem_of_getElem? hu)⟩

/-- Violations of arguments do not depend on the tag of the result. -/
theorem FirstViolation.of_arguments_eq {sig sig' : Signature} {name : Value} {args : List Value} {tags : List Tag}
    {r : Report} (h : sig.arguments = sig'.arguments) (hr : FirstViolation sig name args tags r) :
    FirstViolation sig' name args tags r := by
  obtain ⟨ts, u⟩ := sig
  obtain ⟨ts', u'⟩ := sig'
  cases (h : ts = ts')
  cases hr with
  | count hn => exact .count hn
  | type hn ht hu hvoid hne least => exact .type hn ht hu hvoid hne least
  | nan hn typed ht hu least => exact .nan hn typed ht hu least
  | undefined hn typed noNaN ht hv least => exact .undefined hn typed noNaN ht hv least

theorem invoke_violated {c : Checked Value} {args : List Value} {tags : List Tag} {s : Store} {r : Report}
    (hargs : List.Forall₂ (Value.KeepsTag s) args tags) (hr : FirstViolation c.signature c.name args tags r)
    (id : ObjectId) (depth : Nat) :
    ((invoke (depth + 1) (.checked id c) args []).on s).1 = .error (.failed (.report r)) := by
  obtain ⟨t, ht, -⟩ := Checked.guard_violated hargs hr (byPosition (invoke depth) c.implementation)
  exact congrArg Prod.fst ht

/-- Where a NaN is expected no call gets through, and the tag of the result does not show. -/
theorem checksAlike_of_nan {sig sig' : Signature} (h : sig.arguments = sig'.arguments) (hnan : .nan ∈ sig.arguments) :
    ChecksAlike sig sig' := by
  intro call w w' f name s₀ t t' g g' hw hw' hg hg' args tags s depth hargs _
  obtain ⟨id, display, m, u, hdisplay, rfl⟩ := Value.wrap_eq_ok hw hg
  obtain ⟨id', display', m', u', hdisplay', rfl⟩ := Value.wrap_eq_ok hw' hg'
  cases hdisplay.symm.trans hdisplay'
  rcases firstViolation_or_admits sig display hargs.length_eq with ⟨r, hr⟩ | ha
  · rw [invoke_violated hargs hr, invoke_violated hargs (hr.of_arguments_eq h)]
  · exact absurd hnan (ha.nan_notMem_arguments hargs.length_eq)

/-- A signature checks like itself, however it is written. -/
theorem ChecksAlike.refl (sig : Signature) : ChecksAlike sig sig := by
  intro call w w' f name s₀ t t' g g' hw hw' hg hg' args tags s depth _ _
  rw [Value.wrap_congr (hw'.trans hw.symm)] at hg'
  cases hg.symm.trans hg'
  rfl

/-! ### What shows -/

/-- What a call comes to whose implementation returns a value of a tag. -/
inductive ConstantOutcome (sig : Signature) (name : Value) (args : List Value) (tags : List Tag) (u : Tag) :
    Except Stop Value → Prop
  | violated {r : Report} (hr : FirstViolation sig name args tags r) :
    ConstantOutcome sig name args tags u (.error (.failed (.report r)))
  | misreturned {r : Report} (ha : Admits sig args tags) (hr : ResultViolation sig name u r) :
    ConstantOutcome sig name args tags u (.error (.failed (.report r)))
  | returned {v : Value} (ha : Admits sig args tags) (hr : AdmitsResult sig u) :
    ConstantOutcome sig name args tags u (.ok v)

/-- The name of the functions by which signatures are told apart. -/
def probe : Value := .ofString "probe"

theorem constantOutcome_guard {c : Checked Value} {args : List Value} {tags : List Tag} {s : Store}
    (hargs : List.Forall₂ (Value.KeepsTag s) args tags) {u : Tag} (hf : c.implementation = constantly u)
    (id : ObjectId) :
    ConstantOutcome c.signature c.name args tags u.concrete ((invoke 2 (.checked id c) args []).on s).1 := by
  have hcall : CallOutcome c args tags (invoke 1 c.implementation args []) s
      ((invoke 2 (.checked id c) args []).on s) :=
    callOutcome_guard hargs c (byPosition (invoke 1) c.implementation)
  rw [hf] at hcall
  have htag {v : Value} {t w w' : Store} {tag : Except Stop Tag}
      (hrun : (invoke 1 (constantly u) args []).on t = (.ok v, w)) (hv : v.classify.on w = (tag, w')) :
      tag = .ok u.concrete := by
    rw [invoke_constantly] at hrun
    cases hrun
    rw [(u.keepsTag_specimen _ _).on_classify] at hv
    exact (congrArg Prod.fst hv).symm
  generalize (invoke 2 (.checked id c) args []).on s = x at hcall
  cases hcall with
  | violated hr => exact .violated hr
  | raised ha hs hrun =>
    rw [invoke_constantly] at hrun
    cases hrun
  | unclassified ha hs hrun hv => cases htag hrun hv
  | misreturned ha hs hrun hv hr =>
    cases htag hrun hv
    exact .misreturned ha hr
  | returned ha hs hrun hv hr =>
    cases htag hrun hv
    exact .returned ha hr

/-- Reports of results are no reports of arguments. -/
theorem FirstViolation.not_resultViolation {sig sig' : Signature} {name name' : Value} {args : List Value}
    {tags : List Tag} {u : Tag} {r : Report} (hr : FirstViolation sig name args tags r) :
    ¬ResultViolation sig' name' u r := by
  intro hr'
  cases hr <;> cases hr'

theorem FirstViolation.length_ne {sig : Signature} {name name' expected actual : Value} {args : List Value}
    {tags : List Tag} {r : Report} (hr : FirstViolation sig name args tags r)
    (h : r = .argumentCount expected actual name') : args.length ≠ sig.arity := by
  cases hr with
  | count hn => exact hn
  | _ => cases h

theorem FirstViolation.expected_of_type {sig : Signature} {name name' : Value} {args : List Value} {tags : List Tag}
    {r : Report} {i : Nat} {t u : Tag} (hr : FirstViolation sig name args tags r)
    (h : r = .argumentType name' (.ofInt i) (.tag t) (.tag u)) : sig.arguments[i]? = some t := by
  cases hr with
  | type hn ht hu hvoid hne least =>
    simp only [Report.argumentType.injEq, Value.ofInt, Value.integer.injEq, Value.tag.injEq, Int.natCast_inj] at h
    obtain ⟨-, ⟨-, rfl⟩, rfl, -⟩ := h
    exact ht
  | _ => cases h

theorem specimens_admitted {sig : Signature} (noNaN : .nan ∉ sig.arguments) :
    Admits sig (specimens sig.arguments) (sig.arguments.map Tag.concrete) where
  count := List.length_map _
  typed := by
    rintro i ⟨t, u, ht, hu, hvoid, hne⟩
    rw [List.getElem?_map, ht] at hu
    cases hu
    exact hne (Tag.concrete_of_ne hvoid)
  noNaN := by
    intro h
    obtain ⟨t, ht, hnan⟩ := List.mem_map.mp h
    exact noNaN (Tag.concrete_eq_nan_iff.mp hnan ▸ ht)
  noUndefined := by
    intro h
    obtain ⟨t, -, hundefined⟩ := List.mem_map.mp h
    exact t.specimen_ne_undefined 0 hundefined

namespace ChecksAlike
variable {sig sig' : Signature}

theorem constantOutcome (h : ChecksAlike sig sig') (ts : List Tag) (u : Tag) :
    ∃ x, ConstantOutcome sig probe (specimens ts) (ts.map Tag.concrete) u.concrete x ∧
      ConstantOutcome sig' probe (specimens ts) (ts.map Tag.concrete) u.concrete x := by
  have hf : (constantly u).isImplementation = true := rfl
  have hname : probe.isText = true := rfl
  obtain ⟨id, m, n, hg⟩ := Value.wrap_readable caller hf hname sig.read_toValue .initial
  obtain ⟨id', m', n', hg'⟩ := Value.wrap_readable caller hf hname sig'.read_toValue .initial
  have hargs := keepsTags_specimens ts .initial
  have hsame := h caller _ _ _ _ _ _ _ _ _ sig.read_toValue sig'.read_toValue hg hg' _ _ .initial 1 hargs
    (returnsStably_constantly u _ _)
  have hx := constantOutcome_guard (c := ⟨sig, constantly u, probe, m⟩) hargs rfl id
  have hx' := constantOutcome_guard (c := ⟨sig', constantly u, probe, m'⟩) hargs rfl id'
  exact ⟨_, hx, hsame ▸ hx'⟩

/-- A violation of one is a violation of the other. -/
theorem firstViolation (h : ChecksAlike sig sig') {ts : List Tag} {r : Report}
    (hr : FirstViolation sig probe (specimens ts) (ts.map Tag.concrete) r) :
    FirstViolation sig' probe (specimens ts) (ts.map Tag.concrete) r := by
  obtain ⟨x, hx, hx'⟩ := h.constantOutcome ts .null
  cases hx with
  | violated hr₁ =>
    cases hr.unique hr₁
    cases hx' with
    | violated hr' => exact hr'
    | misreturned ha' hr' => exact absurd hr' hr.not_resultViolation
  | misreturned ha => exact absurd ha hr.not_admits
  | returned ha => exact absurd ha hr.not_admits

theorem arity_eq (h : ChecksAlike sig sig') : sig.arity = sig'.arity := by
  by_contra hne
  have hlen : (specimens sig'.arguments).length = sig'.arity := List.length_map _
  exact (h.firstViolation (.count (hlen ▸ Ne.symm hne))).length_ne rfl hlen

/-- A tag that one expects the other expects in the same place, unless it is the wildcard: a specimen of
    another tag there is reported with it. -/
theorem expected (h : ChecksAlike sig sig') {i : Nat} {t : Tag} (ht : sig.arguments[i]? = some t) (hvoid : t ≠ .void) :
    sig'.arguments[i]? = some t := by
  obtain ⟨u, hu, hne⟩ := t.exists_other
  have hlt := (List.getElem?_eq_some_iff.mp ht).1
  have hr : FirstViolation sig probe (specimens (sig.arguments.set i u)) ((sig.arguments.set i u).map Tag.concrete)
      (.argumentType probe (.ofInt i) (.tag t) (.tag u)) := by
    refine .type ?_ ht ?_ hvoid hne ?_
    · simp [specimens, Signature.arity]
    · simp [hlt, Tag.concrete_of_ne hu]
    · rintro j hj ⟨t', u', ht', hu', hvoid', hne'⟩
      rw [List.getElem?_map, List.getElem?_set_ne (Nat.ne_of_gt hj), ht'] at hu'
      cases hu'
      exact hne' (Tag.concrete_of_ne hvoid')
  exact (h.firstViolation hr).expected_of_type rfl

theorem arguments_eq (h : ChecksAlike sig sig') : sig.arguments = sig'.arguments := by
  refine List.ext_getElem h.arity_eq fun i hi hi' => ?_
  have ht := List.getElem?_eq_getElem hi
  have ht' := List.getElem?_eq_getElem hi'
  by_cases hvoid : sig.arguments[i] = .void
  · by_contra hne
    have := h.symm.expected ht' fun hvoid' => hne (hvoid.trans hvoid'.symm)
    rw [ht] at this
    exact hne (Option.some.inj this)
  · have := h.expected ht hvoid
    rw [ht'] at this
    exact (Option.some.inj this).symm

/-- Where all arguments are specimens, what the result may be shows. -/
theorem admitsResult (h : ChecksAlike sig sig') (noNaN : .nan ∉ sig.arguments) {u : Tag} (hu : u ≠ .void)
    (hr : AdmitsResult sig u) : AdmitsResult sig' u := by
  have ha := specimens_admitted noNaN
  have ha' := specimens_admitted (h.arguments_eq ▸ noNaN)
  rw [← h.arguments_eq] at ha'
  obtain ⟨x, hx, hx'⟩ := h.constantOutcome sig.arguments u
  rw [Tag.concrete_of_ne hu] at hx hx'
  cases hx with
  | violated hr' => exact absurd ha hr'.not_admits
  | misreturned _ hr' => exact absurd hr hr'.not_admitsResult
  | returned =>
    cases hx' with
    | returned _ hr' => exact hr'

theorem result_eq_void (h : ChecksAlike sig sig') (noNaN : .nan ∉ sig.arguments) (hvoid : sig.result = .void) :
    sig'.result = .void := by
  by_contra hne
  -- The wildcard admits values of two tags, and any other tag only its own.
  have hnull := h.admitsResult noNaN (u := .null) (by decide) (by simp [AdmitsResult, hvoid])
  have hboolean := h.admitsResult noNaN (u := .boolean) (by decide) (by simp [AdmitsResult, hvoid])
  rw [AdmitsResult, if_neg hne] at hnull hboolean
  cases hnull.trans hboolean.symm

theorem result_eq (h : ChecksAlike sig sig') (noNaN : .nan ∉ sig.arguments) : sig.result = sig'.result := by
  by_cases hvoid : sig.result = .void
  · exact hvoid.trans (h.result_eq_void noNaN hvoid).symm
  · have hvoid' : sig'.result ≠ .void := fun hvoid' =>
      hvoid (h.symm.result_eq_void (h.arguments_eq ▸ noNaN) hvoid')
    have hadmits := h.admitsResult noNaN hvoid (by simp [AdmitsResult, hvoid])
    rwa [AdmitsResult, if_neg hvoid'] at hadmits

end ChecksAlike

/-- Two signatures check alike only if they are the same, or if they expect the same arguments and a NaN
    among them. -/
theorem checksAlike_iff (sig sig' : Signature) :
    ChecksAlike sig sig' ↔ sig = sig' ∨ (sig.arguments = sig'.arguments ∧ .nan ∈ sig.arguments) := by
  constructor
  · intro h
    by_cases hnan : .nan ∈ sig.arguments
    · exact .inr ⟨h.arguments_eq, hnan⟩
    · obtain ⟨ts, u⟩ := sig
      obtain ⟨ts', u'⟩ := sig'
      cases (h.arguments_eq : ts = ts')
      cases (h.result_eq hnan : u = u')
      exact .inl rfl
  · rintro (rfl | ⟨harguments, hnan⟩)
    · exact .refl sig
    · exact checksAlike_of_nan harguments hnan

end CallGuard
