import CallGuard.Proofs.Wrapping
import CallGuard.Session
import Mathlib.Data.List.Forall2

/-! What wrapping a module comes to. Signatures are looked up under the key of a function and the marker,
    and nothing else is ever done with them. A function that cannot be wrapped with its signature is
    refused, and the first one in the order of the module decides why the whole fails; if there is none, the
    data is held as it is, and after it the functions, in order, wrapped or as they are
    (`moduleOutcome_wrap`). -/

namespace CallGuard

/-! ### Entries -/

/-- The key of an entry is a text, and its text is that of the entry. -/
structure Entry.IsNamed (e : Entry) : Prop where
  isText : e.key.isText = true
  text : e.key.text? = some e.text

/-- The entry under a key. -/
def entryOf? (es : List Entry) (key : String) : Option Entry := es.find? fun e => e.text == key

/-- A function entry that cannot be wrapped with the signature under its key and the marker. -/
inductive Refused (m : String) (es : List Entry) (f : Entry) : Failure → Prop
  | misused {e : Entry} (he : entryOf? es (f.text ++ m) = some e) (hf : f.value.isImplementation = false) :
    Refused m es f (.misuse .parameter)
  | unreadable {e : Entry} {fault : SignatureFault} (he : entryOf? es (f.text ++ m) = some e)
    (hf : f.value.isImplementation = true) (hr : Signature.read e.value = .error fault) :
    Refused m es f (.signature fault)

/-- What the result holds for a function entry, and what is told of it. -/
inductive Held (m : String) (es : List Entry) (f : Entry) : (Value × Value) × LogRecord → Prop
  | kept (he : entryOf? es (f.text ++ m) = none) : Held m es f (f.pair, .unsigned f.key)
  | wrapped {e : Entry} {id : ObjectId} {sig : Signature} {metadata : Metadata Value}
    (he : entryOf? es (f.text ++ m) = some e) (hf : f.value.isImplementation = true)
    (hr : Signature.read e.value = .ok sig) :
    Held m es f ((f.key, .checked id ⟨sig, f.value, f.key, metadata⟩), .wrapping f.key sig)

/-- The outcome of wrapping the entries of a module under a marker on a store. -/
inductive ModuleOutcome (m : String) (es : List Entry) (s : Store) : Except Stop Value × Store → Prop
  | refused {before after : List Entry} {f : Entry} {rs : List ((Value × Value) × LogRecord)} {failure : Failure}
    {n : ObjectId} (hes : Module.ofRole m .function es = before ++ f :: after)
    (hbefore : List.Forall₂ (Held m es) before rs) (hf : Refused m es f failure) :
    ModuleOutcome m es s (.error (.failed failure), { s with next := n, logs := s.logs ++ rs.map Prod.snd })
  | wrapped {rs : List ((Value × Value) × LogRecord)} {id n : ObjectId}
    (hes : List.Forall₂ (Held m es) (Module.ofRole m .function es) rs) :
    ModuleOutcome m es s
      (.ok (.mapping id .plain ((Module.ofRole m .data es).map Entry.pair ++ rs.map Prod.fst)),
        { s with
          next := n
          logs := s.logs ++ rs.map Prod.snd ++ (Module.orphans m es).map fun e => .orphan e.key })

/-- A value marks keys with a character: nothing stands for the marker in force, and a text that is one
    character long by its own account for the character. -/
inductive Marks (s : Store) : Value → Char → Prop
  | inForce : Marks s .null s.marker
  | given {v : Value} {c : Char} (ht : v.isText = true) (hl : v.length? = some 1)
    (hc : v.text? = some (String.singleton c)) : Marks s v c

theorem Entry.IsNamed.isNameOrNull {e : Entry} (h : e.IsNamed) : e.key.isNameOrNull = true :=
  Value.isNameOrNull_of_isText h.isText

theorem likeText?_of_isNamed {e : Entry} (h : e.IsNamed) : e.key.likeText? = some e.text := by
  unfold Value.likeText?
  split
  · next hkey =>
    have ht := h.isText
    rw [hkey] at ht
    cases ht
  · exact h.text

namespace Module
variable {m : String} {es : List Entry}

/-! ### Functions -/

theorem role_of_endsWith {e : Entry} (h : endsWith m e.text = true) : e.role m = .signature := by
  simp [Entry.role, h]

theorem endsWith_append (s m : String) : endsWith m (s ++ m) = true := by
  simp [endsWith]

/-- The signature of a function is the entry under its key and the marker, whatever else it looks like. -/
theorem signatureOf?_eq (m : String) (es : List Entry) (f : Entry) : signatureOf? m es f = entryOf? es (f.text ++ m) := by
  have hrole (e : Entry) :
      decide ((e.role m == .signature) = true ∧ (e.text == f.text ++ m) = true) = (e.text == f.text ++ m) := by
    cases h : e.text == f.text ++ m
    · simp
    · simp [role_of_endsWith (m := m) (e := e) (by rw [beq_iff_eq.mp h]; exact endsWith_append _ _)]
  rw [signatureOf?, ofRole, List.find?_filter, entryOf?]
  exact congrArg (List.find? · es) (funext hrole)

/-- The signatures of a module are the entries that end with the marker. -/
theorem mem_signatures_iff {e : Entry} : e ∈ ofRole m .signature es ↔ e ∈ es ∧ endsWith m e.text = true := by
  rw [ofRole, List.mem_filter, beq_iff_eq]
  refine and_congr_right fun _ => ⟨fun hrole => ?_, role_of_endsWith⟩
  unfold Entry.role at hrole
  split at hrole
  · assumption
  · split at hrole <;> cases hrole

/-- What is under the key of a function and the marker is a signature of the module. -/
theorem mem_signatures {key : String} {e : Entry} (he : entryOf? es (key ++ m) = some e) :
    e ∈ ofRole m .signature es := by
  have htext : e.text = key ++ m := by simpa using List.find?_some he
  exact mem_signatures_iff.mpr ⟨List.mem_of_find?_eq_some he, htext ▸ endsWith_append key m⟩

theorem wrapFunction_on (m : String) (es : List Entry) (call : Caller) {f : Entry} (hf : f.IsNamed) (s : Store) :
    (∃ failure, Refused m es f failure ∧ (wrapFunction call m es f).on s = (.error (.failed failure), s)) ∨
    (∃ r n, Held m es f r ∧
      (wrapFunction call m es f).on s = (.ok r.1, { s with next := n, logs := s.logs ++ [r.2] })) := by
  unfold wrapFunction
  rw [signatureOf?_eq]
  cases he : entryOf? es (f.text ++ m) with
  | none => exact .inr ⟨_, s.next, .kept he, rfl⟩
  | some e =>
    cases himpl : f.value.isImplementation with
    | false => exact .inl ⟨_, .misused he himpl, Exec.on_bind_error (Value.wrap_misused himpl)⟩
    | true =>
      cases hread : Signature.read e.value with
      | error fault =>
        exact .inl ⟨_, .unreadable he himpl hread,
          Exec.on_bind_error (Value.wrap_unreadable himpl hf.isNameOrNull hread)⟩
      | ok sig =>
        obtain ⟨id, metadata, n, hw⟩ := Value.wrap_readable call himpl hf.isText hread s
        exact .inr ⟨_, n, .wrapped he himpl hread, Exec.on_bind_ok hw⟩

/-- Functions are wrapped in order up to the first that is refused. -/
theorem wrapFunctions_on (m : String) (es : List Entry) (call : Caller) (fs : List Entry) (hfs : ∀ f ∈ fs, f.IsNamed) (s : Store) :
    (∃ before f after rs failure n, fs = before ++ f :: after ∧ List.Forall₂ (Held m es) before rs ∧
      Refused m es f failure ∧
      (wrapFunctions call m es fs).on s =
        (.error (.failed failure), { s with next := n, logs := s.logs ++ rs.map Prod.snd })) ∨
    (∃ rs n, List.Forall₂ (Held m es) fs rs ∧
      (wrapFunctions call m es fs).on s =
        (.ok (rs.map Prod.fst), { s with next := n, logs := s.logs ++ rs.map Prod.snd })) := by
  induction fs generalizing s with
  | nil => exact .inr ⟨[], s.next, .nil, by simp [wrapFunctions]⟩
  | cons f fs ih =>
    obtain ⟨hf, hfs⟩ := List.forall_mem_cons.mp hfs
    rcases wrapFunction_on m es call hf s with ⟨failure, hr, hon⟩ | ⟨r, n, hr, hon⟩
    · refine .inl ⟨[], f, fs, [], failure, s.next, rfl, .nil, hr, ?_⟩
      rw [wrapFunctions, Exec.on_bind_error hon]
      simp
    · rw [wrapFunctions, Exec.on_bind_ok hon]
      rcases ih hfs { s with next := n, logs := s.logs ++ [r.2] } with
        ⟨before, g, after, rs, failure, k, rfl, hbefore, hg, hon'⟩ | ⟨rs, k, hrs, hon'⟩
      · refine .inl ⟨f :: before, g, after, r :: rs, failure, k, rfl, .cons hr hbefore, hg, ?_⟩
        rw [Exec.on_bind_error hon']
        simp
      · refine .inr ⟨r :: rs, k, .cons hr hrs, ?_⟩
        rw [Exec.on_bind_ok hon']
        simp

/-! ### Modules -/

theorem reportOrphans_on (ss : List Entry) (s : Store) :
    (reportOrphans ss).on s = (.ok (), { s with logs := s.logs ++ ss.map fun e => .orphan e.key }) := by
  induction ss generalizing s with
  | nil => simp [reportOrphans]
  | cons e ss ih => simp [reportOrphans, Exec.on_bind, ih]

theorem chooseMarker_on {marker : Value} {s : Store} {c : Char} (h : Marks s marker c) :
    (chooseMarker marker).on s = (.ok (String.singleton c), s) := by
  cases h with
  | inForce => rfl
  | given ht hl hc =>
    unfold chooseMarker
    split
    · cases ht
    · simp [hl, hc]

theorem isNameOrNull_of_marks {marker : Value} {s : Store} {c : Char} (h : Marks s marker c) :
    marker.isNameOrNull = true := by
  cases h with
  | inForce => rfl
  | given ht _ _ => exact Value.isNameOrNull_of_isText ht

theorem readAll_map_pair (markerType : String) (hes : ∀ e ∈ es, e.IsNamed) :
    Entry.readAll markerType (es.map Entry.pair) = .ok es := by
  induction es with
  | nil => rfl
  | cons e es ih =>
    obtain ⟨he, hes⟩ := List.forall_mem_cons.mp hes
    simp [Entry.readAll, Entry.pair, likeText?_of_isNamed he, ih hes, Except.map]

theorem firstKeyIsText_of_forall {ps : List (Value × Value)} (h : ∀ p ∈ ps, p.1.isText = true) :
    firstKeyIsText ps = true := by
  cases ps with
  | nil => rfl
  | cons p ps => exact h p List.mem_cons_self

theorem firstKeyIsText_map_pair (hes : ∀ e ∈ es, e.IsNamed) : firstKeyIsText (es.map Entry.pair) = true := by
  refine firstKeyIsText_of_forall fun p hp => ?_
  obtain ⟨e, he, rfl⟩ := List.mem_map.mp hp
  exact (hes e he).isText

/-- Under whatever marks keys, a module whose keys are texts is wrapped entry by entry. -/
theorem on_wrap {spec marker : Value} {c : Char} {s : Store} (hspec : spec.entries? = some (es.map Entry.pair))
    (hes : ∀ e ∈ es, e.IsNamed) (hm : Marks s marker c) (call : Caller) :
    (wrap call spec marker).on s = (do newMapping (← wrapEntries call (String.singleton c) es) : Exec Value).on s := by
  simp only [wrap, hspec, firstKeyIsText_map_pair hes, isNameOrNull_of_marks hm, Bool.and_self, ↓reduceIte,
    Exec.on_bind_ok (chooseMarker_on hm), readAll_map_pair _ hes, Exec.lift, pure_bind]

theorem held_isText {fs : List Entry} {rs : List ((Value × Value) × LogRecord)} (h : List.Forall₂ (Held m es) fs rs)
    (hfs : ∀ f ∈ fs, f.IsNamed) : ∀ p ∈ rs.map Prod.fst, p.1.isText = true := by
  induction h with
  | nil => simp
  | cons hr _ ih =>
    obtain ⟨hf, hfs⟩ := List.forall_mem_cons.mp hfs
    refine List.forall_mem_cons.mpr ⟨?_, ih hfs⟩
    cases hr with
    | kept => exact hf.isText
    | wrapped => exact hf.isText

theorem mem_of_mem_ofRole {r : Role} {e : Entry} (h : e ∈ ofRole m r es) : e ∈ es := (List.mem_filter.mp h).1

/-- Once the functions are wrapped, wrapping a module succeeds. -/
theorem on_wrapEntries_ok {functions : List (Value × Value)} {s t : Store} {call : Caller} (hes : ∀ e ∈ es, e.IsNamed)
    (hon : (wrapFunctions call m es (ofRole m .function es)).on s = (.ok functions, t))
    (hkeys : ∀ p ∈ functions, p.1.isText = true) :
    (do newMapping (← wrapEntries call m es) : Exec Value).on s =
      (.ok (.mapping t.next .plain ((ofRole m .data es).map Entry.pair ++ functions)),
        { t with next := t.next + 1, logs := t.logs ++ (orphans m es).map fun e => .orphan e.key }) := by
  have hentries : (wrapEntries call m es).on s = (.ok ((ofRole m .data es).map Entry.pair ++ functions),
      { t with logs := t.logs ++ (orphans m es).map fun e => .orphan e.key }) := by
    rw [wrapEntries, Exec.on_bind_ok hon, Exec.on_bind_ok (reportOrphans_on _ _)]
    rfl
  have hfirst : firstKeyIsText ((ofRole m .data es).map Entry.pair ++ functions) = true := by
    refine firstKeyIsText_of_forall fun p hp => ?_
    rcases List.mem_append.mp hp with hp | hp
    · obtain ⟨e, he, rfl⟩ := List.mem_map.mp hp
      exact (hes e (mem_of_mem_ofRole he)).isText
    · exact hkeys p hp
  rw [Exec.on_bind_ok hentries, newMapping, if_pos hfirst]
  rfl

theorem moduleOutcome_wrapEntries (call : Caller) (hes : ∀ e ∈ es, e.IsNamed) (s : Store) :
    ModuleOutcome m es s ((do newMapping (← wrapEntries call m es)).on s) := by
  have named : ∀ f ∈ ofRole m .function es, f.IsNamed := fun f hf => hes f (mem_of_mem_ofRole hf)
  rcases wrapFunctions_on m es call _ named s with
    ⟨before, f, after, rs, failure, n, hfs, hbefore, hf, hon⟩ | ⟨rs, n, hrs, hon⟩
  · rw [Exec.on_bind_error (by rw [wrapEntries, Exec.on_bind_error hon])]
    exact .refused hfs hbefore hf
  · rw [on_wrapEntries_ok hes hon (held_isText hrs named)]
    exact .wrapped hrs

end Module

/-- A function with a signature, before data. -/
def scaleModule : List Entry :=
  [⟨.text 11 "scale", "scale", .routine 12 ⟨"scale", .empty, .argument 0⟩⟩,
    ⟨.text 13 "scale_", "scale_", .list [.text 14 "Number", .text 14 "Number"]⟩,
    ⟨.text 15 "origin", "origin", .integer 16 0⟩]

theorem isNamed_scaleModule : ∀ e ∈ scaleModule, e.IsNamed := by
  intro e he
  simp only [scaleModule, List.mem_cons, List.not_mem_nil, or_false] at he
  rcases he with rfl | rfl | rfl <;> exact ⟨rfl, rfl⟩

end CallGuard
