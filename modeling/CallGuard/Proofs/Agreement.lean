import CallGuard.Module.Triples
import CallGuard.Proofs.ModuleOutcome
import CallGuard.Proofs.SignatureReading
import Mathlib.Data.List.Nodup

/-! Two ways to say which function has which signature: side by side in a module, under a name and under
    the name with the marker, or as triples. Where both say the same they come to the same: either both fail
    for the same reason, or both hold the same functions under the same names in the order in which they
    were listed, wherever the signatures stand in between. They tell of the same wrappings, and of nothing
    else (`agree_wrap`). -/

namespace CallGuard

/-! ### Texts as keys -/

namespace Value
variable {a b v : Value} {t u : String} {vs : List Value}

/-- What a text is made of. -/
inductive HoldsText (t : String) : Value → Prop
  | text (i : ObjectId) : HoldsText t (.text i t)
  | tag {g : Tag} (h : g.text = t) : HoldsText t (.tag g)
  | scalar (i : ObjectId) : HoldsText t (.scalar i (.text t))
  | stock (i : ObjectId) {s : Stock} (h : s.nature = .text t) : HoldsText t (.stock i s)

theorem holdsText_core (h : a.text? = some t) : HoldsText t a.core := by
  unfold text? at h
  split at h
  · next hcore =>
    cases h
    exact hcore ▸ .text _
  · next hcore => exact hcore ▸ .tag (Option.some.inj h)
  · next hcore =>
    cases h
    exact hcore ▸ .scalar _
  · next hcore =>
    split at h
    · next hnature =>
      cases h
      exact hcore ▸ .stock _ hnature
    · cases h
  · cases h

theorem HoldsText.number? (h : HoldsText t a) : a.number? = none := by
  cases h with
  | stock i hnature => simp [Value.number?, core, hnature]
  | _ => rfl

theorem HoldsText.isContainer (h : HoldsText t a) : a.isContainer = false := by
  cases h with
  | stock i hnature => simp [Value.isContainer, Stock.tuple?, hnature]
  | _ => rfl

theorem likeText?_of_text? (h : a.text? = some t) : a.likeText? = some t := by
  unfold likeText?
  split
  · cases h
  · exact h

theorem scalarEqualAny_of_text? (mode : Comparing) (t : String) (hb : b.text? = some u) :
    scalarEqualAny mode (.text t) b = .ok (u == t) := by
  simp [scalarEqualAny, comparesRows, scalarEqual, likeText?_of_text? hb]

theorem atomEqual_of_text? (ha : a.text? = some t) (hb : b.text? = some u) (mode : Comparing) :
    atomEqual mode a b = .ok (t == u) := by
  have hx := holdsText_core ha
  have hy := holdsText_core hb
  have hnumbers : numbersEqual? mode a.core b.core = none := by simp [numbersEqual?, hx.number?]
  unfold atomEqual
  generalize a.core = x at hx hnumbers
  generalize b.core = y at hy hnumbers
  cases hx with
  | scalar i => cases hy <;> exact (scalarEqualAny_of_text? mode t hb).trans (congrArg _ BEq.comm)
  | _ =>
    cases hy with
    | scalar i => exact scalarEqualAny_of_text? mode u ha
    | _ => simp [hnumbers, likeText?_of_text? ha, likeText?_of_text? hb]

theorem equalIn_of_text? (ha : a.text? = some t) (mode : Comparing) (b : Value) :
    equalIn mode a b = atomEqual mode a b := by
  have hcore := holdsText_core ha
  cases a with
  | custom i c =>
    obtain ⟨name, content, items, traits, replies⟩ := c
    cases content with
    | none => cases ha
    | some v => simp [equalIn, show v.isContainer = false from hcore.isContainer]
  | stock i s =>
    cases hcore with
    | stock _ hnature => simp [equalIn, stockEqualAny, Stock.tuple?, hnature]
  | sequence | set | mapping | method => cases ha
  | _ => simp [equalIn]

/-- Two texts are one key if they are one object or the same text. -/
theorem sameKey_eq_of_text? (ha : a.text? = some t) (hb : b.text? = some u) :
    a.sameKey b = (a.same b || t == u) := by
  have hequal : equalIn .exact a b = .ok (t == u) := by rw [equalIn_of_text? ha, atomEqual_of_text? ha hb]
  rw [sameKey, hequal]
  cases t == u <;> rfl

/-- Values of one text are one key. -/
theorem sameKey_of_text? (ha : a.text? = some t) (hb : b.text? = some t) : a.sameKey b = true := by
  simp [sameKey_eq_of_text? ha hb]

/-! ### Items of tuples -/

theorem coreItems?_of_tuple? (h : v.tuple? = some vs) :
    v.core.coreItems? = some vs ∧ v.core.yieldsByPlace = false := by
  unfold tuple? at h
  split at h
  · next hcore =>
    rw [hcore]
    exact ⟨h, rfl⟩
  · next s hcore =>
    rw [hcore]
    refine ⟨?_, rfl⟩
    unfold Stock.tuple? at h
    split at h
    · next hnature =>
      split at h
      · next hname =>
        have hne : s.name ≠ Stock.tagClass := by rcases hname with hname | hname <;> rw [hname] <;> decide
        simpa [coreItems?, hnature, hne] using h
      · cases h
    · cases h
  · cases h

/-- Going through a tuple yields its items. -/
theorem items?_of_tuple? (h : v.tuple? = some vs) : v.items? = some vs := by
  obtain ⟨hitems, hplace⟩ := coreItems?_of_tuple? h
  cases v with
  | custom i c =>
    obtain ⟨name, content, items, traits, replies⟩ := c
    cases content with
    | none => cases h
    | some w =>
      have hitems : w.coreItems? = some vs := hitems
      simp [items?, show w.yieldsByPlace = false from hplace, hitems]
  | _ => exact hitems

theorem takeItems?_of_tuple? (h : v.tuple? = some vs) (n : Nat) : v.takeItems? n = pure (some (vs.take n)) := by
  unfold takeItems?
  split
  · cases h
  · rw [items?_of_tuple? h]
    rfl

end Value

/-! ### Associations -/

/-- A function that is to be wrapped with a signature under a name. The name is a text and can be a key. -/
structure Association where
  name : Value
  text : String
  signature : Value
  function : Value
  isText : name.isText = true
  text?_name : name.text? = some text
  isKey : name.keyFault? = none
  isCallable : function.isCallable = true

namespace Association

/-- The checked function of an association, under its name. -/
def wrap (call : Caller) (a : Association) : Exec (Value × Value) := do
  let c ← Value.wrap call a.signature a.function a.name
  return (a.name, c)

/-- The entry under which a module holds the function. -/
def entry (a : Association) : Entry := ⟨a.name, a.text, a.function⟩

/-- An entry of a module holds the signature: its key is the name and the marker, in any kind of text. -/
structure IsSigned (m : String) (a : Association) (e : Entry) : Prop where
  isNamed : e.IsNamed
  text : e.text = a.text ++ m
  value : e.value = a.signature

/-- A value is the triple of a name, a signature and a function. -/
def IsTriple (a : Association) (v : Value) : Prop := v.tuple? = some [a.name, a.signature, a.function]

/-- No name is the key of an earlier one. -/
def Distinct (as : List Association) : Prop := as.Pairwise fun a b => b.name.sameKey a.name = false

/-- Two associations say the same, under names of one text that are shown alike. -/
structure Alike (a b : Association) : Prop where
  text : a.text = b.text
  shown : a.name.shown = b.name.shown
  signature : a.signature = b.signature
  function : a.function = b.function

theorem isNameOrNull (a : Association) : a.name.isNameOrNull = true := Value.isNameOrNull_of_isText a.isText

theorem isNamed_entry (a : Association) : a.entry.IsNamed := ⟨a.isText, a.text?_name⟩

theorem Distinct.nodup {as : List Association} (h : Distinct as) : (as.map text).Nodup := by
  rw [List.Nodup, List.pairwise_map]
  refine h.imp fun {a b} hab heq => ?_
  rw [Value.sameKey_of_text? (heq ▸ b.text?_name) a.text?_name] at hab
  cases hab

end Association

/-! ### Modules -/

/-- A module holds functions, in order, and under their names and the marker their signatures, wherever
    these stand. -/
structure Juxtaposes (m : String) (as : List Association) (es : List Entry) : Prop where
  functions : (as.map Association.entry).Sublist es
  entries : ∃ ss, es.Perm (as.map Association.entry ++ ss) ∧ List.Forall₂ (Association.IsSigned m) as ss

namespace Juxtaposes
variable {m : String} {c : Char} {as : List Association} {es : List Entry}

theorem entry_or_isSigned (h : Juxtaposes m as es) {e : Entry} (he : e ∈ es) :
    (∃ a ∈ as, a.entry = e) ∨ ∃ a ∈ as, a.IsSigned m e := by
  obtain ⟨ss, hperm, hss⟩ := h.entries
  rcases List.mem_append.mp (hperm.mem_iff.mp he) with he | he
  · exact .inl (List.mem_map.mp he)
  · exact .inr (exists_left_of_forall₂ hss he)

theorem isNamed (h : Juxtaposes m as es) : ∀ e ∈ es, e.IsNamed := by
  intro e he
  rcases h.entry_or_isSigned he with ⟨a, -, rfl⟩ | ⟨a, -, hsigned⟩
  · exact a.isNamed_entry
  · exact hsigned.isNamed

theorem role_entry (unmarked : ∀ a ∈ as, endsWith m a.text = false) {a : Association} (ha : a ∈ as) :
    a.entry.role m = .function := by
  simp [Entry.role, Association.entry, unmarked a ha, a.isCallable]

theorem role_signed {a : Association} {e : Entry} (h : a.IsSigned m e) : e.role m = .signature :=
  Module.role_of_endsWith (h.text ▸ Module.endsWith_append a.text m)

/-- The functions of the module are those of the associations, in order. -/
theorem ofRole_function (h : Juxtaposes m as es) (unmarked : ∀ a ∈ as, endsWith m a.text = false) :
    Module.ofRole m .function es = as.map Association.entry := by
  obtain ⟨ss, hperm, hss⟩ := h.entries
  have hfunctions : Module.ofRole m .function (as.map Association.entry) = as.map Association.entry := by
    refine List.filter_eq_self.mpr fun e he => ?_
    obtain ⟨a, ha, rfl⟩ := List.mem_map.mp he
    simp [role_entry unmarked ha]
  have hsignatures : Module.ofRole m .function ss = [] := by
    refine List.filter_eq_nil_iff.mpr fun e he => ?_
    obtain ⟨a, -, hsigned⟩ := exists_left_of_forall₂ hss he
    simp [role_signed hsigned]
  have hlength : (Module.ofRole m .function es).length = (as.map Association.entry).length := by
    rw [Module.ofRole, (hperm.filter _).length_eq, List.filter_append]
    exact congrArg List.length ((congrArg₂ _ hfunctions hsignatures).trans (List.append_nil _))
  have hsub : (as.map Association.entry).Sublist (Module.ofRole m .function es) := by
    rw [← hfunctions]
    exact h.functions.filter _
  exact (hsub.eq_of_length hlength.symm).symm

theorem ofRole_data (h : Juxtaposes m as es) (unmarked : ∀ a ∈ as, endsWith m a.text = false) :
    Module.ofRole m .data es = [] := by
  refine List.filter_eq_nil_iff.mpr fun e he => ?_
  rcases h.entry_or_isSigned he with ⟨a, ha, rfl⟩ | ⟨a, -, hsigned⟩
  · simp [role_entry unmarked ha]
  · simp [role_signed hsigned]

theorem orphans (h : Juxtaposes (String.singleton c) as es)
    (unmarked : ∀ a ∈ as, endsWith (String.singleton c) a.text = false) :
    Module.orphans (String.singleton c) es = [] := by
  refine List.filter_eq_nil_iff.mpr fun e he => ?_
  have he := List.mem_filter.mp he
  rcases h.entry_or_isSigned he.1 with ⟨a, ha, rfl⟩ | ⟨a, ha, hsigned⟩
  · simp [role_entry unmarked ha] at he
  · have hlast : dropLast e.text = a.text := by simp [hsigned.text, dropLast]
    have hfunction : Module.hasFunction (String.singleton c) es e = true := by
      rw [Module.hasFunction, h.ofRole_function unmarked, hlast, List.any_map]
      exact List.any_eq_true.mpr ⟨a, ha, beq_self_eq_true a.text⟩
    simp [hfunction]

/-- Under a name and the marker the module holds the signature of the function, and nothing else. -/
theorem entryOf?_eq_some (h : Juxtaposes m as es) (distinct : (as.map Association.text).Nodup)
    (unmarked : ∀ a ∈ as, endsWith m a.text = false) {a : Association} (ha : a ∈ as) :
    ∃ e, entryOf? es (a.text ++ m) = some e ∧ e.value = a.signature := by
  obtain ⟨ss, hperm, hss⟩ := h.entries
  cases he : entryOf? es (a.text ++ m) with
  | none =>
    obtain ⟨e, hmem, hsigned⟩ := exists_right_of_forall₂ hss ha
    have hne := List.find?_eq_none.mp he e (hperm.mem_iff.mpr (List.mem_append_right _ hmem))
    simp [hsigned.text] at hne
  | some e =>
    refine ⟨e, rfl, ?_⟩
    have htext : e.text = a.text ++ m := by simpa using List.find?_some he
    rcases h.entry_or_isSigned (List.mem_of_find?_eq_some he) with ⟨b, hb, rfl⟩ | ⟨b, hb, hsigned⟩
    · have hmarked := unmarked b hb
      rw [show b.text = a.text ++ m from htext, Module.endsWith_append] at hmarked
      cases hmarked
    · have heq : b.text = a.text := (String.append_left_inj m).mp (hsigned.text.symm.trans htext)
      rw [hsigned.value, List.inj_on_of_nodup_map distinct hb ha heq]

theorem wrapFunction_eq (h : Juxtaposes m as es) (distinct : (as.map Association.text).Nodup)
    (unmarked : ∀ a ∈ as, endsWith m a.text = false) (call : Caller) {a : Association} (ha : a ∈ as) :
    Module.wrapFunction call m es a.entry = a.wrap call := by
  obtain ⟨e, he, hvalue⟩ := h.entryOf?_eq_some distinct unmarked ha
  have hsignature : Module.signatureOf? m es a.entry = some e := (Module.signatureOf?_eq m es a.entry).trans he
  rw [Module.wrapFunction, hsignature, Association.wrap, ← hvalue]
  rfl

theorem wrapFunctions_eq (h : Juxtaposes m as es) (distinct : (as.map Association.text).Nodup)
    (unmarked : ∀ a ∈ as, endsWith m a.text = false) (call : Caller) {bs : List Association}
    (hbs : ∀ b ∈ bs, b ∈ as) :
    Module.wrapFunctions call m es (bs.map Association.entry) = bs.mapM (Association.wrap call) := by
  induction bs with
  | nil => rfl
  | cons b bs ih =>
    obtain ⟨hb, hbs⟩ := List.forall_mem_cons.mp hbs
    rw [List.map_cons, Module.wrapFunctions, List.mapM_cons, h.wrapFunction_eq distinct unmarked call hb, ih hbs]

/-- A module wraps its associations and does nothing else. -/
theorem wrapEntries_eq (h : Juxtaposes (String.singleton c) as es) (distinct : (as.map Association.text).Nodup)
    (unmarked : ∀ a ∈ as, endsWith (String.singleton c) a.text = false) (call : Caller) :
    Module.wrapEntries call (String.singleton c) es = as.mapM (Association.wrap call) := by
  rw [Module.wrapEntries, h.ofRole_function unmarked, h.wrapFunctions_eq distinct unmarked call fun _ ha => ha,
    h.orphans unmarked, h.ofRole_data unmarked]
  simp [Module.reportOrphans]

theorem on_wrap (h : Juxtaposes (String.singleton c) as es) (distinct : (as.map Association.text).Nodup)
    (unmarked : ∀ a ∈ as, endsWith (String.singleton c) a.text = false) {spec marker : Value}
    (hspec : spec.entries? = some (es.map Entry.pair)) {s : Store} (hm : Marks s marker c) (call : Caller) :
    (Module.wrap call spec marker).on s =
      (do Module.newMapping (← as.mapM (Association.wrap call)) : Exec Value).on s := by
  rw [Module.on_wrap hspec h.isNamed hm, h.wrapEntries_eq distinct unmarked call]

end Juxtaposes

/-! ### Triples -/

namespace Triples
variable {as : List Association} {vs : List Value} {call : Caller}

theorem unpack_eq {a : Association} {v : Value} (h : a.IsTriple v) :
    unpack v = pure (a.name, a.signature, a.function) := by
  rw [unpack, Value.takeItems?_of_tuple? h]
  rfl

theorem wrapOne_eq {a : Association} {v : Value} (h : a.IsTriple v) {done : List (Value × Value)}
    (fresh : ∀ e ∈ done, a.name.sameKey e.1 = false) :
    wrapOne call done v = do return done ++ [← a.wrap call] := by
  have hname : checkName a.name done = pure () := by
    have hdone : (done.any fun e => a.name.sameKey e.1) = false := by simpa using fresh
    simp [checkName, Exec.checkKeys, a.isKey, hdone]
  simp [wrapOne, unpack_eq h, hname, Association.wrap]

/-- Triples of distinct names are wrapped in order, behind those that are done. -/
theorem wrapAll_eq (h : List.Forall₂ Association.IsTriple as vs) (distinct : Association.Distinct as)
    {done : List (Value × Value)} (fresh : ∀ a ∈ as, ∀ e ∈ done, a.name.sameKey e.1 = false) :
    wrapAll call done vs = do return done ++ (← as.mapM (Association.wrap call)) := by
  induction h generalizing done with
  | nil => simp [wrapAll]
  | @cons a v as vs hv _ ih =>
    obtain ⟨ha, distinct⟩ := List.pairwise_cons.mp distinct
    obtain ⟨hfresh, fresh⟩ := List.forall_mem_cons.mp fresh
    have hrest (c : Value) : wrapAll call (done ++ [(a.name, c)]) vs =
        do return done ++ [(a.name, c)] ++ (← as.mapM (Association.wrap call)) := by
      refine ih distinct fun b hb e he => ?_
      rcases List.mem_append.mp he with he | he
      · exact fresh b hb e he
      · cases List.mem_singleton.mp he
        exact ha b hb
    rw [wrapAll, wrapOne_eq hv hfresh, List.mapM_cons]
    simp [Association.wrap, hrest]

theorem isTriple_eq {a : Association} {v : Value} (h : a.IsTriple v) : isTriple v = a.function.isImplementation := by
  have h : v.tuple? = some [a.name, a.signature, a.function] := h
  simp [isTriple, h, a.isText]

theorem on_wrap (h : List.Forall₂ Association.IsTriple as vs) (distinct : Association.Distinct as) (id : ObjectId)
    (kind : SequenceKind) (call : Caller) (s : Store) :
    (wrap call (.sequence id kind vs)).on s =
      (do Module.newMapping (← as.mapM (Association.wrap call)) : Exec Value).on s := by
  have hall : wrapAll call [] vs = as.mapM (Association.wrap call) := by
    rw [wrapAll_eq h distinct (by simp)]
    simp
  cases hmisused : isMisused (.sequence id kind vs) with
  | false => simp [wrap, hmisused, Value.items?, Value.coreItems?, hall]
  | true =>
    -- What is refused beforehand is the first function, and it would be refused when its turn comes.
    cases h with
    | nil => cases hmisused
    | @cons a v as vs hv _ =>
      have himpl : a.function.isImplementation = false := by
        simpa [isMisused, isIterable, Value.items?, Value.coreItems?, isTriple_eq hv] using hmisused
      have hrefused : (a.wrap call).on s = (.error (.failed (.misuse .parameter)), s) :=
        Exec.on_bind_error (Value.wrap_misused himpl)
      rw [List.mapM_cons, bind_assoc, Exec.on_bind_error hrefused]
      unfold wrap
      rw [if_pos hmisused]
      exact Exec.on_bind_error (Exec.on_fail _ s)

end Triples

/-! ### Agreement -/

/-- Two names are one text, and shown alike. -/
structure Value.SameName (a b : Value) : Prop where
  isText : a.isText = true ∧ b.isText = true
  text : ∃ t, a.text? = some t ∧ b.text? = some t
  shown : a.shown = b.shown

/-- Two entries hold the same checked function under the same name. -/
inductive SameFunction : Value × Value → Value × Value → Prop
  | mk {a b f : Value} {id : ObjectId} {sig : Signature} {m : Metadata Value} (h : a.SameName b) :
    SameFunction (a, .checked id ⟨sig, f, a, m⟩) (b, .checked id ⟨sig, f, b, m⟩)

/-- Two records say the same and are both told by the wrapper. -/
structure LogRecord.SameWrapping (r r' : LogRecord) : Prop where
  left : r.logger = "deodorant.checking.wrapper"
  right : r'.logger = "deodorant.checking.wrapper"
  message : r.message = r'.message

/-- Two ways of wrapping associations on a store come to the same: both fail for one reason, or both give
    the same checked functions under the same names, in the order of the associations. They have told of
    the same wrappings, and of nothing else. -/
inductive Agree (as : List Association) (s : Store) : Except Stop Value × Store → Except Stop Value × Store → Prop
  | failed {failure : Failure} {n : ObjectId} {rs rs' : List LogRecord}
    (hrs : List.Forall₂ LogRecord.SameWrapping rs rs') :
    Agree as s (.error (.failed failure), { s with next := n, logs := s.logs ++ rs })
      (.error (.failed failure), { s with next := n, logs := s.logs ++ rs' })
  | made {id n : ObjectId} {es es' : List (Value × Value)} {rs rs' : List LogRecord}
    (hes : List.Forall₂ SameFunction es es') (hnames : es.map Prod.fst = as.map Association.name)
    (hrs : List.Forall₂ LogRecord.SameWrapping rs rs') :
    Agree as s (.ok (.mapping id .plain es), { s with next := n, logs := s.logs ++ rs })
      (.ok (.mapping id .plain es'), { s with next := n, logs := s.logs ++ rs' })

namespace Association
variable {a b : Association} {as bs : List Association}

theorem Alike.sameName (h : a.Alike b) : a.name.SameName b.name :=
  ⟨⟨a.isText, b.isText⟩, ⟨a.text, a.text?_name, h.text ▸ b.text?_name⟩, h.shown⟩

theorem Alike.sameWrapping (h : a.Alike b) (sig : Signature) :
    LogRecord.SameWrapping (.wrapping a.name sig) (.wrapping b.name sig) where
  left := rfl
  right := rfl
  message := congrArg (fun shown => "Wrapping function " ++ shown ++ " with signature " ++ sig.written) h.shown

/-- Associations that are alike are both refused, or give the same function and tell of it. -/
theorem Alike.wrap (h : a.Alike b) (call : Caller) (s : Store) :
    (∃ failure, ∀ logs,
      (a.wrap call).on { s with logs := logs } = (.error (.failed failure), { s with logs := logs }) ∧
      (b.wrap call).on { s with logs := logs } = (.error (.failed failure), { s with logs := logs })) ∨
    (∃ c c' sig n, SameFunction (a.name, c) (b.name, c') ∧ ∀ logs,
      (a.wrap call).on { s with logs := logs } =
        (.ok (a.name, c), { s with next := n, logs := logs ++ [.wrapping a.name sig] }) ∧
      (b.wrap call).on { s with logs := logs } =
        (.ok (b.name, c'), { s with next := n, logs := logs ++ [.wrapping b.name sig] })) := by
  unfold Association.wrap
  rw [h.signature, h.function]
  cases hf : b.function.isImplementation with
  | false =>
    exact .inl ⟨_, fun _ => ⟨Exec.on_bind_error (Value.wrap_misused hf), Exec.on_bind_error (Value.wrap_misused hf)⟩⟩
  | true =>
    cases hread : Signature.read b.signature with
    | error fault =>
      exact .inl ⟨_, fun _ => ⟨Exec.on_bind_error (Value.wrap_unreadable hf a.isNameOrNull hread),
        Exec.on_bind_error (Value.wrap_unreadable hf b.isNameOrNull hread)⟩⟩
    | ok sig =>
      obtain ⟨id, m, n, hw⟩ := Value.wrap_readable_under call hf hread s
      exact .inr ⟨_, _, sig, n, .mk h.sameName, fun logs =>
        ⟨Exec.on_bind_ok (hw a.name logs s.taken a.isText), Exec.on_bind_ok (hw b.name logs s.taken b.isText)⟩⟩

/-- Rows of associations that are alike fail at one place for one reason, or give the same functions. -/
theorem mapM_wrap_alike (h : List.Forall₂ Alike as bs) (call : Caller) (s : Store) (logs logs' : List LogRecord) :
    ∃ rs rs' n, List.Forall₂ LogRecord.SameWrapping rs rs' ∧
      ((∃ failure,
        (as.mapM (wrap call)).on { s with logs := logs } =
          (.error (.failed failure), { s with next := n, logs := logs ++ rs }) ∧
        (bs.mapM (wrap call)).on { s with logs := logs' } =
          (.error (.failed failure), { s with next := n, logs := logs' ++ rs' })) ∨
      (∃ es es', List.Forall₂ SameFunction es es' ∧ es.map Prod.fst = as.map name ∧
        es'.map Prod.fst = bs.map name ∧
        (as.mapM (wrap call)).on { s with logs := logs } = (.ok es, { s with next := n, logs := logs ++ rs }) ∧
        (bs.mapM (wrap call)).on { s with logs := logs' } =
          (.ok es', { s with next := n, logs := logs' ++ rs' }))) := by
  induction h generalizing s logs logs' with
  | nil => exact ⟨[], [], s.next, .nil, .inr ⟨[], [], .nil, rfl, rfl, by simp, by simp⟩⟩
  | @cons a b as bs hab _ ih =>
    rw [List.mapM_cons, List.mapM_cons]
    rcases hab.wrap call s with ⟨failure, hfail⟩ | ⟨c, c', sig, n, hsame, hwrap⟩
    · refine ⟨[], [], s.next, .nil, .inl ⟨failure, ?_, ?_⟩⟩
      · rw [Exec.on_bind_error (hfail logs).1, List.append_nil]
      · rw [Exec.on_bind_error (hfail logs').2, List.append_nil]
    · have ih := ih { s with next := n } (logs ++ [.wrapping a.name sig]) (logs' ++ [.wrapping b.name sig])
      obtain ⟨rs, rs', k, hrs, ⟨failure, ha, hb⟩ | ⟨es, es', hes, hnames, hnames', ha, hb⟩⟩ := ih
      · refine ⟨.wrapping a.name sig :: rs, .wrapping b.name sig :: rs', k, .cons (hab.sameWrapping sig) hrs,
          .inl ⟨failure, ?_, ?_⟩⟩
        · rw [Exec.on_bind_ok (hwrap logs).1, Exec.on_bind_error ha]
          simp
        · rw [Exec.on_bind_ok (hwrap logs').2, Exec.on_bind_error hb]
          simp
      · refine ⟨.wrapping a.name sig :: rs, .wrapping b.name sig :: rs', k, .cons (hab.sameWrapping sig) hrs,
          .inr ⟨(a.name, c) :: es, (b.name, c') :: es', .cons hsame hes, by simp [hnames], by simp [hnames'], ?_, ?_⟩⟩
        · rw [Exec.on_bind_ok (hwrap logs).1, Exec.on_bind_ok ha]
          simp
        · rw [Exec.on_bind_ok (hwrap logs').2, Exec.on_bind_ok hb]
          simp

/-- What holds values under names can be a mapping. -/
theorem on_newMapping {es : List (Value × Value)} (h : es.map Prod.fst = as.map name) (s : Store) :
    (Module.newMapping es).on s = (.ok (.mapping s.next .plain es), { s with next := s.next + 1 }) := by
  have hfirst : Module.firstKeyIsText es = true := by
    refine Module.firstKeyIsText_of_forall fun p hp => ?_
    obtain ⟨a, -, ha⟩ := List.mem_map.mp (h ▸ List.mem_map_of_mem hp : p.1 ∈ as.map name)
    exact ha ▸ a.isText
  rw [Module.newMapping, if_pos hfirst]
  rfl

end Association

/-- A module and triples that say the same of the same names come to the same, whatever the signatures are,
    wherever they stand in the module, however it marks them and whatever happened before. -/
theorem agree_wrap {as bs : List Association} (halike : List.Forall₂ Association.Alike as bs)
    (distinct : Association.Distinct bs) {marker : Value} {c : Char} {s : Store} (hm : Marks s marker c)
    (unmarked : ∀ b ∈ bs, endsWith (String.singleton c) b.text = false) {spec : Value} {es : List Entry}
    (hspec : spec.entries? = some (es.map Entry.pair)) (hes : Juxtaposes (String.singleton c) as es) {vs : List Value}
    (hvs : List.Forall₂ Association.IsTriple bs vs) (id : ObjectId) (kind : SequenceKind) (call : Caller) :
    Agree as s ((Module.wrap call spec marker).on s) ((Triples.wrap call (.sequence id kind vs)).on s) := by
  have htexts : as.map Association.text = bs.map Association.text := by
    rw [← List.forall₂_eq_eq_eq, List.forall₂_map_left_iff, List.forall₂_map_right_iff]
    exact halike.imp fun _ _ h => h.text
  have hunmarked : ∀ a ∈ as, endsWith (String.singleton c) a.text = false := by
    intro a ha
    obtain ⟨b, hb, hab⟩ := exists_right_of_forall₂ halike ha
    rw [hab.text]
    exact unmarked b hb
  rw [hes.on_wrap (htexts ▸ distinct.nodup) hunmarked hspec hm, Triples.on_wrap hvs distinct]
  obtain ⟨rs, rs', n, hrs, ⟨failure, ha, hb⟩ | ⟨fs, fs', hfs, hnames, hnames', ha, hb⟩⟩ :=
    Association.mapM_wrap_alike halike call s s.logs s.logs
  · rw [Exec.on_bind_error ha, Exec.on_bind_error hb]
    exact .failed hrs
  · rw [Exec.on_bind_ok ha, Exec.on_bind_ok hb, Association.on_newMapping hnames, Association.on_newMapping hnames']
    exact .made hfs hnames hrs

/-- The identity on numbers under a name. -/
def namedIdentity (id : ObjectId) (name : String) : Association where
  name := .text id name
  text := name
  signature := .list [.text 21 "Number", .text 22 "Number"]
  function := .routine 23 ⟨"identity", .empty, .argument 0⟩
  isText := rfl
  text?_name := rfl
  isKey := rfl
  isCallable := rfl

/-- Two functions whose signatures stand around them, the second one's first. -/
theorem agree_wrap_interleaved :
    let as := [namedIdentity 1 "f", namedIdentity 2 "g"]
    let bs := [namedIdentity 3 "f", namedIdentity 4 "g"]
    let es : List Entry := [⟨.text 5 "g_", "g_", (namedIdentity 2 "g").signature⟩, (namedIdentity 1 "f").entry,
      (namedIdentity 2 "g").entry, ⟨.text 6 "f_", "f_", (namedIdentity 1 "f").signature⟩]
    let spec : Value := .mapping 7 .plain (es.map Entry.pair)
    let vs : List Value := bs.map fun b => .tuple [b.name, b.signature, b.function]
    List.Forall₂ Association.Alike as bs ∧ Association.Distinct bs ∧ Marks .initial .null '_' ∧
      (∀ b ∈ bs, endsWith (String.singleton '_') b.text = false) ∧ spec.entries? = some (es.map Entry.pair) ∧
      Juxtaposes (String.singleton '_') as es ∧ List.Forall₂ Association.IsTriple bs vs ∧
      Agree as .initial ((Module.wrap caller spec .null).on .initial)
        ((Triples.wrap caller (.sequence 8 .list vs)).on .initial) ∧
      ((Module.wrap caller spec .null).on .initial).1 =
        .ok (.mapping 5 .plain
          [(.text 1 "f", .checked 1 ⟨⟨[.number], .number⟩, (namedIdentity 1 "f").function, .text 1 "f", .empty⟩),
            (.text 2 "g", .checked 3 ⟨⟨[.number], .number⟩, (namedIdentity 2 "g").function, .text 2 "g", .empty⟩)]) := by
  intro as bs es spec vs
  have halike : List.Forall₂ Association.Alike as bs :=
    .cons ⟨rfl, rfl, rfl, rfl⟩ (.cons ⟨rfl, rfl, rfl, rfl⟩ .nil)
  have distinct : Association.Distinct bs := .cons (by simp [namedIdentity]; rfl) (.cons (by simp) .nil)
  have unmarked : ∀ b ∈ bs, endsWith (String.singleton '_') b.text = false := by
    intro b hb
    rcases List.mem_pair.mp hb with rfl | rfl <;> rfl
  have hes : Juxtaposes (String.singleton '_') as es := by
    refine ⟨.cons _ (.cons_cons _ (.cons_cons _ (List.nil_sublist _))), _, (List.perm_append_singleton _ _).symm, ?_⟩
    exact .cons ⟨⟨rfl, rfl⟩, rfl, rfl⟩ (.cons ⟨⟨rfl, rfl⟩, rfl, rfl⟩ .nil)
  have hvs : List.Forall₂ Association.IsTriple bs vs := .cons rfl (.cons rfl .nil)
  have hm : Marks .initial .null '_' := .inForce
  have hspec : spec.entries? = some (es.map Entry.pair) := rfl
  have hagree := agree_wrap halike distinct hm unmarked hspec hes hvs 8 .list caller
  exact ⟨halike, distinct, hm, unmarked, hspec, hes, hvs, hagree, rfl⟩

end CallGuard
