import CallGuard.Proofs.LookingUp

/-! Signatures of values that may answer for themselves. The items of a sequence are looked up in turn, each on
    what the ones before it left behind. It is a signature exactly if it has items and each names a tag; the
    first item that names none is reported with its position, whatever comes after it, unless its look-up or
    its written form stops the reading (`parsing_iff`). Where nothing answers for itself, this is what the
    items say, and every error is that of a bad value. -/

namespace CallGuard.Signature
variable {host : Host} {call : Caller} {v item : Value} {vs before after : List Value} {ts : List Tag}
  {s u w : Store} {e : Stop} {n : Nat}

/-! ### Rows of items -/

/-- The items of a row name tags in turn. -/
inductive NamedInTurn (host : Host) (call : Caller) : Store → List Value → List Tag → Store → Prop
  | nil {s : Store} : NamedInTurn host call s [] [] s
  | cons {s u w : Store} {v : Value} {vs : List Value} {t : Tag} {ts : List Tag}
    (h : (askTag host call v).on s = (.ok (some t), u)) (hs : NamedInTurn host call u vs ts w) :
    NamedInTurn host call s (v :: vs) (t :: ts) w

/-- How an item that names no tag stops the reading: its look-up stops, or its written form does, or it is reported
    with its position. -/
inductive Unnamed (host : Host) (call : Caller) (item : Value) (position : Nat) (s : Store) : Stop → Store → Prop
  | stopped {e : Stop} {u : Store} (h : (askTag host call item).on s = (.error e, u)) :
    Unnamed host call item position s e u
  | unwritten {e : Stop} {u w : Store} (h : (askTag host call item).on s = (.ok none, u))
    (hwritten : (item.askWritten call host.writingDepth).on u = (.error e, w)) :
    Unnamed host call item position s e w
  | reported {written : String} {u w : Store} (h : (askTag host call item).on s = (.ok none, u))
    (hwritten : (item.askWritten call host.writingDepth).on u = (.ok written, w)) :
    Unnamed host call item position s (.failed (.signature (.unknownTag item written position))) w

theorem NamedInTurn.length_eq (h : NamedInTurn host call s vs ts u) : vs.length = ts.length := by
  induction h with
  | nil => rfl
  | cons _ _ ih => rw [List.length_cons, List.length_cons, ih]

/-- A row of names is read tag by tag. -/
theorem NamedInTurn.on_askTags (h : NamedInTurn host call s vs ts u) (n : Nat) :
    (askTags host call n vs).on s = (.ok ts, u) := by
  induction h generalizing n with
  | nil => rfl
  | cons h _ ih => exact (Exec.on_bind_ok h).trans ((Exec.on_bind_ok (ih (n + 1))).trans rfl)

theorem Unnamed.on_askTags (h : Unnamed host call item n s e u) (after : List Value) :
    (askTags host call n (item :: after)).on s = (.error e, u) := by
  cases h with
  | stopped h => exact Exec.on_bind_error h
  | unwritten h hwritten => exact (Exec.on_bind_ok h).trans (Exec.on_bind_error hwritten)
  | reported h hwritten => exact (Exec.on_bind_ok h).trans ((Exec.on_bind_ok hwritten).trans rfl)

/-- The first item that names no tag ends the reading, whatever comes after it. -/
theorem on_askTags_of_unnamed (h : NamedInTurn host call s before ts u)
    (hitem : Unnamed host call item (n + before.length) u e w) (after : List Value) :
    (askTags host call n (before ++ item :: after)).on s = (.error e, w) := by
  induction h generalizing n with
  | nil => exact hitem.on_askTags after
  | @cons _ _ _ v vs t ts h _ ih =>
    rw [List.length_cons, Nat.add_comm vs.length, ← Nat.add_assoc] at hitem
    exact (Exec.on_bind_ok h).trans (Exec.on_bind_error (ih hitem))

/-- The items of a row name tags in turn, up to the first that names none, if there is one. -/
theorem named_or_unnamed (host : Host) (call : Caller) (vs : List Value) (n : Nat) (s : Store) :
    (∃ ts u, NamedInTurn host call s vs ts u) ∨
    ∃ before item after ts u e w, vs = before ++ item :: after ∧ NamedInTurn host call s before ts u ∧
      Unnamed host call item (n + before.length) u e w := by
  induction vs generalizing n s with
  | nil => exact .inl ⟨[], s, .nil⟩
  | cons v vs ih =>
    have unnamed {e : Stop} {w : Store} (h : Unnamed host call v n s e w) :
        ∃ before item after ts u e w, v :: vs = before ++ item :: after ∧ NamedInTurn host call s before ts u ∧
          Unnamed host call item (n + before.length) u e w :=
      ⟨[], v, vs, [], s, e, w, rfl, .nil, h⟩
    rcases htag : (askTag host call v).on s with ⟨e | _ | t, u⟩
    · exact .inr (unnamed (.stopped htag))
    · rcases hwritten : (v.askWritten call host.writingDepth).on u with ⟨e | written, w⟩
      · exact .inr (unnamed (.unwritten htag hwritten))
      · exact .inr (unnamed (.reported htag hwritten))
    · rcases ih (n + 1) u with ⟨ts, w, hts⟩ | ⟨before, item, after, ts, w, e, x, rfl, hts, hitem⟩
      · exact .inl ⟨t :: ts, w, .cons htag hts⟩
      · refine .inr ⟨v :: before, item, after, t :: ts, w, e, x, rfl, .cons htag hts, ?_⟩
        rwa [List.length_cons, Nat.add_comm before.length, ← Nat.add_assoc]

/-! ### Signatures -/

/-- What reading a value as a signature comes to on a store, where it may have to be asked. -/
inductive Parsing (host : Host) (call : Caller) (v : Value) (s : Store) : Except Stop Signature × Store → Prop
  | unwritten {e : Stop} {u : Store} (h : ¬v.HoldsTags)
    (hwritten : (v.askWritten call host.writingDepth).on s = (.error e, u)) : Parsing host call v s (.error e, u)
  | notSequence {written : String} {u : Store} (h : ¬v.HoldsTags)
    (hwritten : (v.askWritten call host.writingDepth).on s = (.ok written, u)) :
    Parsing host call v s (.error (.failed (.signature (.notSequence v written))), u)
  | unnamed {before after : List Value} {item : Value} {ts : List Tag} {u w : Store} {e : Stop} (h : v.HoldsTags)
    (hitems : v.items? = some (before ++ item :: after)) (hbefore : NamedInTurn host call s before ts u)
    (hitem : Unnamed host call item before.length u e w) : Parsing host call v s (.error e, w)
  | empty (h : v.HoldsTags) (hitems : v.items? = some []) :
    Parsing host call v s (.error (.failed (.signature .empty)), s)
  | signature {items : List Value} {sig : Signature} {u : Store} (h : v.HoldsTags) (hitems : v.items? = some items)
    (hnames : NamedInTurn host call s items sig.tags u) : Parsing host call v s (.ok sig, u)

theorem ask_of_items (h : v.HoldsTags) (hitems : v.items? = some vs) : ask host call v =
    askTags host call 0 vs >>= fun ts => (ofTags? ts).elim (Exec.fail (.signature .empty)) pure := by
  simp only [ask, Value.isTagSequence_iff.mpr h, ↓reduceIte, hitems]
  exact bind_congr fun ts => by cases ofTags? ts <;> rfl

theorem ask_of_not_holdsTags (h : ¬v.HoldsTags) :
    ask host call v = (do Exec.fail (.signature (.notSequence v (← v.askWritten call host.writingDepth)))) := by
  rw [ask, if_neg (mt Value.isTagSequence_iff.mp h)]

theorem Parsing.eq_ask {r : Except Stop Signature × Store} (h : Parsing host call v s r) :
    r = (ask host call v).on s := by
  cases h with
  | unwritten h hwritten => rw [ask_of_not_holdsTags h, Exec.on_bind_error hwritten]
  | notSequence h hwritten => rw [ask_of_not_holdsTags h, Exec.on_bind_ok hwritten, Exec.on_fail]
  | unnamed h hitems hbefore hitem =>
    rw [← Nat.zero_add (List.length _)] at hitem
    rw [ask_of_items h hitems, Exec.on_bind_error (on_askTags_of_unnamed hbefore hitem _)]
  | empty h hitems => rw [ask_of_items h hitems, Exec.on_bind_ok (NamedInTurn.nil.on_askTags 0)]; rfl
  | signature h hitems hnames =>
    rw [ask_of_items h hitems, Exec.on_bind_ok (hnames.on_askTags 0), ofTags?_tags]
    rfl

theorem parsing_ask (host : Host) (call : Caller) (hv : v.HoldsTags → ∃ vs, v.items? = some vs) (s : Store) :
    Parsing host call v s ((ask host call v).on s) := by
  have reads {r : Except Stop Signature × Store} (h : Parsing host call v s r) :
      Parsing host call v s ((ask host call v).on s) := h.eq_ask ▸ h
  by_cases h : v.HoldsTags
  · obtain ⟨vs, hitems⟩ := hv h
    rcases named_or_unnamed host call vs 0 s with ⟨ts, u, hts⟩ | ⟨before, item, after, ts, u, e, w, rfl, hts, hitem⟩
    · cases hsig : ofTags? ts with
      | none =>
        obtain rfl := ofTags?_eq_none_iff.mp hsig
        cases hts
        exact reads (.empty h hitems)
      | some sig =>
        obtain rfl := ofTags?_eq_some_iff.mp hsig
        exact reads (.signature h hitems hts)
    · rw [Nat.zero_add] at hitem
      exact reads (.unnamed h hitems hts hitem)
  · rcases hwritten : (v.askWritten call host.writingDepth).on s with ⟨e | written, u⟩
    · exact reads (.unwritten h hwritten)
    · exact reads (.notSequence h hwritten)

/-! ### What is asked -/

/-- A stop of what is asked where a value is read as a signature: the written form of the value, or an item of it,
    for its tag or for its written form. -/
inductive AnswerStops (host : Host) (call : Caller) (v : Value) (e : Stop) : Prop
  | written {s u : Store} (h : (v.askWritten call host.writingDepth).on s = (.error e, u))
  | tag {vs : List Value} {item : Value} {s u : Store} (hitems : v.items? = some vs) (hitem : item ∈ vs)
    (h : (askTag host call item).on s = (.error e, u))
  | writtenItem {vs : List Value} {item : Value} {s u : Store} (hitems : v.items? = some vs) (hitem : item ∈ vs)
    (h : (item.askWritten call host.writingDepth).on s = (.error e, u))

/-- Every stop is the error of a bad value, or was answered. -/
theorem Parsing.badValue_or_answerStops (h : Parsing host call v s (.error e, u)) :
    (∃ f, e = .failed f ∧ f.className = "ValueError") ∨ AnswerStops host call v e := by
  cases h with
  | unwritten _ hwritten => exact .inr (.written hwritten)
  | notSequence => exact .inl ⟨_, rfl, rfl⟩
  | unnamed _ hitems _ hitem =>
    have hmem {before after : List Value} {item : Value} : item ∈ before ++ item :: after :=
      List.mem_append_right _ List.mem_cons_self
    cases hitem with
    | stopped h => exact .inr (.tag hitems hmem h)
    | unwritten _ hwritten => exact .inr (.writtenItem hitems hmem hwritten)
    | reported => exact .inl ⟨_, rfl, rfl⟩
  | empty => exact .inl ⟨_, rfl, rfl⟩

/-- How values name tags. One names none if its look-up fails for a bad value, and what else stops the look-up
    passes. One whose class says nothing of what it equals or of its hash names the tag whose text it equals. An
    object that is no key names the first tag that it says it equals, and one with a hash that is no text's
    names none. -/
structure Naming (host : Host) (call : Caller) : Prop where
  notFound : ∀ v s u, (askTag host call v).on s = (.ok none, u) ↔
    ∃ f, (Tag.closedSet.find host call v).on s = (.error (.failed f), u) ∧ f.general = "ValueError"
  stopped : ∀ v s e u, (askTag host call v).on s = (.error e, u) ↔
    (Tag.closedSet.find host call v).on s = (.error e, u) ∧ ∀ f, e = .failed f → f.general ≠ "ValueError"
  byText : ∀ v : Value, v.classAttribute? Value.equalityName = none → v.classAttribute? Value.hashName = none →
    ∀ s t u, (askTag host call v).on s = (.ok (some t), u) ↔ v.Names t ∧ u = s
  byAnswers : ∀ id family, Value.refusesKeys family = true → ∀ s t u,
    (askTag host call (.object id family)).on s = (.ok (some t), u) ↔
      Value.FirstEqual call (.object id family) s Tag.all t u
  notByHash : ∀ id family s h? s', ((Value.object id family).askHash call).on s = (.ok h?, s') →
    (∀ h ∈ h?, ∀ t : Tag, host.textHash t.text ≠ some h) → ∀ t u,
    (askTag host call (.object id family)).on s ≠ (.ok (some t), u)

theorem naming (host : Host) (call : Caller) : Naming host call where
  notFound _ _ _ := on_askTag_eq_none
  stopped _ _ _ _ := on_askTag_eq_error
  byText _ hequality hhash _ _ _ := on_askTag_eq_some.trans (Value.on_find?_eq_some_iff_names hequality hhash)
  byAnswers _ _ h _ _ _ := on_askTag_eq_some.trans (Value.on_find?_eq_some_iff_firstEqual h)
  notByHash _ _ _ _ _ hhash htext _ _ h := Value.find?_ne_some_of_askHash hhash htext (on_askTag_eq_some.mp h)

/-- An object that says it equals everything, and is no key, names the first of all tags. -/
example :
    let agreeable : Value := .object 1 (.ownClass 2 "K"
      [(Value.equalityName, .routine 3 ⟨"eq", .empty, .constant (.atom (.boolean true))⟩)])
    ((askTag .usual caller agreeable).on .initial).1 = .ok (some .null) := rfl

/-! ### Values that name tags as they are -/

theorem on_askTag_of_names {t : Tag} (h : v.Names t) (s : Store) : (askTag host call v).on s = (.ok (some t), s) := by
  cases v with
  | object id family =>
    rw [Value.Names, Value.equal_ofString] at h
    cases h
  | _ => exact ((naming host call).byText _ rfl rfl s t s).mpr ⟨h, rfl⟩

theorem namedInTurn_of_names (h : List.Forall₂ Value.Names vs ts) (s : Store) : NamedInTurn host call s vs ts s := by
  induction h with
  | nil => exact .nil
  | cons hv _ ih => exact .cons (on_askTag_of_names hv s) ih

/-- What is read of items that name tags as they are is read so in every environment. -/
theorem on_ask_of_read {sig : Signature} (h : read v = .ok sig) (s : Store) : (ask host call v).on s = (.ok sig, s) := by
  cases reading_of_read h with
  | signature hv hitems hnames => exact (Parsing.signature hv hitems (namedInTurn_of_names hnames s)).eq_ask.symm

/-! ### Reading -/

/-- A value that yields its items where it can hold tags is read as its items say in turn, and in no other way. It
    is a signature just if it can hold tags, has items, and each of them names a tag, in turn; the error of all else
    is that of a bad value, or what stops an answer. If nothing answers for itself, its items name tags as they
    are, and every error is that of a bad value. -/
theorem parsing_iff (host : Host) (call : Caller) {v : Value} (hv : v.HoldsTags → ∃ vs, v.items? = some vs) :
    (∀ s r, Parsing host call v s r ↔ r = (ask host call v).on s) ∧
    (∀ s sig u, (ask host call v).on s = (.ok sig, u) ↔
      v.HoldsTags ∧ ∃ vs, v.items? = some vs ∧ vs ≠ [] ∧ NamedInTurn host call s vs sig.tags u) ∧
    (∀ s e u, (ask host call v).on s = (.error e, u) →
      (∃ f, e = .failed f ∧ f.className = "ValueError") ∨ AnswerStops host call v e) ∧
    Naming host call ∧
    (isPlainFor host v = true →
      ask host call v = Exec.lift Failure.signature (read v) ∧
      (∀ r, Reading v r ↔ r = read v) ∧
      ((∃ sig, read v = .ok sig) ↔
        v.HoldsTags ∧ ∃ vs, v.items? = some vs ∧ vs ≠ [] ∧ ∀ w ∈ vs, ∃ t, w.Names t) ∧
      ∀ f, read v = .error f → (Failure.signature f).className = "ValueError") := by
  have hparsing := parsing_ask host call hv
  refine ⟨fun s r => ⟨Parsing.eq_ask, fun hr => hr ▸ hparsing s⟩, fun s sig u => ⟨fun h => ?_, ?_⟩, fun s e u h => ?_,
    naming host call, fun h => ⟨ask_of_isPlainFor h, reading_iff hv⟩⟩
  · have hread := hparsing s
    rw [h] at hread
    cases hread with
    | signature hv hitems hnames =>
      refine ⟨hv, _, hitems, ?_, hnames⟩
      rintro rfl
      exact sig.tags_ne_nil (List.length_eq_zero_iff.mp hnames.length_eq.symm)
  · rintro ⟨hv, vs, hitems, -, hnames⟩
    exact (Parsing.signature hv hitems hnames).eq_ask.symm
  · have hread := hparsing s
    rw [h] at hread
    exact hread.badValue_or_answerStops

/-- A sequence by its class, of a wrapped text, a text of the array library, an array of one text, a text in
    the wrong case and a text that names a tag. -/
def mixedRow : Value :=
  .custom 1 ⟨"Row", none, some [.wrappedText 2 "Number", .scalar 3 (.text "String"), .array 4 ⟨"<U4", [.text "Void"]⟩,
    .text 5 "number", .text 6 "Null"], ⟨false, true, false, none⟩, none⟩

/-- The first three items name tags, and the fourth is reported. -/
theorem parsing_iff_mixedRow :
    let r : Except SignatureFault Signature := .error (.unknownTag (.text 5 "number") "'number'" 3)
    (mixedRow.HoldsTags → ∃ vs, mixedRow.items? = some vs) ∧ isPlainFor .usual mixedRow = true ∧
      Parsing .usual caller mixedRow .initial (r.mapError fun f => .failed (.signature f), .initial) ∧
      ask .usual caller mixedRow = Exec.lift Failure.signature r ∧ Reading mixedRow r := by
  intro r
  have hitems : mixedRow.HoldsTags → ∃ vs, mixedRow.items? = some vs := fun _ => ⟨_, rfl⟩
  have hplain : isPlainFor .usual mixedRow = true := rfl
  have hread : read mixedRow = r := rfl
  obtain ⟨hparsing, -, -, -, hmeaning⟩ := parsing_iff .usual caller hitems
  obtain ⟨hask, hreading, -⟩ := hmeaning hplain
  have hon : (ask .usual caller mixedRow).on .initial = (r.mapError fun f => .failed (.signature f), .initial) := by
    rw [hask, hread, Exec.on_lift]
  exact ⟨hitems, hplain, (hparsing _ _).mpr hon.symm, hask.trans (by rw [hread]), (hreading r).mpr hread.symm⟩

/-- An object that says it equals the text of one tag, has a hash and gives its written form. -/
def hashedNumber : Value :=
  .object 1 (.ownClass 2 "KH" [
    (Value.equalityName, .routine 3 ⟨"eq", .empty, .equal (.argument 0) (.constant (.text 4 "Number"))⟩),
    (Value.hashName, .routine 5 ⟨"hash", .empty, .constant (.integer 6 1)⟩),
    (Value.writtenName, .routine 7 ⟨"repr", .empty, .constant (.text 8 "<KH>")⟩)])

/-- A row of one object that equals the text of a tag is no signature: the object is looked up by its hash first. -/
theorem ask_hashedNumber :
    let v : Value := .list [hashedNumber]
    v.HoldsTags ∧ v.items? = some [hashedNumber] ∧
      ((hashedNumber.askEqual caller (.ofString Tag.number.text)).on .initial).1 = .ok true ∧
      ((ask .usual caller v).on .initial).1 = .error (.failed (.signature (.unknownTag hashedNumber "<KH>" 0))) := by
  intro v
  exact ⟨Value.isTagSequence_iff.mp rfl, rfl, rfl, rfl⟩

end CallGuard.Signature
