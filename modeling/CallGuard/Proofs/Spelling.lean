import CallGuard.Proofs.SignatureParsing
import CallGuard.Proofs.Wrapping

/-! Signatures mean their tags, however they are written. A tag can be given as it is, as its text in any kind of
    text, and as an array of its text alone (`names_iff_spells`). Whatever holds a row of tags that are written so
    is read as the same signature; a signature that was read is read as itself, from its tags and from their
    texts; and to wrap a function with a value or with its items one by one is the same, also where they are no
    signature (`meaning_of_read`). -/

namespace CallGuard

/-! ### Ways of writing a tag -/

/-- A value writes a tag: it is the tag or its text, in one of the kinds of texts that there are, or an array that
    holds its text and nothing else, or it is of a class that is built on one of these. -/
inductive Spells (t : Tag) : Value → Prop
  | itself : Spells t (.tag t)
  | text (i : ObjectId) : Spells t (.text i t.text)
  | wrapped (i : ObjectId) : Spells t (.wrappedText i t.text)
  | scalar (i : ObjectId) : Spells t (.scalar i (.text t.text))
  | array (i : ObjectId) (format : String) : Spells t (.array i ⟨format, [.text t.text]⟩)
  | stock (i : ObjectId) {s : Stock} (h : s.nature = .text t.text) : Spells t (.stock i s)
  | derived (i : ObjectId) (className : String) {v : Value} (items : Option (List Value)) (traits : AddedTraits)
    (replies : Option Replies) (hv : Spells t v) (hwrapped : ∀ j s, v ≠ .wrappedText j s)
    (hcustom : ∀ j c, v ≠ .custom j c) : Spells t (.custom i ⟨className, some v, items, traits, replies⟩)

namespace Value
variable {v : Value} {t : Tag}

theorem spells_of_core (hv : ∀ i c, v ≠ .custom i c) (h : v.equalText? = .ok (some t.text)) : Spells t v := by
  cases v with
  | custom i c => exact absurd rfl (hv i c)
  | tag u =>
    have hu : u.text = t.text := by simpa [equalText?, core, likeText?, text?] using h
    exact Tag.text_injective hu ▸ .itself
  | text i s =>
    have hs : s = t.text := by simpa [equalText?, core, likeText?, text?] using h
    exact hs ▸ .text i
  | wrappedText i s =>
    have hs : s = t.text := by simpa [equalText?, core, likeText?, text?] using h
    exact hs ▸ .wrapped i
  | scalar i x =>
    have hx := likeText?_of_scalar (a := .scalar i x) (s := t.text) rfl
    rw [equalText?_of_ne_array (by simp [core]), Except.ok.injEq] at h
    exact hx.mp h ▸ .scalar i
  | array i g =>
    obtain ⟨format, items⟩ := g
    have hitems : items = [.text t.text] := (equalText?_of_array (a := .array i ⟨format, items⟩) rfl).mp h
    exact hitems ▸ .array i format
  | stock i s =>
    have hs : (Value.stock i s).text? = some t.text := by simpa [equalText?, core, likeText?] using h
    simp only [text?, core] at hs
    split at hs
    · next u hu => exact .stock i (hu.trans (congrArg Nature.text (Option.some.inj hs)))
    · cases hs
  | _ => simp [equalText?, core, likeText?, text?] at h

/-- A value of a class of its own is looked up as what it is built on, unless that is wrapped itself. -/
theorem equalText?_derived {i : ObjectId} {className : String} {items : Option (List Value)} {traits : AddedTraits}
    {replies : Option Replies} (hwrapped : ∀ j s, v ≠ .wrappedText j s) (hcustom : ∀ j c, v ≠ .custom j c) :
    (Value.custom i ⟨className, some v, items, traits, replies⟩).equalText? = v.equalText? := by
  cases v with
  | wrappedText j s => exact absurd rfl (hwrapped j s)
  | custom j c => exact absurd rfl (hcustom j c)
  | _ => rfl

theorem equalText_of_spells (h : Spells t v) : v.equalText? = .ok (some t.text) := by
  induction h with
  | stock i h => simp [equalText?, core, likeText?, text?, h]
  | derived i className items traits replies _ hwrapped hcustom ih => rw [equalText?_derived hwrapped hcustom, ih]
  | _ => rfl

/-- What equals the text of a tag is what writes the tag. -/
theorem names_iff_spells : v.Names t ↔ Spells t v := by
  rw [Names, equal_ofString]
  refine ⟨fun h => ?_, equalText_of_spells⟩
  by_cases hcustom : ∃ i c, v = .custom i c
  · obtain ⟨i, ⟨className, content, items, traits, replies⟩, rfl⟩ := hcustom
    cases content with
    | none => cases h
    | some w =>
      -- What is wrapped already has no text to be built on.
      have hwrapped : ∀ j s, w ≠ .wrappedText j s := by
        rintro j s rfl
        cases h
      have hcustom : ∀ j c, w ≠ .custom j c := by
        rintro j c rfl
        cases h
      rw [equalText?_derived hwrapped hcustom] at h
      exact .derived i className items traits replies (spells_of_core hcustom h) hwrapped hcustom
  · exact spells_of_core (fun i c hv => hcustom ⟨i, c, hv⟩) h

theorem holdsTags_sequence (i : ObjectId) (kind : SequenceKind) (vs : List Value) :
    (Value.sequence i kind vs).HoldsTags where
  isSequence := rfl
  notText := rfl
  notOctets := ⟨nofun, nofun⟩

end Value

/-! ### Signatures -/

namespace Signature
variable {v : Value} {vs ws : List Value} {ts : List Tag} {sig : Signature}

/-- An item is replaced by one that names the tag that it names, if it names one. -/
def Respelled (w w' : Value) : Prop := ∀ t, w.Names t → w'.Names t

theorem names_of_respelled (h : List.Forall₂ Respelled vs ws) (hnames : List.Forall₂ Value.Names vs ts) :
    List.Forall₂ Value.Names ws ts := by
  induction hnames generalizing ws with
  | nil =>
    cases h
    exact .nil
  | cons hv _ ih =>
    cases h with
    | cons hw h => exact .cons (hw _ hv) (ih h)

theorem names_of_read (hitems : v.items? = some vs) (hread : read v = .ok sig) :
    List.Forall₂ Value.Names vs sig.tags := by
  cases reading_of_read hread with
  | signature _ hitems' hnames =>
    cases hitems.symm.trans hitems'
    exact hnames

theorem read_of_names (hv : v.HoldsTags) (hitems : v.items? = some vs) (h : List.Forall₂ Value.Names vs sig.tags) :
    read v = .ok sig := (Reading.signature hv hitems h).eq_read.symm

/-- A row of any kind whose items write the tags of a signature one by one is read as the signature. -/
theorem read_of_spells (i : ObjectId) (kind : SequenceKind)
    (h : List.Forall₂ (fun w t => Spells t w) ws sig.tags) : read (.sequence i kind ws) = .ok sig :=
  read_of_names (Value.holdsTags_sequence i kind ws) rfl (h.imp fun _ _ => Value.names_iff_spells.mpr)

/-- A value is read like the tuple of its items. -/
theorem read_tuple (hv : v.HoldsTags) (hitems : v.items? = some vs) : read (.tuple vs) = read v := by
  have htuple : read (.tuple vs) = ofItems vs := read_of_items (Value.holdsTags_sequence 0 .tuple vs) rfl
  rw [htuple, read_of_items hv hitems]

/-- A signature means its tags. What is no object of a class that is made on the way names a tag if it is the tag in
    one of the ways of writing it. What is read as a signature, is read so in every environment, and from any other
    value that can hold tags, if item by item the same tags are named; it is read again from a row of its tags, and
    from a row of their texts. Wrapping a function with the items of a value one by one does what wrapping it with
    the value does, signature or not. -/
theorem meaning_of_read {v : Value} {vs : List Value} (hv : v.HoldsTags) (hitems : v.items? = some vs) :
    (∀ w t, (∀ id family, w ≠ .object id family) → (w.Names t ↔ Spells t w)) ∧
    (∀ w sig, read w = .ok sig → ∀ host call s, (ask host call w).on s = (.ok sig, s)) ∧
    (∀ sig, read v = .ok sig →
      (∀ v' vs', v'.HoldsTags → v'.items? = some vs' → List.Forall₂ Respelled vs vs' → read v' = .ok sig) ∧
      (∀ i kind, read (.sequence i kind (sig.tags.map .tag)) = .ok sig) ∧
      ∀ i kind ws, List.Forall₂ (fun w t => ∃ j, w = .text j (Value.tag t).shown) ws sig.tags →
        read (.sequence i kind ws) = .ok sig) ∧
    ∀ call implementation name, Value.wrapTyped call vs implementation name = Value.wrap call v implementation name := by
  refine ⟨fun _ _ _ => Value.names_iff_spells, fun _ _ h _ _ => on_ask_of_read h,
    fun sig hread => ⟨fun v' vs' hv' hitems' h => ?_, ?_, ?_⟩, ?_⟩
  · exact read_of_names hv' hitems' (names_of_respelled h (names_of_read hitems hread))
  · intro i kind
    exact read_of_spells i kind (List.forall₂_map_left_iff.mpr (List.forall₂_same.mpr fun _ _ => .itself))
  · intro i kind ws h
    refine read_of_spells i kind (h.imp ?_)
    rintro w t ⟨j, rfl⟩
    exact .text j
  · exact fun call implementation name => Value.wrap_congr (read_tuple hv hitems)

/-- A row by its class, of a wrapped text, a text of the array library, an array of one text and a text of a class
    of its own. -/
def motleyRow : Value :=
  .custom 1 ⟨"Row", none, some [.wrappedText 2 "Number", .scalar 3 (.text "String"), .array 4 ⟨"<U4", [.text "Void"]⟩,
    .custom 5 ⟨"Name", some (.text 6 "Null"), none, ⟨false, false, false, none⟩, none⟩],
    ⟨false, true, false, none⟩, none⟩

/-- The same tags in a queue, as they are and by their texts. -/
def plainRow : List Value := [.tag .number, .text 7 "String", .tag .void, .text 8 "Null"]

/-- Both rows are read as one signature, and both ways of wrapping with the first come to the same. -/
theorem meaning_of_read_motley :
    let sig : Signature := ⟨[.number, .string, .void], .null⟩
    let vs : List Value := [.wrappedText 2 "Number", .scalar 3 (.text "String"), .array 4 ⟨"<U4", [.text "Void"]⟩,
      .custom 5 ⟨"Name", some (.text 6 "Null"), none, ⟨false, false, false, none⟩, none⟩]
    let f : Value := .routine 9 ⟨"f", .empty, .constant (.atom .null)⟩
    motleyRow.HoldsTags ∧ motleyRow.items? = some vs ∧ read motleyRow = .ok sig ∧
      (ask .usual caller motleyRow).on .initial = (.ok sig, .initial) ∧
      List.Forall₂ Respelled vs plainRow ∧ read (.sequence 10 .deque plainRow) = .ok sig ∧
      read (.tuple (sig.tags.map .tag)) = .ok sig ∧
      Value.wrapTyped caller vs f .null = Value.wrap caller motleyRow f .null := by
  intro sig vs f
  have hv : motleyRow.HoldsTags := Value.isTagSequence_iff.mp rfl
  have hitems : motleyRow.items? = some vs := rfl
  have hread : read motleyRow = .ok sig := rfl
  obtain ⟨hnames, hask, hmeaning, hwrap⟩ := meaning_of_read hv hitems
  obtain ⟨hspelled, htags, -⟩ := hmeaning sig hread
  have named {w : Value} {t : Tag} (h : Spells t w) : w.Names t := (hnames w t (by rintro id family rfl; cases h)).mpr h
  have same {w w' : Value} {t : Tag} (h : Spells t w) (h' : Spells t w') : Respelled w w' := by
    intro u hu
    have hut := (Value.names_iff.mp hu).symm.trans (Value.names_iff.mp (named h))
    obtain rfl : u = t := Option.some.inj (Except.ok.inj hut)
    exact named h'
  have hrow : List.Forall₂ Respelled vs plainRow := by
    refine .cons (same (t := .number) (.wrapped 2) .itself) (.cons (same (t := .string) (.scalar 3) (.text 7)) ?_)
    refine .cons (same (t := .void) (.array 4 "<U4") .itself) (.cons (same (t := .null) ?_ (.text 8)) .nil)
    exact .derived 5 "Name" none _ none (.text 6) (by simp) (by simp)
  exact ⟨hv, hitems, hread, hask _ _ hread _ _ _, hrow, hspelled _ _ (Value.holdsTags_sequence 10 .deque plainRow) rfl hrow,
    htags 0 .tuple, hwrap caller f .null⟩

end Signature
end CallGuard
