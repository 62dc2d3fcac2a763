import CallGuard.Proofs.Running
import Mathlib.Data.List.Forall2

/-! What reading a signature comes to whose items are taken as they are, said without the order in which it is
    read. An item names a tag if it equals the text of the tag: a text of any kind does, and an array with such
    a text for its one item. A sequence that can hold tags is a signature exactly if it has items and each
    names a tag. If it is none, the item that names no tag and stands first is reported with its position,
    whatever comes after it, and a sequence without items for having none (`reading_iff`). -/

namespace CallGuard

/-! ### Being equal to a text -/

namespace Value
variable {a : Value} {s : String}

theorem same_ofString (h : a.likeText? = none) : same a (.ofString s) = false := by
  cases a with
  | text i t => cases h
  | _ => simp [same, ofString, id?]

theorem scalarEqual_ofString (mode : Comparing) (x : Scalar) (s : String) :
    scalarEqual mode x (.ofString s) = .ok (decide (x = .text s)) := by
  cases x with
  | text t =>
    have ht : (some s == some t) = decide (Scalar.text t = .text s) := by
      rw [Bool.eq_iff_iff, beq_iff_eq, decide_eq_true_iff, Option.some.injEq, Scalar.text.injEq]
      exact eq_comm
    exact congrArg Except.ok ht
  | duration d => cases d <;> simp [scalarEqual, ofString, index?, integer?, core]
  | octets bs => simp [scalarEqual, ofString, octets?, core]
  | _ => simp [scalarEqual, ofString, numbersEqual?, number?, core]

theorem gridEqual_eq_soleOutcome (mode : Comparing) (g : Grid) (s : String) :
    gridEqual mode g (.ofString s) = soleOutcome (g.items.map fun x => decide (x = .text s)) := by
  have hrow : (ofString s).row? = none := rfl
  have hitems : (g.items.mapM fun x => scalarEqual mode x (.ofString s)) =
      .ok (g.items.map fun x => decide (x = .text s)) := by
    rw [funext fun x => scalarEqual_ofString mode x s]
    exact List.mapM_pure
  simp only [gridEqual, hrow, hitems]
  rfl

theorem gridEqual_ofString (mode : Comparing) (g : Grid) :
    gridEqual mode g (.ofString s) = .ok true ↔ g.items = [.text s] := by
  rw [gridEqual_eq_soleOutcome]
  match g.items with
  | [] => simp [soleOutcome, soleTruth]
  | [x] => simp [soleOutcome, soleTruth]
  | x :: y :: zs => simp [soleOutcome, soleTruth]

theorem equalText?_of_array {i : ObjectId} {g : Grid} (h : a.core = .array i g) :
    a.equalText? = .ok (some s) ↔ g.items = [.text s] := by
  unfold equalText?
  rw [h]
  dsimp only
  match g.items with
  | [] => simp
  | [x] => cases x <;> simp
  | x :: y :: zs => simp

theorem equalText?_of_ne_array (h : ∀ i g, a.core ≠ .array i g) : a.equalText? = .ok a.likeText? := by
  unfold equalText?
  split
  · next i g hg => exact absurd hg (h i g)
  · rfl

theorem equalText?_of_isContainer {i : ObjectId} {n : String} {is : Option (List Value)} {ts : AddedTraits}
    {re : Option Replies} (ha : a.isContainer = true) :
    (Value.custom i ⟨n, some a, is, ts, re⟩).equalText? = a.equalText? := by
  cases a <;> first | rfl | cases ha

theorem likeText?_of_scalar {i : ObjectId} {x : Scalar} (h : a.core = .scalar i x) :
    a.likeText? = some s ↔ x = .text s := by
  have htext : a.text? = some s ↔ x = .text s := by
    unfold text?
    rw [h]
    cases x <;> simp
  unfold likeText?
  split
  · cases h
  · exact htext

/-- An array equals a text if the text is its only item, and all else if it is like the text. -/
theorem atomEqual_ofString (mode : Comparing) :
    atomEqual mode a (.ofString s) = .ok true ↔ a.equalText? = .ok (some s) := by
  have hcore : (ofString s).core = .text 0 s := rfl
  have hlike : (ofString s).likeText? = some s := rfl
  have hoctets : (ofString s).octets? = none := rfl
  have hrow : (ofString s).row? = none := rfl
  unfold atomEqual
  rw [hcore]
  split
  · next i g ha => rw [gridEqual_ofString, equalText?_of_array ha]
  · next hb _ => cases hb
  · next i x ha _ =>
    rw [equalText?_of_ne_array (by simp [ha]), Except.ok.injEq, likeText?_of_scalar ha, scalarEqualAny, hrow]
    simp [scalarEqual_ofString]
  · next hb _ _ => cases hb
  · next _ hb => cases hb
  · next harray _ _ _ _ =>
    have hnumbers : numbersEqual? mode a.core (.text 0 s) = none := by
      simp only [numbersEqual?, show (Value.text 0 s).number? = none from rfl]
      cases a.core.number? <;> rfl
    rw [hnumbers, hlike, hoctets, equalText?_of_ne_array harray, Except.ok.injEq]
    cases ha : a.likeText? with
    | none => cases a.octets? <;> simp [same_ofString ha]
    | some t => simp

theorem equalIn_ofString (mode : Comparing) (hcustom : ∀ i c, a ≠ .custom i c) :
    equalIn mode a (.ofString s) = .ok true ↔ a.equalText? = .ok (some s) := by
  cases a with
  | custom i c => exact absurd rfl (hcustom i c)
  | stock i x =>
    simp only [equalIn, stockEqualAny]
    split
    · exact atomEqual_ofString mode
    · split
      · next hnature => simp [entries?, core, ofString, equalText?, likeText?, text?, hnature]
      · exact atomEqual_ofString mode
  | _ =>
    simp only [equalIn, show ofString s = .text 0 s from rfl]
    exact atomEqual_ofString mode

/-- What a look-up takes for a text is what equals the text. -/
theorem equal_ofString : a.equal (.ofString s) = .ok true ↔ a.equalText? = .ok (some s) := by
  unfold equal
  by_cases hcustom : ∃ i c, a = .custom i c
  · obtain ⟨i, ⟨n, content, is, ts, re⟩, rfl⟩ := hcustom
    cases content with
    | none => exact atomEqual_ofString _
    | some v =>
      -- A class that is built on a container is compared by it, and any other as an atom.
      rw [equalIn]
      split
      · next hv =>
        rw [equalText?_of_isContainer hv]
        refine equalIn_ofString _ ?_
        rintro i c rfl
        cases hv
      · exact atomEqual_ofString _
  · exact equalIn_ofString _ fun i c h => hcustom ⟨i, c, h⟩

/-! ### Names of tags -/

/-- A value names a tag: it equals the text of the tag. -/
def Names (v : Value) (t : Tag) : Prop := v.equal (.ofString t.text) = .ok true

theorem names_iff {v : Value} {t : Tag} : v.Names t ↔ Tag.ofValue? v = .ok (some t) := by
  rw [Names, equal_ofString, Tag.ofValue?]
  rcases v.equalText? with a | _ | s
  · simp [bind, Except.bind]
  · simp [bind, Except.bind, pure, Except.pure]
  · simp [bind, Except.bind, pure, Except.pure, Tag.ofText?_eq_some_iff]

/-- A value can hold tags: it is a sequence, and neither a text nor octets that cannot be changed, nor of a
    class that is built on these. -/
structure HoldsTags (v : Value) : Prop where
  isSequence : v.traits.sequence = true
  notText : v.isText = false
  notOctets : (∀ i bs, v.core ≠ .octets i false bs) ∧ ∀ i bs, v.core ≠ .scalar i (.octets bs)

theorem isTagSequence_iff {v : Value} : v.isTagSequence = true ↔ v.HoldsTags := by
  have changeable (ho : (∀ i bs, v.core ≠ .octets i false bs) ∧ ∀ i bs, v.core ≠ .scalar i (.octets bs)) :
      (v.traits.sequence && !v.traits.text && true) = true ↔ v.HoldsTags := by
    rw [Bool.and_true, Bool.and_eq_true, Bool.not_eq_true']
    exact ⟨fun ⟨hsequence, htext⟩ => ⟨hsequence, htext, ho⟩, fun h => ⟨h.isSequence, h.notText⟩⟩
  unfold isTagSequence
  split
  · next i mutable bs hcore =>
    cases mutable with
    | false => exact iff_of_false (by simp) fun h => h.notOctets.1 i bs hcore
    | true => exact changeable (by simp [hcore])
  · next i bs hcore => exact iff_of_false (by simp) fun h => h.notOctets.2 i bs hcore
  · next ho hs => exact changeable ⟨fun i bs => ho i false bs, hs⟩

end Value

/-! ### Rows of items -/

section
variable {α β : Type} {R : α → β → Prop} {as : List α} {bs : List β}

theorem exists_right_of_forall₂ (h : List.Forall₂ R as bs) {a : α} (ha : a ∈ as) : ∃ b ∈ bs, R a b := by
  induction h with
  | nil => cases ha
  | @cons a' b as bs hab _ ih =>
    rcases List.mem_cons.mp ha with rfl | ha
    · exact ⟨b, List.mem_cons_self, hab⟩
    · obtain ⟨b', hb', hab'⟩ := ih ha
      exact ⟨b', List.mem_cons_of_mem b hb', hab'⟩

theorem exists_left_of_forall₂ (h : List.Forall₂ R as bs) {b : β} (hb : b ∈ bs) : ∃ a ∈ as, R a b :=
  exists_right_of_forall₂ h.flip hb

end

namespace Signature
variable {v item : Value} {vs before after : List Value} {ts : List Tag} {n : Nat} {f : SignatureFault}

theorem readTags_cons_of_names {t : Tag} (h : v.Names t) :
    readTags n (v :: vs) = (readTags (n + 1) vs).map (t :: ·) := by
  simp only [readTags, Value.names_iff.mp h]

theorem readTags_cons_of_not_names (h : ∀ t, ¬v.Names t) :
    readTags n (v :: vs) = .error (.unknownTag v v.written n) := by
  rw [readTags]
  split
  · next t ht => exact absurd (Value.names_iff.mpr ht) (h t)
  · rfl

/-- A row of names is read tag by tag. -/
theorem readTags_of_names (h : List.Forall₂ Value.Names vs ts) (n : Nat) : readTags n vs = .ok ts := by
  induction h generalizing n with
  | nil => rfl
  | cons hv _ ih => rw [readTags_cons_of_names hv, ih, Except.map]

/-- The first item that names no tag ends the reading, whatever comes after it. -/
theorem readTags_of_unknown (h : List.Forall₂ Value.Names before ts) (hitem : ∀ t, ¬item.Names t) (n : Nat)
    (after : List Value) :
    readTags n (before ++ item :: after) = .error (.unknownTag item item.written (n + before.length)) := by
  induction h generalizing n with
  | nil => exact readTags_cons_of_not_names hitem
  | @cons v t vs ts hv _ ih =>
    rw [List.cons_append, readTags_cons_of_names hv, ih, Except.map, List.length_cons, Nat.add_right_comm,
      ← Nat.add_assoc]

/-- The items of a row name tags one by one, up to the first that names none, if there is one. -/
theorem names_or_unknown (vs : List Value) :
    (∃ ts, List.Forall₂ Value.Names vs ts) ∨
    ∃ before item after ts, vs = before ++ item :: after ∧ List.Forall₂ Value.Names before ts ∧
      ∀ t, ¬item.Names t := by
  induction vs with
  | nil => exact .inl ⟨[], .nil⟩
  | cons v vs ih =>
    by_cases hv : ∃ t, v.Names t
    · obtain ⟨t, ht⟩ := hv
      rcases ih with ⟨ts, hts⟩ | ⟨before, item, after, ts, rfl, hts, hitem⟩
      · exact .inl ⟨t :: ts, .cons ht hts⟩
      · exact .inr ⟨v :: before, item, after, t :: ts, rfl, .cons ht hts, hitem⟩
    · exact .inr ⟨[], v, vs, [], rfl, .nil, fun t ht => hv ⟨t, ht⟩⟩

/-! ### Signatures -/

/-- What reading a value as a signature comes to. -/
inductive Reading (v : Value) : Except SignatureFault Signature → Prop
  | notSequence (h : ¬v.HoldsTags) : Reading v (.error (.notSequence v v.written))
  | unknownTag {before after : List Value} {item : Value} {ts : List Tag} (h : v.HoldsTags)
    (hitems : v.items? = some (before ++ item :: after)) (hbefore : List.Forall₂ Value.Names before ts)
    (hitem : ∀ t, ¬item.Names t) : Reading v (.error (.unknownTag item item.written before.length))
  | empty (h : v.HoldsTags) (hitems : v.items? = some []) : Reading v (.error .empty)
  | signature {items : List Value} {sig : Signature} (h : v.HoldsTags) (hitems : v.items? = some items)
    (hnames : List.Forall₂ Value.Names items sig.tags) : Reading v (.ok sig)

theorem read_of_items (h : v.HoldsTags) (hitems : v.items? = some vs) : read v = ofItems vs := by
  simp only [read, Value.isTagSequence_iff.mpr h, ↓reduceIte, hitems]

theorem read_of_not_holdsTags (h : ¬v.HoldsTags) : read v = .error (.notSequence v v.written) := by
  rw [read, if_neg (mt Value.isTagSequence_iff.mp h)]

theorem Reading.eq_read {r : Except SignatureFault Signature} (h : Reading v r) : r = read v := by
  cases h with
  | notSequence h => exact (read_of_not_holdsTags h).symm
  | unknownTag h hitems hbefore hitem =>
    rw [read_of_items h hitems, ofItems, readTags_of_unknown hbefore hitem, Nat.zero_add]
  | empty h hitems => rw [read_of_items h hitems]; rfl
  | signature h hitems hnames =>
    rw [read_of_items h hitems, ofItems, readTags_of_names hnames]
    simp

theorem reading_read (hv : v.HoldsTags → ∃ vs, v.items? = some vs) : Reading v (read v) := by
  by_cases h : v.HoldsTags
  · obtain ⟨vs, hitems⟩ := hv h
    rcases names_or_unknown vs with ⟨ts, hts⟩ | ⟨before, item, after, ts, rfl, hts, hitem⟩
    · cases hsig : ofTags? ts with
      | none =>
        obtain rfl := ofTags?_eq_none_iff.mp hsig
        cases hts
        have hread := Reading.empty h hitems
        exact hread.eq_read ▸ hread
      | some sig =>
        obtain rfl := ofTags?_eq_some_iff.mp hsig
        have hread := Reading.signature h hitems hts
        exact hread.eq_read ▸ hread
    · have hread := Reading.unknownTag h hitems hts hitem
      exact hread.eq_read ▸ hread
  · exact read_of_not_holdsTags h ▸ .notSequence h

theorem reading_of_read {sig : Signature} (h : read v = .ok sig) : Reading v (.ok sig) := by
  refine h ▸ reading_read fun hv => ?_
  cases hitems : v.items? with
  | some vs => exact ⟨vs, rfl⟩
  | none => simp [read, Value.isTagSequence_iff.mpr hv, hitems] at h

/-- A value that yields its items where it can hold tags is read as its items say, and in no other way. It
    is a signature just if it can hold tags, has items, and each of them names a tag; the error of all else
    is that of a bad value. -/
theorem reading_iff {v : Value} (hv : v.HoldsTags → ∃ vs, v.items? = some vs) :
    (∀ r, Reading v r ↔ r = read v) ∧
    ((∃ sig, read v = .ok sig) ↔
      v.HoldsTags ∧ ∃ vs, v.items? = some vs ∧ vs ≠ [] ∧ ∀ w ∈ vs, ∃ t, w.Names t) ∧
    ∀ f, read v = .error f → (Failure.signature f).className = "ValueError" := by
  have hread := reading_read hv
  refine ⟨fun r => ⟨Reading.eq_read, fun hr => hr ▸ hread⟩, ?_, fun f hf => ?_⟩
  · constructor
    · rintro ⟨sig, hsig⟩
      rw [hsig] at hread
      cases hread with
      | signature h hitems hnames =>
        refine ⟨h, _, hitems, ?_, fun w hw => ?_⟩
        · rintro rfl
          exact sig.tags_ne_nil (List.forall₂_nil_left_iff.mp hnames)
        · obtain ⟨t, -, ht⟩ := exists_right_of_forall₂ hnames hw
          exact ⟨t, ht⟩
    · rintro ⟨h, vs, hitems, hne, hnamed⟩
      cases hr : read v with
      | ok sig => exact ⟨sig, rfl⟩
      | error f =>
        rw [hr] at hread
        cases hread with
        | notSequence h' => exact absurd h h'
        | unknownTag _ hitems' _ hitem =>
          cases hitems.symm.trans hitems'
          obtain ⟨t, ht⟩ := hnamed _ (List.mem_append_right _ List.mem_cons_self)
          exact absurd ht (hitem t)
        | empty _ hitems' =>
          cases hitems.symm.trans hitems'
          exact absurd rfl hne
  · rw [hf] at hread
    cases hread <;> rfl

end Signature
end CallGuard
