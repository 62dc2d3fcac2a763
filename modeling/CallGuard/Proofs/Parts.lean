import CallGuard.Session

/-! The parts of values. A value is made of others, which are made of others again; a property that is
    handed on between a value and what it is made of is handed on by everything that is done with values
    outside of the store: by reading attributes and items, by reckoning, by gathering the entries of
    mappings, and by binding arguments to parameters. Only checked functions are made in one place alone,
    and what is known of them is left open (`Hereditary`). -/

namespace CallGuard

/-! ### Data -/

/-- Data that values occur in. -/
class Bearing (α : Type) where
  all : (Value → Prop) → α → Prop
  all_true : ∀ a, all (fun _ => True) a
  all_mono : ∀ p q : Value → Prop, (∀ v, p v → q v) → ∀ a, all p a → all q a

/-- All values that occur in data have a property. -/
abbrev Bears {α : Type} [Bearing α] (p : Value → Prop) (a : α) : Prop := Bearing.all p a

theorem Bears.mono {α : Type} [Bearing α] {p q : Value → Prop} (h : ∀ v, p v → q v) {a : α} (ha : Bears p a) :
    Bears q a :=
  Bearing.all_mono p q h a ha

namespace Bearing
variable {α β : Type}

/-- No value occurs in the data of a type. -/
abbrev none : Bearing α := ⟨fun _ _ => True, fun _ => trivial, fun _ _ _ _ ha => ha⟩

instance : Bearing Value := ⟨fun p v => p v, fun _ => trivial, fun _ _ h v hv => h v hv⟩

instance [Bearing α] : Bearing (List α) :=
  ⟨fun p as => ∀ a ∈ as, Bears p a, fun _ a _ => all_true a, fun _ _ h _ has a ha => (has a ha).mono h⟩

instance [Bearing α] : Bearing (Option α) :=
  ⟨fun p o => ∀ a ∈ o, Bears p a, fun _ a _ => all_true a, fun _ _ h _ ho a ha => (ho a ha).mono h⟩

instance {ε : Type} [Bearing α] : Bearing (Except ε α) :=
  ⟨fun p x => ∀ a, x = .ok a → Bears p a, fun _ a _ => all_true a, fun _ _ h _ hx a ha => (hx a ha).mono h⟩

instance [Bearing α] [Bearing β] : Bearing (α × β) :=
  ⟨fun p e => Bears p e.1 ∧ Bears p e.2, fun e => ⟨all_true e.1, all_true e.2⟩,
    fun _ _ h _ he => ⟨he.1.mono h, he.2.mono h⟩⟩

instance : Bearing (Metadata Value) :=
  ⟨fun p m => Bears p m.module ∧ Bears p m.name ∧ Bears p m.qualname ∧ Bears p m.doc,
    fun _ => ⟨all_true _, all_true _, all_true _, all_true _⟩,
    fun _ _ h _ hm => ⟨hm.1.mono h, hm.2.1.mono h, hm.2.2.1.mono h, hm.2.2.2.mono h⟩⟩

instance : Bearing Unit := .none
instance : Bearing Bool := .none
instance : Bearing Nat := .none
instance : Bearing Int := .none
instance : Bearing String := .none
instance : Bearing Tag := .none
instance : Bearing Reply := .none
instance : Bearing Signature := .none
instance : Bearing Scalar := .none
instance : Bearing Quantity := .none

end Bearing

/-! ### Data made of data -/

namespace Bears
variable {good : Value → Prop} {α β ε ε' : Type} [Bearing α] [Bearing β]

theorem nil : Bears good ([] : List α) := List.forall_mem_nil _

omit [Bearing α] in
theorem mapList {f : α → Value} (hf : ∀ a, good (f a)) (xs : List α) : Bears good (xs.map f) := by
  intro v hv
  obtain ⟨a, -, rfl⟩ := List.mem_map.mp hv
  exact hf a

theorem of_some {a : α} (ha : Bears good a) : Bears good (some a) := by
  rintro _ ⟨⟩
  exact ha

theorem orElse {o o' : Option α} (ho : Bears good o) (ho' : Bears good o') : Bears good (o <|> o') := by
  cases o with
  | none => exact ho'
  | some a => exact ho

theorem getD {o : Option α} {a : α} (ho : Bears good o) (ha : Bears good a) : Bears good (o.getD a) := by
  cases o with
  | none => exact ha
  | some b => exact ho b rfl

theorem mapOption {o : Option α} (ho : Bears good o) {f : α → β} (hf : ∀ a, Bears good a → Bears good (f a)) :
    Bears good (o.map f) := by
  intro v hv
  obtain ⟨a, ha, rfl⟩ := Option.map_eq_some_iff.mp hv
  exact hf a (ho a ha)

theorem of_ok {a : α} (ha : Bears good a) : Bears good (Except.ok a : Except ε α) := by
  rintro _ ⟨⟩
  exact ha

omit [Bearing α] in
theorem bindExcept {x : Except ε α} {k : α → Except ε β} (hk : ∀ a, x = .ok a → Bears good (k a)) :
    Bears good (x >>= k) := by
  cases x with
  | error e => nofun
  | ok a => exact hk a rfl

theorem mapExcept {x : Except ε α} (hx : Bears good x) {f : α → β} (hf : ∀ a, Bears good a → Bears good (f a)) :
    Bears good (x.map f) := by
  cases x with
  | error e => nofun
  | ok a => exact of_ok (hf a (hx a rfl))

theorem mapError {x : Except ε α} (hx : Bears good x) (f : ε → ε') : Bears good (x.mapError f) := by
  cases x with
  | error e => nofun
  | ok a => exact of_ok (hx a rfl)

theorem elim {o : Option Value} (ho : Bears good o) (fault : ε) :
    Bears good (o.elim (.error fault) .ok : Except ε Value) := by
  cases o with
  | none => nofun
  | some v =>
    rintro _ ⟨⟩
    exact ho v rfl

theorem lookup {as : List (String × Value)} (has : Bears good as) (name : String) : Bears good (as.lookup name) := by
  intro v hv
  obtain ⟨before, after, rfl, -⟩ := List.lookup_eq_some_iff.mp hv
  exact (has (name, v) (List.mem_append_right _ List.mem_cons_self)).2

end Bears

/-! ### Parts -/

namespace Metadata

/-- The attributes that are there. -/
def values {α : Type} (m : Metadata α) : List α :=
  m.module.toList ++ m.name.toList ++ m.qualname.toList ++ m.doc.toList

end Metadata

namespace Value

/-- What a value is made of. -/
def components : Value → List Value
  | .sequence _ _ vs => vs
  | .set _ _ vs => vs
  | .mapping _ _ es => es.map Prod.fst ++ es.map Prod.snd
  | .iterator _ vs => vs
  | .custom _ c => c.content.toList ++ c.items.getD []
  | .routine _ r => r.metadata.values
  | .checked _ c => c.implementation :: c.name :: c.metadata.values
  | .method _ function self => [function, self]
  | .ownClass _ _ attributes => attributes.map Prod.snd
  | .object _ family => [family]
  | _ => []

/-- What is in the written form of a value is among what the value is made of. -/
theorem writtenParts_subset (v : Value) : v.writtenParts ⊆ v.components := by
  intro u hu
  cases v with
  | mapping id kind es =>
    obtain ⟨e, he, hu⟩ := List.mem_flatMap.mp hu
    rcases (by simpa using hu : u = e.1 ∨ u = e.2) with rfl | rfl
    · exact List.mem_append_left _ (List.mem_map_of_mem he)
    · exact List.mem_append_right _ (List.mem_map_of_mem he)
  | checked id c => exact List.mem_cons_of_mem _ (List.mem_cons.mpr (.inl (List.mem_singleton.mp hu)))
  | method id function self => exact List.mem_cons_of_mem _ hu
  | sequence | set => exact hu
  | _ => cases hu

/-- Whether a value is a checked function. -/
def isChecked : Value → Bool
  | .checked .. => true
  | _ => false

/-- Whether a value is made of nothing, and is no checked function. -/
def isAtom (v : Value) : Bool := !v.isChecked && v.components.isEmpty

/-- A value is another or occurs in what the other is made of, at any depth. -/
inductive IsPart (u : Value) : Value → Prop
  | whole : IsPart u u
  | inside {v w : Value} (hw : w ∈ v.components) (h : IsPart u w) : IsPart u v

end Value

namespace Bears
variable {good : Value → Prop} {m : Metadata Value}

theorem values_iff : Bears good m.values ↔ Bears good m := by
  simp [Metadata.values, Bears, Bearing.all, or_imp, forall_and]

theorem emptyMetadata : Bears good (Metadata.empty : Metadata Value) := ⟨nofun, nofun, nofun, nofun⟩

theorem ofLookUp {find : String → Option Value} (hfind : ∀ name, Bears good (find name))
    (hm : Bears good m) : Bears good (Metadata.ofLookUp find m) :=
  ⟨orElse (hfind _) hm.1, orElse (hfind _) hm.2.1, orElse (hfind _) hm.2.2.1, orElse (hfind _) hm.2.2.2⟩

theorem find? (hm : Bears good m) (name : String) : Bears good (m.find? name) := by
  obtain ⟨hmodule, hname, hqualname, hdoc⟩ := hm
  unfold Metadata.find?
  split <;> first | assumption | nofun

theorem namedMetadata (hm : Bears good m) : Bears good (Value.namedMetadata m) := by
  obtain ⟨hmodule, hname, hqualname, hdoc⟩ := hm
  intro e he
  obtain ⟨⟨name, o⟩, ho, hmap⟩ := List.mem_filterMap.mp he
  obtain ⟨v, hv, rfl⟩ := Option.map_eq_some_iff.mp hmap
  simp only [List.mem_cons, Prod.mk.injEq, List.not_mem_nil, or_false] at ho
  rcases ho with ⟨-, rfl⟩ | ⟨-, rfl⟩ | ⟨-, rfl⟩ | ⟨-, rfl⟩
  · exact ⟨trivial, hmodule v hv⟩
  · exact ⟨trivial, hname v hv⟩
  · exact ⟨trivial, hqualname v hv⟩
  · exact ⟨trivial, hdoc v hv⟩

end Bears

namespace Stock

theorem isAtom_of_mem_members (s : Stock) : ∀ e ∈ s.members, e.2.isAtom = true := by
  rw [← List.all_eq_true]
  unfold members
  split
  any_goals rfl
  -- What is left is a time, whose parts are numbers, however many there are.
  refine List.all_eq_true.mpr fun e he => ?_
  obtain ⟨n, -, hn⟩ := List.mem_map.mp (List.of_mem_zip he).2
  rw [← hn]
  rfl

end Stock

/-- A property of values is handed on between a value and what it is made of, and to the object that a
    value becomes which was made on the way. Whether a checked function has it is not settled by what the
    function is made of. -/
structure Hereditary (good : Value → Prop) : Prop where
  part {u v : Value} (hv : good v) (hu : u ∈ v.components) : good u
  whole {v : Value} (hv : v.isChecked = false) (h : ∀ u ∈ v.components, good u) : good v
  identified {v : Value} (hv : good v) (h : v.id? = some 0) (id : ObjectId) : good (v.identified id)

theorem hereditary_true : Hereditary fun _ => True := ⟨fun _ _ => trivial, fun _ _ => trivial, fun _ _ _ => trivial⟩

namespace Hereditary
variable {good : Value → Prop} (h : Hereditary good) {v w : Value} {vs : List Value} {es : List (Value × Value)}
  {as : List (String × Value)}
include h

theorem atom (hv : v.isAtom = true) : good v := by
  obtain ⟨hchecked, hempty⟩ := Bool.and_eq_true_iff.mp hv
  exact h.whole (by simpa using hchecked) (by simp [List.isEmpty_iff.mp hempty])

theorem null : good .null := h.atom rfl

theorem ofInt (n : Int) : good (.ofInt n) := h.atom rfl

theorem ofString (s : String) : good (.ofString s) := h.atom rfl

theorem ofTag (t : Tag) : good (.tag t) := h.atom rfl

theorem ofScalar (s : Scalar) : good (.scalar 0 s) := h.atom rfl

theorem sequence {id : ObjectId} {kind : SequenceKind} (hvs : Bears good vs) : good (.sequence id kind vs) :=
  h.whole rfl hvs

theorem mapping {id : ObjectId} {kind : MappingKind} (hes : Bears good es) : good (.mapping id kind es) := by
  refine h.whole rfl (List.forall_mem_append.mpr ⟨?_, ?_⟩) <;> rintro v hv <;>
    obtain ⟨e, he, rfl⟩ := List.mem_map.mp hv
  · exact (hes e he).1
  · exact (hes e he).2

theorem set {id : ObjectId} {frozen : Bool} (hvs : Bears good vs) : good (.set id frozen vs) := h.whole rfl hvs

theorem method {id : ObjectId} (hf : good v) (hself : good w) : good (.method id v w) :=
  h.whole rfl (List.forall_mem_cons.mpr ⟨hf, List.forall_mem_singleton.mpr hself⟩)

theorem ownClass {id : ObjectId} {name : String} (has : Bears good as) : good (.ownClass id name as) := by
  refine h.whole rfl fun v hv => ?_
  obtain ⟨e, he, rfl⟩ := List.mem_map.mp hv
  exact (has e he).2

theorem object {id : ObjectId} (hv : good v) : good (.object id v) :=
  h.whole rfl (List.forall_mem_singleton.mpr hv)

theorem routine {id : ObjectId} {label : String} {m : Metadata Value} {body : Body Blueprint} (hm : Bears good m) :
    good (.routine id ⟨label, m, body⟩) :=
  h.whole rfl (Bears.values_iff.mpr hm)

theorem custom {id : ObjectId} {className : String} {content : Option Value} {items : Option (List Value)}
    {traits : AddedTraits} {replies : Option Replies} (hcontent : Bears good content) (hitems : Bears good items) :
    good (.custom id ⟨className, content, items, traits, replies⟩) := by
  refine h.whole rfl (List.forall_mem_append.mpr ⟨fun u hu => hcontent u (Option.mem_toList.mp hu), ?_⟩)
  cases items with
  | none => nofun
  | some vs => exact hitems vs rfl

theorem entries {id : ObjectId} {kind : MappingKind} (hv : good (.mapping id kind es)) : Bears good es :=
  fun _ he =>
    ⟨h.part hv (List.mem_append_left _ (List.mem_map_of_mem he)),
      h.part hv (List.mem_append_right _ (List.mem_map_of_mem he))⟩

theorem attributes {id : ObjectId} {name : String} (hv : good (.ownClass id name as)) : Bears good as :=
  fun _ he => ⟨trivial, h.part hv (List.mem_map_of_mem he)⟩

theorem core (hv : good v) : good v.core := by
  unfold Value.core
  split
  · exact h.part hv (by simp [Value.components])
  · exact hv

theorem ownAttribute? (hv : good v) (name : String) : Bears good (v.ownAttribute? name) := by
  unfold Value.ownAttribute?
  split
  · exact Bears.lookup (h.attributes hv) name
  · nofun

/-! ### Items -/

theorem characters (s : String) : Bears good (Value.characters s) := Bears.mapList (fun _ => h.ofString _) _

theorem wrappedCharacters (s : String) : Bears good (Value.wrappedCharacters s) := by
  have hatom (t : String) : good (.wrappedText 0 t) := h.atom rfl
  exact Bears.mapList (fun _ => hatom _) _

theorem octetNumbers (bs : List UInt8) : Bears good (Value.octetNumbers bs) := Bears.mapList (fun _ => h.ofInt _) _

theorem coreItems? (hv : good v) : Bears good v.coreItems? := by
  intro vs hvs
  unfold Value.coreItems? at hvs
  split at hvs
  · cases hvs
    exact h.characters _
  · cases hvs
    exact h.characters _
  · cases hvs
    exact h.wrappedCharacters _
  · cases hvs
    exact h.octetNumbers _
  · cases hvs
    exact Bears.mapList (fun _ => h.ofInt _) _
  · cases hvs
    exact fun _ hu => h.part hv hu
  · cases hvs
    exact fun _ hu => h.part hv hu
  · cases hvs
    exact fun _ hu => h.part hv (List.mem_append_left _ hu)
  · cases hvs
    exact h.characters _
  · cases hvs
    exact h.octetNumbers _
  · cases hvs
    exact Bears.mapList h.ofScalar _
  · split at hvs
    · cases hvs
      exact Bears.mapList h.ofTag _
    · split at hvs <;> cases hvs
      · exact Bears.mapList h.ofInt _
      · exact h.characters _
      · nofun
      · nofun
  · cases hvs

theorem items? (hv : good v) : Bears good v.items? := by
  intro vs hvs
  unfold Value.items? at hvs
  split at hvs
  · next content own _ _ =>
    have hcontent := h.coreItems? (h.part (u := content) hv (by simp [Value.components]))
    have hown : Bears good own := by
      rintro us rfl u hu
      exact h.part hv (by simp [Value.components, hu])
    split at hvs
    · exact Bears.orElse hown hcontent vs hvs
    · exact Bears.orElse hcontent hown vs hvs
  · cases hvs
    exact fun _ hu => h.part hv hu
  · exact h.coreItems? hv vs hvs

theorem entries? (hv : good v) : Bears good v.entries? := by
  intro es hes
  have hcore := h.core hv
  unfold Value.entries? at hes
  split at hes
  · next heq =>
    cases hes
    exact h.entries (heq ▸ hcore)
  · split at hes <;> cases hes
    nofun
  · cases hes

/-! ### Attributes -/

theorem fromClass (hv : good v) : good v.fromClass := by
  unfold Value.fromClass
  split
  · split
    · exact h.atom rfl
    · exact hv
  · exact hv

theorem boundTo (hv : good v) (hw : good w) : good (v.boundTo w) := by
  unfold Value.boundTo
  split
  · exact hv
  · exact h.method hv hw

theorem readThrough (hself : good v) (hw : good w) : good (v.readThrough w) := by
  unfold Value.readThrough
  split
  · exact h.boundTo hw hself
  · exact h.fromClass hw

section
variable {id : ObjectId} {c : Checked Value} (hc : good (.checked id c))
include hc

theorem implementation : good c.implementation := h.part hc List.mem_cons_self

theorem name : good c.name := h.part hc (List.mem_cons_of_mem _ List.mem_cons_self)

theorem ownMetadata : Bears good c.metadata :=
  Bears.values_iff.mp fun _ hu => h.part hc (List.mem_cons_of_mem _ (List.mem_cons_of_mem _ hu))

end

theorem shownMetadata {id : ObjectId} {c : Checked Value} (hv : good (.checked id c)) : Bears good c.shownMetadata := by
  obtain ⟨hmodule, hname, hqualname, hdoc⟩ := h.ownMetadata hv
  refine ⟨?_, hname, hqualname, ?_⟩
  · rintro _ ⟨⟩
    exact Bears.getD hmodule (h.ofString _)
  · rintro _ ⟨⟩
    exact Bears.getD hdoc (h.ofString _)

theorem stockMetadata (s : Stock) : Bears good s.metadata := by
  unfold Stock.metadata
  split
  · refine ⟨?_, ?_, ?_, ?_⟩
    · rintro _ ⟨⟩
      cases s.module? <;> exact h.atom rfl
    · simp [Bears, Bearing.all, h.ofString]
    · simp [Bears, Bearing.all, h.ofString]
    · rintro _ ⟨⟩
      cases s.documentation? <;> exact h.atom rfl
  · split
    · exact ⟨nofun, .of_some (h.ofString _), nofun, nofun⟩
    · exact Bears.emptyMetadata

theorem metadata (hv : good v) : Bears good v.metadata := by
  fun_induction Value.metadata v with
  | case1 id r => exact Bears.values_iff.mp fun _ hu => h.part hv hu
  | case2 id c => exact h.shownMetadata hv
  | case3 id function self ih => exact ih (h.part hv List.mem_cons_self)
  | case4 id s => exact h.stockMetadata s
  | case5 id name attributes =>
    refine Bears.ofLookUp (fun n => ?_) ⟨.of_some (h.ofString _), .of_some (h.ofString _), .of_some (h.ofString _), ?_⟩
    · split
      · nofun
      · exact Bears.lookup (h.attributes hv) n
    · rintro _ ⟨⟩
      exact h.null
  | case6 i j name attributes =>
    refine Bears.ofLookUp (fun n => ?_) ⟨.of_some (h.ofString _), nofun, nofun, ?_⟩
    · intro u hu
      obtain ⟨w, hw, rfl⟩ := Option.map_eq_some_iff.mp hu
      exact h.readThrough hv (Bears.lookup (h.attributes (h.part hv List.mem_cons_self)) n w hw)
    · rintro _ ⟨⟩
      exact h.null
  | case7 =>
    refine ⟨nofun, nofun, nofun, ?_⟩
    rintro _ ⟨⟩
    exact h.null
  | case8 => exact Bears.emptyMetadata

theorem named_atoms {es : List (String × Value)} (hes : ∀ e ∈ es, e.2.isAtom = true) : Bears good es :=
  fun e he => ⟨trivial, h.atom (hes e he)⟩

theorem extent (lengths : List Nat) : Bears good (Value.extent lengths) := by
  have hshape : good (.tuple (lengths.map fun (n : Nat) => .ofInt n)) := h.sequence (Bears.mapList (fun _ => h.ofInt _) _)
  exact List.forall_mem_cons.mpr ⟨⟨trivial, hshape⟩, h.named_atoms (List.all_eq_true.mp rfl)⟩

theorem scalarParts (id : ObjectId) (s : Scalar) : Bears good (Value.scalarParts id s) := by
  refine h.named_atoms (List.all_eq_true.mp ?_)
  cases s <;> rfl

theorem members (hv : good v) : Bears good v.members := by
  unfold Value.members
  split
  any_goals exact h.named_atoms (List.all_eq_true.mp rfl)
  · exact List.forall_mem_singleton.mpr ⟨trivial, h.sequence fun u hu => h.part hv hu⟩
  · exact List.forall_mem_singleton.mpr ⟨trivial, h.mapping (h.entries hv)⟩
  · exact List.forall_mem_append.mpr ⟨h.scalarParts _ _, h.extent _⟩
  · exact h.extent _
  · exact h.named_atoms (Stock.isAtom_of_mem_members _)

theorem ofAttributes (has : Bears good as) : good (Value.ofAttributes as) := by
  refine h.mapping fun p hp => ?_
  obtain ⟨e, he, rfl⟩ := List.mem_map.mp hp
  exact ⟨h.ofString _, (has e he).2⟩

theorem signatureOf (id : ObjectId) (s : Signature) : good (Value.signatureOf id s) := h.sequence (Bears.mapList h.ofTag _)

theorem keptAttributes {id : ObjectId} {c : Checked Value} (hc : good (.checked id c)) :
    Bears good (Value.keptAttributes id c) := by
  have himplementation := h.implementation hc
  have hfirst : Bears good [("signature", Value.signatureOf id c.signature), ("implementation", c.implementation),
      ("name", c.name)] :=
    List.forall_mem_cons.mpr ⟨⟨trivial, h.signatureOf _ _⟩, List.forall_mem_cons.mpr
      ⟨⟨trivial, himplementation⟩, List.forall_mem_singleton.mpr ⟨trivial, h.name hc⟩⟩⟩
  exact List.forall_mem_append.mpr ⟨List.forall_mem_append.mpr ⟨hfirst, Bears.namedMetadata (h.ownMetadata hc)⟩,
    List.forall_mem_singleton.mpr ⟨trivial, himplementation⟩⟩

theorem checkedAttribute? {id : ObjectId} {c : Checked Value} (hc : good (.checked id c)) (name : String) :
    Bears good (Value.checkedAttribute? id c name) := by
  unfold Value.checkedAttribute?
  split <;> rintro _ ⟨⟩
  · exact h.ofAttributes (h.keptAttributes hc)
  · exact h.signatureOf _ _
  · exact h.implementation hc
  · exact h.implementation hc
  · exact h.name hc
  · exact h.sequence (Bears.mapList h.ofTag _)
  · exact h.ofTag _
  · exact h.ofInt _

theorem readAttribute (hv : good v) (name : String) : Bears good (v.readAttribute name) := by
  fun_induction Value.readAttribute name v with
  | case1 id c => exact Bears.elim (Bears.orElse (h.checkedAttribute? hv name) (Bears.find? (h.shownMetadata hv) name)) _
  | case2 id function self =>
    rintro _ ⟨⟩
    exact h.part hv (List.mem_cons_of_mem _ List.mem_cons_self)
  | case3 id function self =>
    rintro _ ⟨⟩
    exact h.part hv List.mem_cons_self
  | case4 id function self _ _ ih => exact ih (h.part hv List.mem_cons_self)
  | case5 id className attributes =>
    have hheld : Bears good ((attributes.lookup name).map Value.fromClass) :=
      Bears.mapOption (Bears.lookup (h.attributes hv) name) fun _ => h.fromClass
    exact Bears.elim (Bears.orElse (Bears.find? (h.metadata hv) name) hheld) _
  | case6 id i className attributes =>
    have hattributes := h.attributes (h.part hv List.mem_cons_self)
    have hheld : Bears good ((attributes.lookup name).map (Value.readThrough (.object id (.ownClass i className attributes)))) :=
      Bears.mapOption (Bears.lookup hattributes name) fun _ => h.readThrough hv
    have hnone : Bears good ([] : List (String × Value)) := .nil
    have hown : Bears good Value.ownAttributes :=
      List.forall_mem_singleton.mpr ⟨trivial, h.ofAttributes hnone⟩
    exact Bears.elim (Bears.orElse (Bears.find? (h.metadata hv) name) (Bears.orElse hheld (Bears.lookup hown name))) _
  | case7 => exact Bears.elim (Bears.orElse (Bears.lookup (h.members hv) name) (Bears.find? (h.metadata hv) name)) _

end Hereditary

end CallGuard
