import CallGuard.Proofs.Running

/-! What is taken over. A value that was made on the way, as the name of a class is when it is read, takes an
    identity where an object takes it over, and any other value stays as it is. The identity makes no
    difference to the truth of a value or to the texts that it equals. Metadata are taken over attribute by
    attribute, and where a module or documentation is missing, checked functions show those of their own class. -/

namespace CallGuard

/-! ### Values -/

namespace Value
variable {u v w : Value}

/-- A value that is taken over stays as it is, but for the identity that it is given if it has none yet. -/
inductive TakenAs (v : Value) : Value → Prop
  | same : TakenAs v v
  | made (h : v.id? = some 0) (i : ObjectId) : TakenAs v (v.identified i)

theorem identified_identified (v : Value) (i j : ObjectId) : (v.identified i).identified j = v.identified j := by
  cases v <;> rfl

theorem TakenAs.trans (h : u.TakenAs v) (h' : v.TakenAs w) : u.TakenAs w := by
  cases h with
  | same => exact h'
  | made hu i =>
    cases h' with
    | same => exact .made hu i
    | made _ j =>
      rw [identified_identified]
      exact .made hu j

theorem on_adopt (v : Value) (s : Store) : ∃ w t, (Exec.adopt v).on s = (.ok w, t) ∧ v.TakenAs w := by
  unfold Exec.adopt
  split
  · next h => exact ⟨_, _, rfl, .made h s.next⟩
  · exact ⟨v, s, rfl, .same⟩

theorem isTrue_identified (v : Value) (i : ObjectId) : (v.identified i).isTrue = v.isTrue := by
  cases v <;> rfl

theorem same_identified (v : Value) (i : ObjectId) (s : String) :
    (v.identified i).same (.ofString s) = v.same (.ofString s) := by
  have none_is (j : ObjectId) : (j != 0 && j == 0) = false := by cases j <;> rfl
  cases v <;> simp [identified, same, ofString, id?, none_is]

theorem likeText?_identified (v : Value) (i : ObjectId) : (v.identified i).likeText? = v.likeText? := by
  cases v with
  | scalar j x => cases x <;> rfl
  | custom j c =>
    obtain ⟨name, content, items, traits, replies⟩ := c
    cases content <;> rfl
  | _ => rfl

theorem octets?_identified (v : Value) (i : ObjectId) : (v.identified i).octets? = v.octets? := by
  cases v with
  | scalar j x => cases x <;> rfl
  | custom j c =>
    obtain ⟨name, content, items, traits, replies⟩ := c
    cases content <;> rfl
  | _ => rfl

theorem atomEqual_identified (mode : Comparing) (v : Value) (i : ObjectId) (s : String) :
    atomEqual mode (v.identified i) (.ofString s) = atomEqual mode v (.ofString s) := by
  have hsame := same_identified v i s
  have hlike := likeText?_identified v i
  have hoctets := octets?_identified v i
  have hrow : (ofString s).core = .text 0 s := rfl
  unfold atomEqual
  rw [hsame, hlike, hoctets, hrow]
  cases v with
  | custom j c =>
    obtain ⟨name, content, items, traits, replies⟩ := c
    cases content <;> rfl
  | _ => rfl

/-- Being equal to a text does not hang on an identity. -/
theorem equal_identified (v : Value) (i : ObjectId) (s : String) :
    (v.identified i).equal (.ofString s) = v.equal (.ofString s) := by
  have hatom := atomEqual_identified .rounded v i s
  unfold equal
  cases v with
  | custom j c =>
    obtain ⟨name, content, items, traits, replies⟩ := c
    cases content with
    | none => exact hatom
    | some w =>
      simp only [identified, equalIn]
      split
      · rfl
      · exact hatom
  | stock j x =>
    have hrow : (ofString s).tuple? = none := rfl
    simp only [identified, equalIn, stockEqualAny, hrow]
    cases x.tuple? with
    | some ns => exact hatom
    | none =>
      dsimp only
      split
      · rfl
      · exact hatom
  | _ => exact hatom

end Value

/-! ### Metadata -/

namespace Metadata
variable {m m' m'' : Metadata Value}

/-- Metadata of which each attribute is taken over, and none is lost or added. -/
structure TakenAs (m m' : Metadata Value) : Prop where
  module : Option.Rel Value.TakenAs m.module m'.module
  name : Option.Rel Value.TakenAs m.name m'.name
  qualname : Option.Rel Value.TakenAs m.qualname m'.qualname
  doc : Option.Rel Value.TakenAs m.doc m'.doc

theorem taken_trans {o o' o'' : Option Value} (h : Option.Rel Value.TakenAs o o')
    (h' : Option.Rel Value.TakenAs o' o'') : Option.Rel Value.TakenAs o o'' := by
  cases h with
  | none => exact h'
  | some hv =>
    cases h' with
    | some hw => exact .some (hv.trans hw)

theorem TakenAs.trans (h : m.TakenAs m') (h' : m'.TakenAs m'') : m.TakenAs m'' where
  module := taken_trans h.module h'.module
  name := taken_trans h.name h'.name
  qualname := taken_trans h.qualname h'.qualname
  doc := taken_trans h.doc h'.doc

theorem on_adoptOption (o : Option Value) (s : Store) :
    ∃ o' t, (o.mapM Exec.adopt).on s = (.ok o', t) ∧ Option.Rel Value.TakenAs o o' := by
  cases o with
  | none => exact ⟨none, s, rfl, .none⟩
  | some v =>
    obtain ⟨w, t, hw, hv⟩ := v.on_adopt s
    refine ⟨some w, t, ?_, .some hv⟩
    rw [Option.mapM_some, map_eq_pure_bind, Exec.on_bind_ok hw]
    rfl

theorem takenAs_of_adopt {s t : Store} (h : m.adopt.on s = (.ok m', t)) : m.TakenAs m' := by
  obtain ⟨module, s₁, hmodule, hm⟩ := on_adoptOption m.module s
  obtain ⟨name, s₂, hname, hn⟩ := on_adoptOption m.name s₁
  obtain ⟨qualname, s₃, hqualname, hq⟩ := on_adoptOption m.qualname s₂
  obtain ⟨doc, s₄, hdoc, hd⟩ := on_adoptOption m.doc s₃
  rw [adopt, Exec.on_bind_ok hmodule, Exec.on_bind_ok hname, Exec.on_bind_ok hqualname, Exec.on_bind_ok hdoc] at h
  cases h
  exact ⟨hm, hn, hq, hd⟩

/-- Metadata with the module and the documentation of all checked functions where there are none. -/
def completed (m : Metadata Value) : Metadata Value :=
  { m with
    module := some (m.module.getD (.ofString Checked.homeModule))
    doc := some (m.doc.getD (.ofString Checked.homeDoc)) }

theorem taken_getD {o o' : Option Value} (h : Option.Rel Value.TakenAs o o') (v : Value) :
    Option.Rel Value.TakenAs (some (o.getD v)) (some (o'.getD v)) := by
  cases h with
  | none => exact .some .same
  | some hv => exact .some hv

theorem TakenAs.completed (h : m.TakenAs m') : m.completed.TakenAs m'.completed :=
  ⟨taken_getD h.module _, h.name, h.qualname, taken_getD h.doc _⟩

end Metadata

end CallGuard
