import CallGuard.Proofs.Parts

/-! Reading attributes. Attributes that are metadata are read among the metadata, by whatever value, and no
    member is called like one. A checked function that a class holds is bound to an object of the class when it
    is read through the object, and is not bound when it is read through the class. -/

namespace CallGuard

namespace Metadata
variable {name : String}

/-- The attributes that are metadata, by name. -/
def names : List String := ["__module__", "__name__", "__qualname__", "__doc__"]

theorem eq_of_mem_names (h : name ∈ names) :
    name = "__module__" ∨ name = "__name__" ∨ name = "__qualname__" ∨ name = "__doc__" := by
  simpa [names] using h

theorem find?_eq_none {α : Type} (h : name ∉ names) (m : Metadata α) : m.find? name = none := by
  unfold find?
  split <;> first | rfl | exact absurd (by decide) h

theorem find?_ofLookUp {α : Type} (hname : name ∈ names) (find : String → Option α) (m : Metadata α) :
    (ofLookUp find m).find? name = (find name <|> m.find? name) := by
  rcases eq_of_mem_names hname with rfl | rfl | rfl | rfl <;> rfl

end Metadata

namespace Value

section
variable {name : String}

theorem stockMembers_not_metadata (x : Stock) : ∀ e ∈ x.members, e.1 ∉ Metadata.names := by
  have hlabels : ∀ t : Tag, t.label ∉ Metadata.names := by intro t; cases t <;> decide
  have htimes : ∀ k ∈
      ["tm_year", "tm_mon", "tm_mday", "tm_hour", "tm_min", "tm_sec", "tm_wday", "tm_yday", "tm_isdst"],
      k ∉ Metadata.names := by decide
  intro e he
  unfold Stock.members at he
  split at he
  case h_8 => exact htimes _ (List.of_mem_zip he).1
  case h_14 =>
    obtain ⟨t, -, rfl⟩ := List.mem_map.mp he
    exact hlabels t
  all_goals
    revert e
    simp [integerParts, realPart, Metadata.names]

/-- No member is called like an attribute that is metadata. -/
theorem members_not_metadata (v : Value) : ∀ e ∈ v.members, e.1 ∉ Metadata.names := by
  cases v with
  | sequence i kind vs => cases kind <;> simp [members, Metadata.names]
  | mapping i kind es => cases kind <;> simp [members, Metadata.names]
  | scalar i x => cases x <;> simp [members, scalarParts, realPart, extent, Metadata.names]
  | stock i x => exact stockMembers_not_metadata x
  | _ => simp [members, integerParts, realPart, extent, Metadata.names]

theorem lookup_members (hname : name ∈ Metadata.names) (v : Value) : v.members.lookup name = none := by
  rw [List.lookup_eq_none_iff]
  intro e he
  refine bne_iff_ne.mpr ?_
  rintro rfl
  exact v.members_not_metadata e he hname

theorem toOption_elim {ε α : Type} (o : Option α) (e : ε) :
    (o.elim (.error e) .ok : Except ε α).toOption = o := by
  cases o <;> rfl

theorem readAttribute_checked (hname : name ∈ Metadata.names) (id : ObjectId) (c : Checked Value) :
    (Value.checked id c).readAttribute name =
      (c.shownMetadata.find? name).elim (.error (.missing "CheckedFunction" name)) .ok := by
  rcases Metadata.eq_of_mem_names hname with rfl | rfl | rfl | rfl <;> rfl

/-- Reading an attribute that is metadata gives what is among the metadata. -/
theorem toOption_readAttribute (hname : name ∈ Metadata.names) (v : Value) :
    (v.readAttribute name).toOption = v.metadata.find? name := by
  fun_induction readAttribute name v with
  | case1 id c => rw [← readAttribute, readAttribute_checked hname, toOption_elim, metadata]
  | case2 _ _ _ h =>
    rw [h] at hname
    exact absurd hname (by decide)
  | case3 _ _ _ h =>
    rw [h] at hname
    exact absurd hname (by decide)
  | case4 id function self _ _ ih => rw [ih, metadata]
  | case5 id className attributes v =>
    have hall (o : Option Value) : (v.metadata.find? name <|> o) = v.metadata.find? name := by
      simp only [v, metadata, Metadata.find?_ofLookUp hname]
      rcases Metadata.eq_of_mem_names hname with rfl | rfl | rfl | rfl <;> simp [Metadata.find?]
    rw [hall, toOption_elim]
  | case6 id i className attributes v =>
    have hown : ownAttributes.lookup name = none := by
      rcases Metadata.eq_of_mem_names hname with rfl | rfl | rfl | rfl <;> rfl
    rw [toOption_elim, hown]
    simp only [v, metadata, Metadata.find?_ofLookUp hname]
    cases attributes.lookup name <;> simp
  | case7 v => simp [lookup_members hname, toOption_elim]

end

section
variable {className name : String} {attributes : List (String × Value)} {id : ObjectId} {c : Checked Value}

/-- A checked function that a class holds is bound to the object that it is read through. -/
theorem readAttribute_object (h : attributes.lookup name = some (.checked id c)) (i j : ObjectId) :
    (Value.object i (.ownClass j className attributes)).readAttribute name =
      .ok ((Value.checked id c).boundTo (.object i (.ownClass j className attributes))) := by
  have hbound : (attributes.lookup name).map (readThrough (.object i (.ownClass j className attributes))) =
      some ((Value.checked id c).boundTo (.object i (.ownClass j className attributes))) := by
    rw [h]
    rfl
  rw [readAttribute]
  by_cases hname : name ∈ Metadata.names
  · simp [metadata, Metadata.find?_ofLookUp hname, hbound]
  · simp [Metadata.find?_eq_none hname, hbound]

/-- Read through the class, it stays as it is. -/
theorem readAttribute_ownClass (h : attributes.lookup name = some (.checked id c)) (hname : name ≠ "__name__")
    (hqualname : name ≠ "__qualname__") (j : ObjectId) :
    (Value.ownClass j className attributes).readAttribute name = .ok (.checked id c) := by
  rw [readAttribute]
  by_cases hmetadata : name ∈ Metadata.names
  · simp [metadata, Metadata.find?_ofLookUp hmetadata, hname, hqualname, h]
  · simp [Metadata.find?_eq_none hmetadata, h, fromClass]

end

end Value
end CallGuard
