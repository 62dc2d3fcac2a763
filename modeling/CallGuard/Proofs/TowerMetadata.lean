import CallGuard.Proofs.Adoption
import CallGuard.Proofs.AttributeReading
import CallGuard.Proofs.DefaultNames

/-! What a function that is wrapped over and over shows of the function at the bottom. Each time its metadata
    are taken over from the function within, not from the display name, and where that one has no module or
    documentation those of all checked functions stand in, which the next function around takes over like its
    own. So the outermost function shows the metadata of the innermost one, however often it was wrapped and
    under which names; it leads back to it, and it is named by default as it is (`inherits_wrapOver`). -/

namespace CallGuard

/-! ### Wrapping over and over -/

/-- Wraps a function with signatures, each under a name or under none, the first one outermost. -/
def wrapOver (call : Caller) (f : Value) : List (Value × Value) → Exec Value
  | [] => pure f
  | (signature, name) :: ls => do Value.wrap call signature (← wrapOver call f ls) name

/-- Follows a value to what it is wrapped around, a number of times. -/
def followWrapped : Nat → Value → Except AttributeFault Value
  | 0, v => .ok v
  | n + 1, v => do followWrapped n (← v.readAttribute "__wrapped__")

section
variable {call : Caller} {f g c : Value} {ls : List (Value × Value)} {s t : Store} {signature name : Value}

theorem taken_of_wrap (h : (Value.wrap call signature g name).on s = (.ok c, t)) :
    g.isImplementation = true ∧ ∃ id k, c = .checked id k ∧ k.implementation = g ∧ g.metadata.TakenAs k.metadata := by
  constructor
  · cases hg : g.isImplementation with
    | true => rfl
    | false => cases (Value.wrap_misused hg).symm.trans h
  · obtain ⟨sig, id, display, m, u, v, w, -, -, hm, rfl⟩ := Value.exists_of_wrap h
    exact ⟨id, _, rfl, rfl, Metadata.takenAs_of_adopt hm⟩

/-- Each layer takes over what the one within shows. -/
theorem exists_checked_wrapOver (h : (wrapOver call f ls).on s = (.ok c, t)) (hne : ls ≠ []) :
    f.isImplementation = true ∧ ∃ id k, c = .checked id k ∧ f.metadata.completed.TakenAs k.shownMetadata := by
  induction ls generalizing c t with
  | nil => exact absurd rfl hne
  | cons l ls ih =>
    obtain ⟨g, u, hg, hc⟩ := Exec.on_bind_eq_ok h
    obtain ⟨himplementation, id, k, rfl, -, htaken⟩ := taken_of_wrap hc
    cases ls with
    | nil =>
      cases hg
      exact ⟨himplementation, id, k, rfl, htaken.completed⟩
    | cons l' ls =>
      obtain ⟨hf, j, k', rfl, hinner⟩ := ih hg (List.cons_ne_nil l' ls)
      exact ⟨hf, id, k, rfl, hinner.trans htaken.completed⟩

theorem followWrapped_wrapOver (h : (wrapOver call f ls).on s = (.ok c, t)) : followWrapped ls.length c = .ok f := by
  induction ls generalizing c t with
  | nil =>
    cases h
    rfl
  | cons l ls ih =>
    obtain ⟨g, u, hg, hc⟩ := Exec.on_bind_eq_ok h
    obtain ⟨-, id, k, rfl, rfl, -⟩ := taken_of_wrap hc
    exact ih hg

end

/-! ### What a tower shows -/

/-- What all checked functions have for an attribute, if they have it. -/
def Checked.homeAttribute? : String → Option Value
  | "__module__" => some (.ofString homeModule)
  | "__doc__" => some (.ofString homeDoc)
  | _ => none

theorem Metadata.TakenAs.find? {m m' : Metadata Value} {name : String} (h : m.completed.TakenAs m') (hname : name ∈ Metadata.names) :
    Option.Rel Value.TakenAs (m.find? name <|> Checked.homeAttribute? name) (m'.find? name) := by
  have fallback {o : Option Value} (v : Value) : some (o.getD v) = (o <|> some v) := by cases o <;> rfl
  have nothing (o : Option Value) : (o <|> none) = o := by cases o <;> rfl
  have hmodule := h.module
  have hdoc := h.doc
  simp only [Metadata.completed, fallback] at hmodule hdoc
  rcases Metadata.eq_of_mem_names hname with rfl | rfl | rfl | rfl
  · exact hmodule
  · exact (nothing m.name).symm ▸ h.name
  · exact (nothing m.qualname).symm ▸ h.qualname
  · exact hdoc

/-- What a function that is wrapped around another answers for an attribute of that one: the attribute, and if
    there is none, what all checked functions have for it, if they have it. -/
inductive Inherits (f c : Value) (name : String) : Prop
  | own {v w : Value} (hf : f.readAttribute name = .ok v) (hw : v.TakenAs w) (hc : c.readAttribute name = .ok w)
  | home {fault : AttributeFault} {v w : Value} (hf : f.readAttribute name = .error fault)
      (hhome : Checked.homeAttribute? name = some v) (hw : v.TakenAs w) (hc : c.readAttribute name = .ok w)
  | missing {fault : AttributeFault} (hf : f.readAttribute name = .error fault)
      (hhome : Checked.homeAttribute? name = none)
      (hc : c.readAttribute name = .error (.missing "CheckedFunction" name))

theorem inherits_of_taken {f : Value} {id : ObjectId} {k : Checked Value} {name : String}
    (h : f.metadata.completed.TakenAs k.shownMetadata) (hname : name ∈ Metadata.names) :
    Inherits f (.checked id k) name := by
  have hshown := h.find? hname
  have hf := Value.toOption_readAttribute hname f
  have hc := Value.readAttribute_checked hname id k
  generalize k.shownMetadata.find? name = shown at hshown hc
  cases hread : f.readAttribute name with
  | ok v =>
    rw [← hf, hread] at hshown
    cases hshown with
    | some hw => exact .own hread hw hc
  | error fault =>
    rw [← hf, hread, show (Except.error fault : Except AttributeFault Value).toOption = none from rfl] at hshown
    cases hhome : Checked.homeAttribute? name with
    | none =>
      rw [hhome] at hshown
      cases hshown
      exact .missing hread hhome hc
    | some v =>
      rw [hhome] at hshown
      cases hshown with
      | some hw => exact .home hread hhome hw hc

/-! ### How a tower is named by default -/

/-- Two outcomes of naming are alike: the same stop, or one name, but for the identity that it was given. -/
inductive NamedAlike : Except Stop Value × Store → Except Stop Value × Store → Prop
  | stopped (e : Stop) (t : Store) : NamedAlike (.error e, t) (.error e, t)
  | named {v w : Value} (h : v.TakenAs w) (t : Store) : NamedAlike (.ok v, t) (.ok w, t)

/-- Two outcomes of wrapping are alike: the same stop, or functions that are shown alike. -/
inductive ShownAlike : Except Stop Value × Store → Except Stop Value × Store → Prop
  | stopped (e : Stop) (t : Store) : ShownAlike (.error e, t) (.error e, t)
  | shown {id id' : ObjectId} {k k' : Checked Value} (h : k.name.TakenAs k'.name) (t t' : Store) :
      ShownAlike (.ok (.checked id k), t) (.ok (.checked id' k'), t')

section
variable {call : Caller} {f g : Value}

theorem NamedAlike.refl (x : Except Stop Value × Store) : NamedAlike x x := by
  obtain ⟨_ | v, t⟩ := x
  · exact .stopped _ t
  · exact .named .same t

/-- A name is asked the same with an identity and without, if it is no object of a class. -/
theorem namedAlike_defaultName (h : Option.Rel Value.TakenAs f.metadata.name g.metadata.name)
    (hobject : ∀ family, f.metadata.name ≠ some (.object 0 family)) (call : Caller) (s : Store) :
    NamedAlike ((Checked.defaultName call f).on s) ((Checked.defaultName call g).on s) := by
  unfold Checked.defaultName
  generalize f.metadata.name = o at h hobject
  generalize g.metadata.name = o' at h
  cases h with
  | none => exact .refl _
  | @some v w hw =>
    cases hw with
    | same => exact .refl _
    | made hv i =>
      have hne : ∀ j family, v ≠ .object j family := by
        rintro j family rfl
        cases hv
        exact hobject family rfl
      have hne' : ∀ j family, v.identified i ≠ .object j family := by
        intro j family h
        cases v <;> first | exact hne _ _ rfl | cases h
      simp only [Value.askTruth_of_ne_object hne, Value.askTruth_of_ne_object hne', Value.askEqual_of_ne_object hne,
        Value.askEqual_of_ne_object hne', Value.isTrue_identified, Value.equal_identified]
      rcases v.isTrue with _ | _ | _
      · exact .stopped _ s
      · exact .named .same s
      · rcases v.equal (.ofString Checked.unnamed) with _ | _ | _
        · exact .stopped _ s
        · exact .named (.made hv i) s
        · exact .named .same s

theorem shownAlike_wrap (hf : f.isImplementation = true) (hg : g.isImplementation = true)
    (hnamed : ∀ s, NamedAlike ((Checked.defaultName call f).on s) ((Checked.defaultName call g).on s))
    (signature : Value) (s : Store) :
    ShownAlike ((Value.wrap call signature f .null).on s) ((Value.wrap call signature g .null).on s) := by
  cases hread : Signature.read signature with
  | error e =>
    rw [Value.wrap_unreadable hf rfl hread, Value.wrap_unreadable hg rfl hread]
    exact .stopped _ s
  | ok sig =>
    have halike := hnamed s
    generalize hx : (Checked.defaultName call f).on s = x at halike
    generalize hy : (Checked.defaultName call g).on s = y at halike
    have hx' : (Value.displayed call f .null).on s = x := hx
    have hy' : (Value.displayed call g .null).on s = y := hy
    cases halike with
    | stopped e t =>
      rw [Value.wrap_eq hf rfl hread, Value.wrap_eq hg rfl hread, Exec.on_bind_error hx', Exec.on_bind_error hy']
      exact .stopped e t
    | named h t =>
      obtain ⟨id, m, u, hwrap⟩ := Value.wrap_displayed hf rfl hread hx'
      obtain ⟨id', m', u', hwrap'⟩ := Value.wrap_displayed hg rfl hread hy'
      rw [hwrap, hwrap']
      exact .shown h u u'

end

/-- A function that is wrapped over and over answers for each attribute that is metadata as the innermost
    function does, under whatever names it was wrapped, or else as all checked functions do. It leads back to the
    innermost function in as many steps. Whoever wraps it once more under no name fails as if the innermost
    function was wrapped, or shows it by the same name. Objects of classes have an identity from the start, so
    that no name is one without. -/
theorem inherits_wrapOver {call : Caller} {f c : Value} {ls : List (Value × Value)} {s t : Store}
    (h : (wrapOver call f ls).on s = (.ok c, t)) (hne : ls ≠ []) :
    (∀ name ∈ Metadata.names, Inherits f c name) ∧ followWrapped ls.length c = .ok f ∧
      ((∀ family, f.readAttribute "__name__" ≠ .ok (.object 0 family)) →
        ∀ (call' : Caller) (signature : Value) (u : Store),
          ShownAlike ((Value.wrap call' signature f .null).on u) ((Value.wrap call' signature c .null).on u)) := by
  obtain ⟨hf, id, k, rfl, htaken⟩ := exists_checked_wrapOver h hne
  refine ⟨fun name hname => inherits_of_taken htaken hname, followWrapped_wrapOver h, ?_⟩
  intro hobject call' signature u
  have hnames : Option.Rel Value.TakenAs f.metadata.name (Value.checked id k).metadata.name := htaken.name
  have hname : ∀ family, f.metadata.name ≠ some (.object 0 family) := by
    intro family hname
    have hread := Value.toOption_readAttribute (show "__name__" ∈ Metadata.names by decide) f
    rw [Metadata.find?, hname] at hread
    cases hattribute : f.readAttribute "__name__" with
    | error e =>
      rw [hattribute] at hread
      cases hread
    | ok v =>
      rw [hattribute] at hread
      cases hread
      exact hobject family hattribute
  exact shownAlike_wrap hf rfl (namedAlike_defaultName hnames hname call') signature u

/-- Two layers, of which one is shown as something else, around a routine that has a name and nothing else: the
    name is that of the routine, the documentation is general, and there is no qualified name. -/
theorem inherits_wrapOver_shown :
    let f := routineNamed (.text 4 "half")
    let ls : List (Value × Value) := [(oneNumber, .text 5 "shown"), (oneNumber, .null)]
    ∃ c t, (wrapOver caller f ls).on .initial = (.ok c, t) ∧ ls ≠ [] ∧
      (∀ name ∈ Metadata.names, Inherits f c name) ∧ followWrapped 2 c = .ok f ∧
      c.readAttribute "__name__" = .ok (.text 4 "half") ∧
      c.readAttribute "__doc__" = .ok (.text 6 Checked.homeDoc) ∧
      c.readAttribute "__qualname__" = .error (.missing "CheckedFunction" "__qualname__") ∧
      ∀ (call : Caller) (signature : Value) (u : Store),
        ShownAlike ((Value.wrap call signature f .null).on u) ((Value.wrap call signature c .null).on u) := by
  intro f ls
  obtain ⟨c, t, h⟩ : ∃ c t, (wrapOver caller f ls).on .initial = (.ok c, t) := ⟨_, _, rfl⟩
  have hne : ls ≠ [] := List.cons_ne_nil _ _
  obtain ⟨hinherits, hfollow, hshown⟩ := inherits_wrapOver h hne
  refine ⟨c, t, h, hne, hinherits, hfollow, ?_, ?_, ?_, hshown nofun⟩
  all_goals
    cases h
    rfl

end CallGuard
