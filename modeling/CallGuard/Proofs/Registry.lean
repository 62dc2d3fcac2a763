import CallGuard.Proofs.Classification
import CallGuard.Proofs.Steps

/-! What is known of checked functions. A registry says of identities which checked function has them. An
    operation that does not wrap comes to no checked function that is not among the values it starts from, and
    leaves none behind; wrapping makes new ones, under identities that nothing had before. So everything that is
    known of checked functions stays true, and each identity goes to one checked function at most (`growing`). -/

namespace CallGuard

/-! ### Handing on -/

namespace Exec
variable {α β : Type} [Bearing α] [Bearing β] {good : Value → Prop}

theorem HandsOn.of_on {x : Exec α} {s t : Store} {a : Except Stop α} (hx : x.on s = (a, t)) (ht : Bears good t)
    (hbindings : t.bindings = s.bindings) (hnext : s.next ≤ t.next) (ha : Bears good a) : x.HandsOn good s := by
  constructor <;> rw [hx] <;> assumption

namespace Keeps

theorem askNaN {v : Value} (hv : good v) : Keeps good v.askNaN := by
  intro s hs
  have hcompared : Bears good (if v.selfTest.compares then [v] else []) := by
    split
    · exact List.forall_mem_singleton.mpr hv
    · exact .nil
  obtain ⟨hbindings, hcalls, hcomparisons, hlogs⟩ := hs
  exact .of_on (v.on_askNaN s) ⟨hbindings, hcalls, List.forall_mem_append.mpr ⟨hcomparisons, hcompared⟩, hlogs⟩ rfl
    (Nat.le_refl _) fun _ _ => trivial

theorem bind {x : Exec α} {k : α → Exec β} (hx : Keeps good x) (hk : ∀ a, Bears good a → Keeps good (k a)) :
    Keeps good (x >>= k) := by
  intro s hs
  obtain ⟨hvalues, hbindings, hnext, hresult⟩ := hx s hs
  rcases hxs : x.on s with ⟨e | a, t⟩ <;> rw [hxs] at hvalues hbindings hnext hresult
  · exact .of_on (on_bind_error hxs) hvalues hbindings hnext nofun
  · obtain ⟨hvalues', hbindings', hnext', hresult'⟩ := hk a (hresult a rfl) t hvalues
    exact .of_on (on_bind_ok hxs) hvalues' (hbindings'.trans hbindings) (Nat.le_trans hnext hnext') hresult'

theorem recover {x : Exec α} {handler : Failure → Option (Exec α)} (hx : Keeps good x)
    (hhandler : ∀ f, Keeps good ((handler f).getD (fail f))) : Keeps good (x.recover handler) := by
  intro s hs
  obtain ⟨hvalues, hbindings, hnext, hresult⟩ := hx s hs
  rcases hxs : x.on s with ⟨(f | _ | _) | a, t⟩ <;> rw [hxs] at hvalues hbindings hnext hresult
  · obtain ⟨hvalues', hbindings', hnext', hresult'⟩ := hhandler f t hvalues
    exact .of_on (on_recover_failed hxs) hvalues' (hbindings'.trans hbindings) (Nat.le_trans hnext hnext') hresult'
  all_goals exact .of_on (on_recover_other handler hxs (by simp)) hvalues hbindings hnext hresult

theorem tracking (h : Hereditary good) : Tracking good (Keeps good) where
  hereditary := h
  elementary _ hx := hx
  askNaN := askNaN
  bind := bind
  recover := recover

/-- The marker is no value, so that neither reading nor setting it says anything of values. -/
theorem readMarker : Keeps good (do return String.singleton (← get).marker) := .of_read fun _ _ => trivial

theorem setMarker (c : Char) : Keeps good (modify fun s => { s with marker := c }) :=
  .of_modify (fun _ hs => hs) (fun _ => rfl) fun _ => rfl

theorem recordCall (id : ObjectId) {args : List Value} (hargs : Bears good args) :
    Keeps good (Exec.recordCall id args) := fun _ hs =>
  .of_on rfl ⟨hs.1, List.forall_mem_append.mpr ⟨hs.2.1, List.forall_mem_singleton.mpr ⟨trivial, hargs⟩⟩, hs.2.2⟩ rfl
    (Nat.le_refl _) (Bears.of_ok trivial)

/-- Calls hand a property of values on, however deep they nest. -/
theorem invoke (h : Hereditary good) (fuel : Nat) {f : Value} {args : List Value} {named : List (String × Value)}
    (hf : good f) (hargs : Bears good args) (hnamed : Bears good named) :
    Keeps good (CallGuard.invoke fuel f args named) := by
  -- Calls inside a call have one level less to nest in, and other functions and arguments.
  induction fuel generalizing f args named with
  | zero => exact .of_throw _
  | succ fuel ih =>
    refine (tracking h).enter (fun f args named => ih) hf hargs hnamed (fun id r _ => recordCall id hargs) ?_
    rintro id c rfl
    refine (tracking h).guard c hargs _ (ih (h.part hf List.mem_cons_self) hargs .nil)

end Keeps

end Exec

/-! ### Registries -/

/-- Checked functions by their identities. -/
abbrev Registry := List (ObjectId × Checked Value)

/-- All checked functions that occur in a value are in a registry. -/
def Known (made : Registry) (v : Value) : Prop :=
  ∀ id c, (Value.checked id c).IsPart v → id ≠ 0 ∧ (id, c) ∈ made

/-- A registry is up to date with a store: no identity is in it twice or is still to be handed out, and all
    checked functions that the store holds are in it. -/
structure Registered (made : Registry) (s : Store) : Prop where
  distinct : (made.map Prod.fst).Nodup
  below : ∀ e ∈ made, e.1 < s.next
  begun : 0 < s.next
  known : Bears (Known made) s

namespace Value

theorem components_identified (v : Value) (id : ObjectId) : (v.identified id).components = v.components := by
  cases v <;> rfl

end Value

section
variable {made made' : Registry} {v : Value}

theorem hereditary_known (made : Registry) : Hereditary (Known made) where
  part hv hu id c hpart := hv id c (.inside hu hpart)
  whole hv h id c hpart := by
    cases hpart with
    | whole => cases hv
    | inside hw hpart => exact h _ hw id c hpart
  identified {v} hv hid i := by
    -- A checked function that is known was made as an object, and does not become another.
    have hne : ∀ j c, v ≠ .checked j c := by
      rintro j c rfl
      exact (hv j c .whole).1 (Option.some.inj hid)
    intro id c hpart
    generalize hw : v.identified i = w at hpart
    cases hpart with
    | whole => cases v <;> first | exact absurd rfl (hne _ _) | cases hw
    | inside hu hpart =>
      rw [← hw, Value.components_identified] at hu
      exact hv id c (.inside hu hpart)

theorem Known.mono (h : made <+: made') (v : Value) (hv : Known made v) : Known made' v := fun id c hpart =>
  ⟨(hv id c hpart).1, h.subset (hv id c hpart).2⟩

theorem Known.checked {id : ObjectId} {c : Checked Value} (hid : id ≠ 0) (hmade : (id, c) ∈ made)
    (hc : ∀ u ∈ (Value.checked id c).components, Known made u) : Known made (.checked id c) := by
  intro j d hpart
  cases hpart with
  | whole => exact ⟨hid, hmade⟩
  | inside hw hpart => exact hc _ hw j d hpart

end

/-! ### Wrapping -/

namespace Exec
variable {α β : Type} [Bearing α] [Bearing β] {made : Registry} {s : Store}

/-- An operation under which a registry grows: what it leaves behind and comes to is in a registry that is up
    to date again. It changes no variable. -/
def Grows (made : Registry) (x : Exec α) : Prop :=
  ∀ s, Registered made s → ∃ made', made <+: made' ∧ Registered made' (x.on s).2 ∧
    (x.on s).2.bindings = s.bindings ∧ Bears (Known made') (x.on s).1

theorem HandsOn.registered {x : Exec α} (h : x.HandsOn (Known made) s) (hs : Registered made s) :
    Registered made (x.on s).2 where
  distinct := hs.distinct
  below e he := Nat.lt_of_lt_of_le (hs.below e he) h.next
  begun := Nat.lt_of_lt_of_le hs.begun h.next
  known := h.values

namespace Grows

theorem of_keeps {x : Exec α} (hx : Keeps (Known made) x) : Grows made x := fun s hs =>
  have h := hx s hs.known
  ⟨made, List.prefix_refl made, h.registered hs, h.bindings, h.result⟩

theorem bind {x : Exec α} {k : α → Exec β} (hx : Grows made x)
    (hk : ∀ made' a, made <+: made' → Bears (Known made') a → Grows made' (k a)) : Grows made (x >>= k) := by
  intro s hs
  obtain ⟨made', hle, hs', hbindings, hresult⟩ := hx s hs
  rcases hxs : x.on s with ⟨e | a, t⟩ <;> rw [hxs] at hs' hbindings hresult
  · rw [on_bind_error hxs]
    exact ⟨made', hle, hs', hbindings, nofun⟩
  · obtain ⟨made'', hle', ht, hbindings', hresult'⟩ := hk made' a hle (hresult a rfl) t hs'
    rw [on_bind_ok hxs]
    exact ⟨made'', hle.trans hle', ht, hbindings'.trans hbindings, hresult'⟩

theorem make (sig : Signature) {implementation name : Value} (himplementation : Known made implementation)
    (hname : Known made name) : Grows made (do
      Exec.log (.wrapping name sig)
      let id ← Exec.fresh
      let _ ← Exec.fresh
      return Value.checked id ⟨sig, implementation, name, ← implementation.metadata.adopt⟩) := by
  intro s hs
  let t : Store := { s with next := s.next + 2, logs := s.logs ++ [.wrapping name sig] }
  have ht : Registered made t := by
    obtain ⟨hbindings, hcalls, hcomparisons, hlogs⟩ := hs.known
    refine ⟨hs.distinct, fun e he => Nat.lt_add_right 2 (hs.below e he), Nat.lt_add_right 2 hs.begun, ?_⟩
    exact ⟨hbindings, hcalls, hcomparisons, List.forall_mem_append.mpr ⟨hlogs, List.forall_mem_singleton.mpr hname⟩⟩
  have hmetadata := (hereditary_known made).metadata himplementation
  have hadopt := (Keeps.tracking (hereditary_known made)).adoptMetadata hmetadata t ht.known
  have hu := hadopt.registered ht
  have hnext := hadopt.next
  have hbindings := hadopt.bindings
  have hresult := hadopt.result
  have hrun : (do
      Exec.log (.wrapping name sig)
      let id ← Exec.fresh
      let _ ← Exec.fresh
      return Value.checked id ⟨sig, implementation, name, ← implementation.metadata.adopt⟩ : Exec Value).on s =
      (do return Value.checked s.next ⟨sig, implementation, name, ← implementation.metadata.adopt⟩ : Exec Value).on t := rfl
  rw [hrun]
  rcases hm : implementation.metadata.adopt.on t with ⟨e | m, u⟩ <;> rw [hm] at hu hnext hbindings hresult
  · rw [on_bind_error hm]
    exact ⟨made, List.prefix_refl made, hu, hbindings, nofun⟩
  · rw [on_bind_ok hm]
    -- The identity was not handed out before, and is now.
    have hfresh : s.next ∉ made.map Prod.fst := by
      intro hmem
      obtain ⟨e, he, heq⟩ := List.mem_map.mp hmem
      exact Nat.lt_irrefl _ (heq ▸ hs.below e he)
    have hle : made <+: made ++ [(s.next, ⟨sig, implementation, name, m⟩)] := List.prefix_append _ _
    refine ⟨_, hle, ⟨?_, ?_, hu.begun, hu.known.mono (Known.mono hle)⟩, hbindings, Bears.of_ok ?_⟩
    · rw [List.map_append]
      exact List.perm_append_comm.nodup_iff.mpr (List.nodup_cons.mpr ⟨hfresh, hs.distinct⟩)
    · refine List.forall_mem_append.mpr ⟨hu.below, List.forall_mem_singleton.mpr ?_⟩
      exact Nat.lt_of_lt_of_le (Nat.lt_add_of_pos_right (by decide)) hnext
    · refine Known.checked (Nat.pos_iff_ne_zero.mp hs.begun) (List.mem_append_right _ (List.mem_singleton_self _)) ?_
      refine List.forall_mem_cons.mpr ⟨himplementation.mono hle, List.forall_mem_cons.mpr ⟨hname.mono hle, ?_⟩⟩
      exact Bears.values_iff.mpr ((hresult m rfl).mono (Known.mono hle))

end Grows

end Exec

/-- Registries grow with everything that is done, and keep what is in them. -/
theorem growing : Growing (· <+: ·) Known (fun made {_} _ x => Exec.Keeps (Known made) x)
    (fun made {_} _ x => Exec.Grows made x) where
  tracking made := Exec.Keeps.tracking (hereditary_known made)
  mono := Known.mono
  steady := Exec.Grows.of_keeps
  bind := Exec.Grows.bind
  make := Exec.Grows.make

end CallGuard
