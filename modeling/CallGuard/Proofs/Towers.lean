import CallGuard.Proofs.CallOutcome
import CallGuard.Proofs.Unnoticed
import CallGuard.Proofs.Wrapping

/-! Towers of checked functions, each the implementation of the one around it. Their checks add up: the
    function at the bottom is called if every layer admits the arguments, and what it returns is returned if
    every layer admits it. Arguments are checked from the outside in, so their violation is reported by the
    outermost layer that does not admit them, and results from the inside out (`towerOutcome_invoke`).
    A layer around another with the same signature and name changes nothing, since nothing notices that
    values are classified twice that keep their tags (`invoke_rewrapped`). -/

namespace CallGuard

/-! ### Building towers -/

/-- A layer of a tower: what it is wrapped with, and the signature that this writes. -/
structure Layer where
  written : Value
  signature : Signature
  name : Value
  reads : Signature.read written = .ok signature
  named : name.isText = true

/-- Wraps a function in layers, the first one outermost. -/
def wrapTower (call : Caller) (f : Value) : List Layer → Exec Value
  | [] => pure f
  | l :: ls => do Value.wrap call l.written (← wrapTower call f ls) l.name

/-- A value is a tower of layers around a function. -/
def IsTower (f : Value) : List Layer → Value → Prop
  | [], g => g = f
  | l :: ls, g => ∃ id c, g = .checked id c ∧ c.signature = l.signature ∧ c.name = l.name ∧ IsTower f ls c.implementation

namespace IsTower
variable {f g : Value} {layers : List Layer}

theorem isImplementation (h : IsTower f layers g) (hf : f.isImplementation = true) : g.isImplementation = true := by
  cases layers with
  | nil => rwa [h]
  | cons l ls =>
    obtain ⟨id, c, rfl, -⟩ := h
    rfl

theorem wrap (h : IsTower f layers g) (hf : f.isImplementation = true) (call : Caller) (l : Layer) (s : Store) :
    ∃ g' t, (Value.wrap call l.written g l.name).on s = (.ok g', t) ∧ IsTower f (l :: layers) g' := by
  obtain ⟨id, m, n, hw⟩ := Value.wrap_readable call (h.isImplementation hf) l.named l.reads s
  exact ⟨_, _, hw, id, _, rfl, rfl, rfl, h⟩

end IsTower

theorem wrapTower_isTower {f : Value} (hf : f.isImplementation = true) (call : Caller) (layers : List Layer)
    (s : Store) : ∃ g t, (wrapTower call f layers).on s = (.ok g, t) ∧ IsTower f layers g := by
  induction layers with
  | nil => exact ⟨f, s, rfl, rfl⟩
  | cons l ls ih =>
    obtain ⟨g, t, hg, htower⟩ := ih
    obtain ⟨g', t', hw, htower'⟩ := htower.wrap hf call l t
    exact ⟨g', t', (Exec.on_bind_ok hg).trans hw, htower'⟩

/-! ### Calling towers -/

/-- The outcome of a call of a tower on a store. -/
inductive TowerOutcome (layers : List Layer) (args : List Value) (tags : List Tag) (implementation : Exec Value)
    (s : Store) : Except Stop Value × Store → Prop
  | violated {outer inner : List Layer} {l : Layer} {r : Report} {t : Store} (hl : layers = outer ++ l :: inner)
    (ha : ∀ l' ∈ outer, Admits l'.signature args tags) (hr : FirstViolation l.signature l.name args tags r)
    (hs : Store.OnlyCompared args s t) :
    TowerOutcome layers args tags implementation s (.error (.failed (.report r)), t)
  | raised {e : Stop} {t u : Store} (ha : ∀ l ∈ layers, Admits l.signature args tags)
    (hs : Store.OnlyCompared args s t) (hrun : implementation.on t = (.error e, u)) :
    TowerOutcome layers args tags implementation s (.error e, u)
  | misreturned {outer inner : List Layer} {l : Layer} {v : Value} {tag : Tag} {r : Report} {t u w : Store}
    (ha : ∀ l ∈ layers, Admits l.signature args tags) (hs : Store.OnlyCompared args s t)
    (hrun : implementation.on t = (.ok v, u)) (hv : v.KeepsTag u tag) (hl : layers = outer ++ l :: inner)
    (hi : ∀ l' ∈ inner, AdmitsResult l'.signature tag) (hr : ResultViolation l.signature l.name tag r)
    (hw : Store.OnlyCompared [v] u w) :
    TowerOutcome layers args tags implementation s (.error (.failed (.report r)), w)
  | returned {v : Value} {tag : Tag} {t u w : Store} (ha : ∀ l ∈ layers, Admits l.signature args tags)
    (hs : Store.OnlyCompared args s t) (hrun : implementation.on t = (.ok v, u)) (hv : v.KeepsTag u tag)
    (hi : ∀ l ∈ layers, AdmitsResult l.signature tag) (hw : Store.OnlyCompared [v] u w) :
    TowerOutcome layers args tags implementation s (.ok v, w)

/-- What an operation returns keeps its tag, on a store and after comparisons of some values. -/
def ReturnsStably (args : List Value) (s : Store) (x : Exec Value) : Prop :=
  ∀ t v u, Store.OnlyCompared args s t → x.on t = (.ok v, u) → ∃ tag, v.KeepsTag u tag

theorem ReturnsStably.later {args : List Value} {s t : Store} {x : Exec Value} (h : ReturnsStably args s x)
    (hs : Store.OnlyCompared args s t) : ReturnsStably args t x :=
  fun t' v u ht hrun => h t' v u (hs.trans ht) hrun

theorem keepsTags_later {args : List Value} {tags : List Tag} {s t : Store}
    (h : List.Forall₂ (Value.KeepsTag s) args tags) {vs : List Value} (hs : Store.OnlyCompared vs s t) :
    List.Forall₂ (Value.KeepsTag t) args tags :=
  h.imp fun _ _ hk => hk.later hs

/-- The outcome of a call of a tower with one more layer, by the outcome for the layers within. -/
theorem TowerOutcome.cons {l : Layer} {ls : List Layer} {args : List Value} {tags : List Tag}
    {implementation inner : Exec Value} {s : Store} {c : Checked Value} {x : Except Stop Value × Store}
    (hsig : c.signature = l.signature) (hname : c.name = l.name)
    (hinner : ∀ t, Store.OnlyCompared args s t → TowerOutcome ls args tags implementation t (inner.on t))
    (h : CallOutcome c args tags inner s x) : TowerOutcome (l :: ls) args tags implementation s x := by
  have all {p : Layer → Prop} (hl : p l) (hls : ∀ l' ∈ ls, p l') : ∀ l' ∈ l :: ls, p l' :=
    List.forall_mem_cons.mpr ⟨hl, hls⟩
  have within {outer rest : List Layer} (hl : ls = outer ++ rest) : l :: ls = (l :: outer) ++ rest := by
    rw [hl, List.cons_append]
  cases h with
  | violated hr hs =>
    rw [hsig, hname] at hr
    exact .violated (List.nil_append _).symm (fun _ hl => by cases hl) hr hs
  | raised ha hs hrun =>
    rw [hsig] at ha
    have ho := hinner _ hs
    rw [hrun] at ho
    cases ho with
    | violated hl ha' hr hs' =>
      exact .violated (within hl) (List.forall_mem_cons.mpr ⟨ha, ha'⟩) hr (hs.trans hs')
    | raised ha' hs' hrun' => exact .raised (all ha ha') (hs.trans hs') hrun'
    | misreturned ha' hs' hrun' hv hl hi hr hw =>
      exact .misreturned (all ha ha') (hs.trans hs') hrun' hv (within hl) hi hr hw
  | unclassified ha hs hrun hv =>
    -- What the layers within return keeps its tag, so it is classified here as it was there.
    have ho := hinner _ hs
    rw [hrun] at ho
    cases ho with
    | returned ha' hs' hrun' hkeep hi hw =>
      rw [(hkeep.later hw).on_classify] at hv
      cases hv
  | misreturned ha hs hrun hv hr =>
    rw [hsig] at ha hr
    rw [hname] at hr
    have ho := hinner _ hs
    rw [hrun] at ho
    cases ho with
    | returned ha' hs' hrun' hkeep hi hw =>
      rw [(hkeep.later hw).on_classify] at hv
      cases hv
      exact .misreturned (all ha ha') (hs.trans hs') hrun' hkeep (List.nil_append _).symm hi hr
        (hw.trans (Value.onlyCompared_selfComparisons (List.mem_singleton_self _) _))
  | returned ha hs hrun hv hr =>
    rw [hsig] at ha hr
    have ho := hinner _ hs
    rw [hrun] at ho
    cases ho with
    | returned ha' hs' hrun' hkeep hi hw =>
      rw [(hkeep.later hw).on_classify] at hv
      cases hv
      exact .returned (all ha ha') (hs.trans hs') hrun' hkeep (all hr hi)
        (hw.trans (Value.onlyCompared_selfComparisons (List.mem_singleton_self _) _))

/-- A call of a tower has the outcome that its layers give it. -/
theorem towerOutcome_invoke {f g : Value} {layers : List Layer} (hg : IsTower f layers g) {args : List Value}
    {tags : List Tag} {s : Store} (h : List.Forall₂ (Value.KeepsTag s) args tags) (depth : Nat)
    (hf : ReturnsStably args s (invoke depth f args [])) :
    TowerOutcome layers args tags (invoke depth f args []) s ((invoke (depth + layers.length) g args []).on s) := by
  induction layers generalizing g s with
  | nil =>
    rw [show g = f from hg, List.length_nil, Nat.add_zero]
    rcases hrun : (invoke depth f args []).on s with ⟨e | v, u⟩
    · exact .raised (fun _ hl => by cases hl) (.refl args s) hrun
    · obtain ⟨tag, hv⟩ := hf s v u (.refl args s) hrun
      exact .returned (fun _ hl => by cases hl) (.refl args s) hrun hv (fun _ hl => by cases hl) (.refl [v] u)
  | cons l ls ih =>
    obtain ⟨id, c, rfl, hsig, hname, hc⟩ := hg
    exact .cons hsig hname (fun t hs => ih hc (keepsTags_later h hs) (hf.later hs))
      (callOutcome_guard h c (byPosition (invoke (depth + ls.length)) c.implementation))

/-! ### Wrapping twice -/

section
variable {c d : Checked Value} {args : List Value} {tags : List Tag} {s : Store} {call : List Value → Exec Value}

/-- What a call under checks returns keeps a tag that the signature admits. -/
theorem keepsTag_of_guard (h : List.Forall₂ (Value.KeepsTag s) args tags) (hf : ReturnsStably args s (call args))
    {v : Value} {u : Store} (hrun : (c.guard args 0 call).on s = (.ok v, u)) :
    ∃ tag, v.KeepsTag u tag ∧ AdmitsResult c.signature tag := by
  have ho := callOutcome_guard h c call
  rw [hrun] at ho
  cases ho with
  | returned ha hs hrun' hv hr =>
    obtain ⟨tag, hkeep⟩ := hf _ _ _ hs hrun'
    have htag := hkeep.on_classify
    rw [hv] at htag
    cases htag
    exact ⟨_, hkeep.later (Value.onlyCompared_selfComparisons (List.mem_singleton_self v) _), hr⟩

/-- The same checks around a call under checks change neither what it comes to nor what it calls. -/
theorem guard_guard (hsig : d.signature = c.signature) (hname : d.name = c.name)
    (h : List.Forall₂ (Value.KeepsTag s) args tags) (hf : ReturnsStably args s (call args))
    (hsame : SameOn (call args)) :
    ((d.guard args 0 fun vs => c.guard vs 0 call).on s).1 = ((c.guard args 0 call).on s).1 ∧
      ((d.guard args 0 fun vs => c.guard vs 0 call).on s).2.calls = ((c.guard args 0 call).on s).2.calls := by
  have stable : ∀ v ∈ args, ∃ u, v.KeepsTag s u := fun v hv => by
    obtain ⟨i, hv⟩ := List.mem_iff_getElem?.mp hv
    obtain ⟨u, -, hk⟩ := Checked.exists_tag h hv
    exact ⟨u, hk⟩
  -- Once the outer checks are passed, the inner ones run on a store that is alike.
  have inner {t : Store} (hs : Store.OnlyCompared args s t) := SameOn.closed.guard c args 0 hsame s t (hs.alike stable)
  have returned {t u : Store} {v : Value} (hs : Store.OnlyCompared args s t)
      (hrun : (c.guard args 0 call).on t = (.ok v, u)) :=
    keepsTag_of_guard (keepsTags_later h hs) (hf.later hs) hrun
  generalize hx : (d.guard args 0 fun vs => c.guard vs 0 call).on s = x
  have ho := callOutcome_guard h d fun vs => c.guard vs 0 call
  rw [hx] at ho
  cases ho with
  | violated hr hs =>
    rw [hsig, hname] at hr
    obtain ⟨t, ht, hst⟩ := Checked.guard_violated h hr call
    rw [ht]
    exact ⟨rfl, hs.calls.trans hst.calls.symm⟩
  | raised ha hs hrun =>
    have hi := inner hs
    rw [hrun] at hi
    exact ⟨hi.1, hi.2.calls⟩
  | unclassified ha hs hrun hv =>
    obtain ⟨tag, hkeep, -⟩ := returned hs hrun
    rw [hkeep.on_classify] at hv
    cases hv
  | misreturned ha hs hrun hv hr =>
    obtain ⟨tag, hkeep, hadmits⟩ := returned hs hrun
    rw [hkeep.on_classify] at hv
    cases hv
    rw [hsig] at hr
    exact absurd hadmits hr.not_admitsResult
  | returned ha hs hrun hv hr =>
    have hi := inner hs
    rw [hrun] at hi
    obtain ⟨tag, hkeep, -⟩ := returned hs hrun
    rw [hkeep.on_classify] at hv
    cases hv
    exact ⟨hi.1, hi.2.calls⟩

end

/-- What a tower returns keeps its tag if that of the function at the bottom does. -/
theorem IsTower.returnsStably {f g : Value} {layers : List Layer} (hg : IsTower f layers g) {args : List Value}
    {tags : List Tag} {s : Store} (h : List.Forall₂ (Value.KeepsTag s) args tags) (depth : Nat)
    (hf : ReturnsStably args s (invoke depth f args [])) :
    ReturnsStably args s (invoke (depth + layers.length) g args []) := by
  intro t v u hs hrun
  have ho := towerOutcome_invoke hg (keepsTags_later h hs) depth (hf.later hs)
  rw [hrun] at ho
  cases ho with
  | returned ha hs' hrun' hkeep hi hw => exact ⟨_, hkeep.later hw⟩

/-- Wrapping a function in layers gives a tower of them, a call of which has the outcome that the layers
    give it. Wrapping the tower once more in its outermost layer changes neither what the call comes to
    nor what is on record after it. -/
theorem towerOutcome_wrapTower {f : Value} (hf : f.isImplementation = true) (layers : List Layer) (call : Caller)
    (s₀ : Store) {args : List Value} {tags : List Tag} {s : Store} (h : List.Forall₂ (Value.KeepsTag s) args tags)
    (depth : Nat) (hr : ReturnsStably args s (invoke depth f args [])) :
    ∃ g t, (wrapTower call f layers).on s₀ = (.ok g, t) ∧
      TowerOutcome layers args tags (invoke depth f args []) s ((invoke (depth + layers.length) g args []).on s) ∧
      ∀ l, layers.head? = some l → ∃ g' t', (Value.wrap call l.written g l.name).on t = (.ok g', t') ∧
        ((invoke (depth + layers.length + 1) g' args []).on s).1 = ((invoke (depth + layers.length) g args []).on s).1 ∧
        ((invoke (depth + layers.length + 1) g' args []).on s).2.calls =
          ((invoke (depth + layers.length) g args []).on s).2.calls := by
  obtain ⟨g, t, hwrap, hg⟩ := wrapTower_isTower hf call layers s₀
  refine ⟨g, t, hwrap, towerOutcome_invoke hg h depth hr, fun l hl => ?_⟩
  obtain ⟨ls, rfl⟩ := List.head?_eq_some_iff.mp hl
  obtain ⟨id, m, n, hw⟩ := Value.wrap_readable call (hg.isImplementation hf) l.named l.reads t
  obtain ⟨i, c, rfl, hsig, hname, hc⟩ := hg
  refine ⟨_, _, hw, ?_⟩
  have hinner : ReturnsStably args s (byPosition (invoke (depth + ls.length)) c.implementation args) :=
    hc.returnsStably h depth hr
  exact guard_guard hsig.symm hname.symm h hinner (sameOn_invoke _ _ _ _)

/-- A layer around functions of one number. -/
def Layer.ofNumber (result : Tag) (name : String) : Layer :=
  ⟨Signature.toValue ⟨[.number], result⟩, ⟨[.number], result⟩, .ofString name, Signature.read_toValue _, rfl⟩

/-- A function that returns its argument. -/
def identity : Value := .routine 8 ⟨"identity", .empty, .argument 0⟩

/-- Of two layers that do not admit the result, the inner one reports it. -/
theorem towerOutcome_wrapTower_identity :
    let layers : List Layer := [.ofNumber .boolean "outer", .ofNumber .string "inner"]
    let args : List Value := [.integer 5 1]
    identity.isImplementation = true ∧ List.Forall₂ (Value.KeepsTag .initial) args [.number] ∧
      ReturnsStably args .initial (invoke 1 identity args []) ∧
      ∃ g t, (wrapTower caller identity layers).on .initial = (.ok g, t) ∧
        TowerOutcome layers args [.number] (invoke 1 identity args []) .initial ((invoke 3 g args []).on .initial) ∧
        ((invoke 3 g args []).on .initial).1 =
          .error (.failed (.report (.returnType (.ofString "inner") (.tag .string) (.tag .number)))) := by
  have h : List.Forall₂ (Value.KeepsTag .initial) [.integer 5 1] [.number] := .cons (fun _ => rfl) .nil
  have hr : ReturnsStably [.integer 5 1] .initial (invoke 1 identity [.integer 5 1] []) := by
    intro t v u _ hrun
    have hrun' : (invoke 1 identity [.integer 5 1] []).on t =
        (.ok (.integer 5 1), { t with calls := t.calls ++ [(8, [.integer 5 1])] }) := rfl
    rw [hrun'] at hrun
    cases hrun
    exact ⟨.number, fun _ => rfl⟩
  obtain ⟨g, t, hg, ho, -⟩ := towerOutcome_wrapTower (f := identity) rfl
    [.ofNumber .boolean "outer", .ofNumber .string "inner"] caller .initial h 1 hr
  refine ⟨rfl, h, hr, g, t, hg, ho, ?_⟩
  cases hg
  rfl

end CallGuard
