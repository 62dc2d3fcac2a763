import CallGuard.Proofs.SignatureReading
import CallGuard.Proofs.Wrapping

/-! The rows that checked functions go by. The signature of a checked function is a row of tags, all but the
    last for its arguments and the last for its result, and its attributes show the parts of the row
    (`goesBy_checked`). Whatever makes checked functions, be it of one function, a module or triples, makes
    them of what it was given for signatures: each goes by a row that one of these values writes, item by item,
    and a value without items writes none (`Step.underlies_of_perform`). -/

namespace CallGuard

/-! ### Rows -/

namespace Value

/-- A function goes by a row of tags, as its attributes show: the row is its signature, and the last tag of it
    stands behind those of the arguments, of which there are as many as its arity says. -/
structure GoesBy (f : Value) (row : List Value) : Prop where
  signature : ∃ id, f.readAttribute "signature" = .ok (.sequence id .tuple row)
  tags : ∀ v ∈ row, ∃ t, v = .tag t
  parts : ∃ arguments result, row = arguments ++ [result] ∧
    f.readAttribute "argument_tags" = .ok (.tuple arguments) ∧ f.readAttribute "return_tag" = .ok result ∧
    f.readAttribute "arity" = .ok (.ofInt arguments.length)

/-- A value writes a row of tags: it is a sequence with items, each of which names the tag at its place. -/
structure Writes (v : Value) (row : List Value) : Prop where
  holdsTags : v.HoldsTags
  items : ∃ items, v.items? = some items ∧ items ≠ [] ∧
    List.Forall₂ (fun w u => ∃ t, u = .tag t ∧ w.Names t) items row

/-- A value underlies a checked function, which goes by the row that the value writes. -/
def Underlies (v f : Value) : Prop := ∃ row, v.Writes row ∧ f.GoesBy row

end Value

namespace Signature

/-- The tags of a signature as values. -/
def row (s : Signature) : List Value := s.tags.map .tag

theorem row_eq (s : Signature) : s.row = s.arguments.map .tag ++ [.tag s.result] := by simp [row, tags]

/-- A signature is read of the values that write its row. -/
theorem writes_of_read {v : Value} {sig : Signature} (h : read v = .ok sig) : v.Writes sig.row := by
  cases reading_of_read h with
  | @signature items _ hv hitems hnames =>
    refine ⟨hv, items, hitems, ?_, ?_⟩
    · rintro rfl
      exact sig.tags_ne_nil (List.forall₂_nil_left_iff.mp hnames)
    · rw [row, List.forall₂_map_right_iff]
      exact hnames.imp fun w t hw => ⟨t, rfl, hw⟩

end Signature

/-- Every checked function goes by the row of its signature. -/
theorem goesBy_checked (id : ObjectId) (c : Checked Value) : (Value.checked id c).GoesBy c.signature.row where
  signature := ⟨id + 1, rfl⟩
  tags := by
    intro v hv
    obtain ⟨t, -, rfl⟩ := List.mem_map.mp hv
    exact ⟨t, rfl⟩
  parts := by
    refine ⟨c.signature.arguments.map .tag, .tag c.signature.result, c.signature.row_eq, rfl, rfl, ?_⟩
    rw [List.length_map]
    rfl

/-! ### What operations come to -/

namespace Exec
variable {α β : Type} {Q R : α → Prop} {S : β → Prop}

/-- Whatever an operation comes to has a property. -/
def Gives (Q : α → Prop) (x : Exec α) : Prop := ∀ s a t, x.on s = (.ok a, t) → Q a

namespace Gives

theorem pure {a : α} (ha : Q a) : Gives Q (Pure.pure a) := by
  rintro s _ t ⟨⟩
  exact ha

theorem fail (f : Failure) : Gives Q (Exec.fail f) := fun _ _ _ h => nomatch h

theorem bind {x : Exec α} {k : α → Exec β} (hx : Gives Q x) (hk : ∀ a, Q a → Gives S (k a)) :
    Gives S (x >>= k) := by
  intro s b t h
  obtain ⟨a, u, ha, h⟩ := on_bind_eq_ok h
  exact hk a (hx s a u ha) u b t h

/-- An operation of which nothing is said comes first. -/
theorem after {x : Exec α} {k : α → Exec β} (hk : ∀ a, Gives S (k a)) : Gives S (x >>= k) :=
  bind (Q := fun _ => True) (fun _ _ _ _ => trivial) fun a _ => hk a

theorem lift {ε : Type} {cause : ε → Failure} {x : Except ε α} (h : ∀ a, x = .ok a → Q a) :
    Gives Q (Exec.lift cause x) := by
  cases x with
  | error e => exact fail _
  | ok a => exact pure (h a rfl)

/-- An operation that goes on or fails. -/
theorem require {p : Prop} [Decidable p] (f : Failure) {k : Unit → Exec α} (hk : Gives Q (k ())) :
    Gives Q (if p then k () else Exec.fail f >>= k) := by
  split
  · exact hk
  · exact fail f

/-- An operation that fails or goes on. -/
theorem refuse {p : Prop} [Decidable p] (f : Failure) {k : Unit → Exec α} (hk : Gives Q (k ())) :
    Gives Q (if p then Exec.fail f >>= k else k ()) := by
  split
  · exact fail f
  · exact hk

theorem mono {x : Exec α} (hx : Gives Q x) (h : ∀ a, Q a → R a) : Gives R x :=
  fun s a t ha => h a (hx s a t ha)

end Gives
end Exec

open Exec (Gives)

/-! ### One function -/

theorem Value.gives_wrap (call : Caller) (signature implementation name : Value) :
    Gives signature.Underlies (wrap call signature implementation name) := by
  intro s f t h
  obtain ⟨sig, id, display, m, -, -, -, hread, -, -, rfl⟩ := exists_of_wrap h
  exact ⟨sig.row, Signature.writes_of_read hread, goesBy_checked id _⟩

/-! ### Modules -/

namespace Module
variable {es : List Entry} {m : String} {call : Caller}

/-- An entry of the result was an entry before, or holds a function made of the value of one. -/
def Kept (ps : List (Value × Value)) (p : Value × Value) : Prop := p ∈ ps ∨ ∃ q ∈ ps, q.2.Underlies p.2

theorem gives_newMapping (ps : List (Value × Value)) : Gives (fun v => v.entries? = some ps) (newMapping ps) := by
  unfold newMapping
  exact .require _ (.after fun _ => .pure rfl)

theorem gives_wrapFunction {f : Entry} (hf : f ∈ es) : Gives (Kept (es.map Entry.pair)) (wrapFunction call m es f) := by
  unfold wrapFunction
  split
  · next s hs =>
    have hmem : s ∈ es := (List.mem_filter.mp (List.mem_of_find?_eq_some hs)).1
    exact .bind (Value.gives_wrap call _ _ _) fun c hc => .pure (.inr ⟨s.pair, List.mem_map_of_mem hmem, hc⟩)
  · exact .after fun _ => .pure (.inl (List.mem_map_of_mem hf))

theorem gives_wrapFunctions {fs : List Entry} (hfs : ∀ f ∈ fs, f ∈ es) :
    Gives (fun ps => ∀ p ∈ ps, Kept (es.map Entry.pair) p) (wrapFunctions call m es fs) := by
  induction fs with
  | nil => exact .pure nofun
  | cons f fs ih =>
    obtain ⟨hf, hfs⟩ := List.forall_mem_cons.mp hfs
    exact .bind (gives_wrapFunction hf) fun p hp => .bind (ih hfs) fun ps hps =>
      .pure (List.forall_mem_cons.mpr ⟨hp, hps⟩)

theorem gives_wrapEntries (es : List Entry) :
    Gives (fun ps => ∀ p ∈ ps, Kept (es.map Entry.pair) p) (wrapEntries call m es) := by
  have hrole {r : Role} : ∀ e ∈ ofRole m r es, e ∈ es := fun e he => (List.mem_filter.mp he).1
  refine .bind (gives_wrapFunctions hrole) fun functions hfunctions => .after fun _ => .pure ?_
  refine List.forall_mem_append.mpr ⟨fun p hp => ?_, hfunctions⟩
  obtain ⟨e, he, rfl⟩ := List.mem_map.mp hp
  exact .inl (List.mem_map_of_mem (hrole e he))

theorem pairs_of_readAll {markerType : String} {ps : List (Value × Value)}
    (h : Entry.readAll markerType ps = .ok es) : es.map Entry.pair = ps := by
  induction ps generalizing es with
  | nil =>
    cases h
    rfl
  | cons p ps ih =>
    unfold Entry.readAll at h
    split at h
    · cases hrest : Entry.readAll markerType ps with
      | error f => simp [hrest, Except.map] at h
      | ok es' =>
        rw [hrest] at h
        cases h
        exact congrArg (p :: ·) (ih hrest)
    · cases h

theorem gives_wrap {spec marker : Value} {ps : List (Value × Value)} (hspec : spec.entries? = some ps) :
    Gives (fun v => ∃ qs, v.entries? = some qs ∧ ∀ q ∈ qs, Kept ps q) (wrap call spec marker) := by
  unfold wrap
  rw [hspec]
  refine .require _ (.after fun m => .bind (.lift fun es hes => pairs_of_readAll hes) fun es hes => ?_)
  subst hes
  exact .bind (gives_wrapEntries es) fun qs hqs => (gives_newMapping qs).mono fun v hv => ⟨qs, hv, hqs⟩

end Module

/-! ### Triples -/

/-- A value is among the items that another yields. -/
inductive Value.Yields (u : Value) : Value → Prop
  | iterator {id : ObjectId} {vs : List Value} (hu : u ∈ vs) : Yields u (.iterator id vs)
  | row {v : Value} {vs : List Value} (hitems : v.items? = some vs) (hu : u ∈ vs) : Yields u v

namespace Triples
variable {call : Caller} {v : Value} {vs : List Value} {done : List (Value × Value)}

/-- An entry was there already, or holds a function made of an item of one of some values. -/
def Added (vs : List Value) (done : List (Value × Value)) (e : Value × Value) : Prop :=
  e ∈ done ∨ ∃ v ∈ vs, ∃ u : Value, u.Yields v ∧ u.Underlies e.2

theorem gives_takeItems? (n : Nat) (v : Value) :
    Gives (fun o => ∀ us ∈ o, ∀ u ∈ us, u.Yields v) (v.takeItems? n) := by
  unfold Value.takeItems?
  split
  · next id us =>
    refine .after fun s => .after fun _ => .pure ?_
    rintro _ ⟨⟩ u hu
    exact .iterator (List.mem_of_mem_drop (List.mem_of_mem_take hu))
  · refine .pure fun us hus u hu => ?_
    obtain ⟨ws, hws, rfl⟩ := Option.map_eq_some_iff.mp hus
    exact .row hws (List.mem_of_mem_take hu)

/-- The second of three parts is an item. -/
theorem gives_unpack (v : Value) : Gives (fun parts => parts.2.1.Yields v) (unpack v) := by
  refine .bind (gives_takeItems? 4 v) fun o ho => ?_
  split
  · exact .fail _
  · exact .pure (ho _ rfl _ (by simp))
  · exact .fail _

theorem gives_wrapOne (done : List (Value × Value)) (v : Value) :
    Gives (fun es => ∀ e ∈ es, Added [v] done e) (wrapOne call done v) := by
  refine .bind (gives_unpack v) fun parts hparts => .after fun _ => .bind (Value.gives_wrap call _ _ _) fun c hc => ?_
  refine .pure (List.forall_mem_append.mpr ⟨fun e he => .inl he, List.forall_mem_singleton.mpr (.inr ?_)⟩)
  exact ⟨v, List.mem_singleton_self v, _, hparts, hc⟩

/-- What is added behind what one value added is added behind what was there before. -/
theorem Added.trans {es : List (Value × Value)} {ws : List Value} (hes : ∀ e ∈ es, Added ws done e)
    (hws : ∀ w ∈ ws, w ∈ vs) {e : Value × Value} (he : Added vs es e) : Added vs done e := by
  rcases he with he | he
  · rcases hes e he with hdone | ⟨w, hw, hmade⟩
    · exact .inl hdone
    · exact .inr ⟨w, hws w hw, hmade⟩
  · exact .inr he

theorem gives_wrapAll (done : List (Value × Value)) (vs : List Value) :
    Gives (fun es => ∀ e ∈ es, Added vs done e) (wrapAll call done vs) := by
  induction vs generalizing done with
  | nil => exact .pure fun e he => .inl he
  | cons v vs ih =>
    refine .bind (gives_wrapOne done v) fun es hes => (ih es).mono fun fs hfs e he => ?_
    have hsub : ∀ w ∈ [v], w ∈ v :: vs := List.forall_mem_singleton.mpr List.mem_cons_self
    exact Added.trans hes hsub ((hfs e he).imp_right fun ⟨w, hw, hmade⟩ => ⟨w, List.mem_cons_of_mem v hw, hmade⟩)

theorem gives_wrapFrom (id : ObjectId) (vs : List Value) (fuel : Nat) (done : List (Value × Value)) :
    Gives (fun es => ∀ e ∈ es, Added vs done e) (wrapFrom call id vs fuel done) := by
  induction fuel generalizing done with
  | zero => exact .pure fun e he => .inl he
  | succ fuel ih =>
    refine .after fun s => ?_
    split
    · exact .pure fun e he => .inl he
    · next v hv =>
      have hsub : ∀ w ∈ [v], w ∈ vs := List.forall_mem_singleton.mpr (List.mem_of_getElem? hv)
      exact .after fun _ => .bind (gives_wrapOne done v) fun es hes => (ih es).mono fun fs hfs e he =>
        Added.trans hes hsub (hfs e he)

/-- Every entry of a mapping holds a function made of an item of an item of a value. -/
def IsMade (entries v : Value) : Prop :=
  ∃ es, v.entries? = some es ∧ ∀ e ∈ es, ∃ w : Value, w.Yields entries ∧ ∃ u : Value, u.Yields w ∧ u.Underlies e.2

theorem gives_made {entries : Value} {x : Exec (List (Value × Value))} (hx : Gives (fun es => ∀ e ∈ es, Added vs [] e) x)
    (hvs : ∀ w ∈ vs, w.Yields entries) : Gives (IsMade entries) (do Module.newMapping (← x)) := by
  refine .bind hx fun es hes => (Module.gives_newMapping es).mono fun v hv => ⟨es, hv, fun e he => ?_⟩
  rcases hes e he with hnone | ⟨w, hw, hmade⟩
  · cases hnone
  · exact ⟨w, hvs w hw, hmade⟩

theorem gives_wrap (entries : Value) : Gives (IsMade entries) (wrap call entries) := by
  unfold wrap
  refine .refuse _ ?_
  split
  · next id vs => exact gives_made (gives_wrapFrom id vs _ []) fun w hw => .iterator hw
  · split
    · next vs hvs => exact gives_made (gives_wrapAll [] vs) fun w hw => .row hvs hw
    · exact .fail _

end Triples

/-! ### Operations -/

/-- The values that an operation is given to read signatures from. -/
inductive Step.Offers : Step → Value → Prop
  | wrap {signature implementation name : Value} : Offers (.wrap signature implementation name) signature
  | wrapTyped {tags : List Value} {implementation name : Value} :
    Offers (.wrapTyped tags implementation name) (.tuple tags)
  | wrapModule {spec marker : Value} {es : List (Value × Value)} {e : Value × Value} (hspec : spec.entries? = some es)
    (he : e ∈ es) : Offers (.wrapModule spec marker) e.2
  | wrapTriples {entries v u : Value} (hv : v.Yields entries) (hu : u.Yields v) : Offers (.wrapTriples entries) u

/-- A function that an operation wraps is what it answers, or stands under a key of the mapping that it answers,
    where it did not stand before. -/
inductive Step.Wraps : Step → Value → Value → Prop
  | wrap {signature implementation name f : Value} : Wraps (.wrap signature implementation name) f f
  | wrapTyped {tags : List Value} {implementation name f : Value} : Wraps (.wrapTyped tags implementation name) f f
  | wrapModule {spec marker answer : Value} {ps es : List (Value × Value)} {e : Value × Value}
    (hspec : spec.entries? = some ps) (hes : answer.entries? = some es) (he : e ∈ es) (hnew : e ∉ ps) :
    Wraps (.wrapModule spec marker) answer e.2
  | wrapTriples {entries answer : Value} {es : List (Value × Value)} {e : Value × Value}
    (hes : answer.entries? = some es) (he : e ∈ es) : Wraps (.wrapTriples entries) answer e.2

/-- The functions that an operation wraps in an answer are made of what it was given for signatures. -/
def Step.WrapsOffered (step : Step) (a : Answer) : Prop :=
  ∀ answer ∈ a.value?, ∀ f, step.Wraps answer f → ∃ v, step.Offers v ∧ v.Underlies f

theorem Step.gives_run (call : Invoker) (step : Step) : Gives step.WrapsOffered (step.run call) := by
  have answered {x : Exec Value} {Q : Value → Prop} (hx : Gives Q x) :
      Gives (fun a => ∀ answer ∈ a.value?, Q answer) (do return Answer.value (← x)) :=
    .bind hx fun v hv => .pure fun answer hanswer => Option.some.inj hanswer ▸ hv
  cases step with
  | wrap signature implementation name =>
    refine (answered (Value.gives_wrap _ _ _ _)).mono fun a ha answer hanswer f hf => ?_
    cases hf
    exact ⟨signature, .wrap, ha answer hanswer⟩
  | wrapTyped tags implementation name =>
    refine (answered (Value.gives_wrap _ _ _ _)).mono fun a ha answer hanswer f hf => ?_
    cases hf
    exact ⟨.tuple tags, .wrapTyped, ha answer hanswer⟩
  | wrapModule spec marker =>
    intro s a t h answer hanswer f hf
    cases hf with
    | wrapModule hspec hes he hnew =>
      obtain ⟨qs, hqs, hkept⟩ := answered (Module.gives_wrap hspec) s a t h answer hanswer
      cases hes.symm.trans hqs
      rcases hkept _ he with hold | ⟨q, hq, hunder⟩
      · exact absurd hold hnew
      · exact ⟨q.2, .wrapModule hspec hq, hunder⟩
  | wrapTriples entries =>
    refine (answered (Triples.gives_wrap _)).mono fun a ha answer hanswer f hf => ?_
    cases hf with
    | wrapTriples hes he =>
      obtain ⟨qs, hqs, hmade⟩ := ha answer hanswer
      cases hes.symm.trans hqs
      obtain ⟨w, hw, u, hu, hunder⟩ := hmade _ he
      exact ⟨u, .wrapTriples hw hu, hunder⟩
  | _ => exact fun _ _ _ _ _ _ _ hf => nomatch hf

/-- Every function that an operation wraps goes by a row that a value writes which the operation was given. -/
theorem Step.underlies_of_perform {step : Step} {target : Option String} {s t : Store} {answer f : Value}
    (h : (step.perform target).on s = (.ok (.value answer), t)) (hf : step.Wraps answer f) :
    ∃ v, step.Offers v ∧ v.Underlies f := by
  have hgives : Gives step.WrapsOffered (step.perform target) := by
    refine .bind (step.gives_run Value.call) fun a ha => ?_
    split
    · exact .after fun _ => .pure ha
    · exact .pure ha
  exact hgives s _ t h answer rfl f hf

end CallGuard
