import CallGuard.Proofs.Passes

/-! How deep calls may nest. An operation refines another one if it does the same on every store where it does
    not stop for calls that nest too deep. Whatever is done with a way of calling refines what is done with
    one that it refines, since an operation that stops ends the whole and all else is done alike. So a call
    that may nest less deep refines one that may nest deeper, by induction on the depth: the depth decides
    whether a call comes to its end, never to which (`refines_invoke`). -/

namespace CallGuard

namespace Exec
variable {α β : Type}

/-- An operation does what another one does, unless it stops for calls that nest too deep. -/
def Refines (x y : Exec α) : Prop := ∀ s, (∃ t, x.on s = (.error .exhausted, t)) ∨ x.on s = y.on s

namespace Refines
variable {x y z : Exec α} {k l : α → Exec β}

theorem refl (x : Exec α) : Refines x x := fun _ => .inr rfl

theorem trans (h : Refines x y) (h' : Refines y z) : Refines x z := by
  intro s
  rcases h s with hx | hxy
  · exact .inl hx
  · rw [hxy]
    exact h' s

theorem exhausted (y : Exec α) : Refines (throw .exhausted) y := fun s => .inl ⟨s, rfl⟩

theorem bind (h : Refines x y) (hk : ∀ a, Refines (k a) (l a)) : Refines (x >>= k) (y >>= l) := by
  intro s
  rcases h s with ⟨t, hx⟩ | hxy
  · exact .inl ⟨t, on_bind_error hx⟩
  · rcases hy : y.on s with ⟨e | a, t⟩ <;> rw [hy] at hxy
    · rw [on_bind_error hxy, on_bind_error hy]
      exact .inr rfl
    · rw [on_bind_ok hxy, on_bind_ok hy]
      exact hk a t

theorem bindAll (x : Exec α) (hk : ∀ a, Refines (k a) (l a)) : Refines (x >>= k) (x >>= l) := (refl x).bind hk

/-- What comes after a failure does not matter. -/
theorem failed (f : Failure) : Refines (Exec.fail f >>= k) (Exec.fail f >>= l) := fun _ => .inr rfl

theorem map (f : α → β) (h : Refines x y) : Refines (f <$> x) (f <$> y) := by
  rw [map_eq_pure_bind, map_eq_pure_bind]
  exact h.bind fun _ => refl _

theorem mapM {f g : α → Exec β} (h : ∀ a, Refines (f a) (g a)) (as : List α) : Refines (as.mapM f) (as.mapM g) := by
  induction as with
  | nil => exact refl _
  | cons a as ih =>
    rw [List.mapM_cons, List.mapM_cons]
    exact (h a).bind fun _ => ih.bind fun _ => refl _

/-- Nesting too deep is no failure, and so nothing goes on after it. -/
theorem recover {handler handler' : Failure → Option (Exec α)} (h : Refines x y)
    (hhandler : ∀ f, Refines ((handler f).getD (Exec.fail f)) ((handler' f).getD (Exec.fail f))) :
    Refines (x.recover handler) (y.recover handler') := by
  intro s
  rcases h s with ⟨t, hx⟩ | hxy
  · exact .inl ⟨t, on_recover_other handler hx (by simp)⟩
  · rcases hy : y.on s with ⟨(f | _ | _) | a, t⟩ <;> rw [hy] at hxy
    · rw [on_recover_failed hxy, on_recover_failed hy]
      exact hhandler f t
    all_goals
      rw [on_recover_other handler hxy (by simp), on_recover_other handler' hy (by simp)]
      exact .inr rfl

end Refines

end Exec

open Exec (Refines)

/-! ### Asking -/

namespace Value
variable {call call' : Caller} (h : ∀ f args, Refines (call f args) (call' f args))
include h

theorem refines_askClassWith (name : String) (args : List Value) (v : Value) :
    Refines (v.askClassWith call name args) (v.askClassWith call' name args) := by
  unfold askClassWith
  split
  · split
    · exact (h _ _).map some
    · exact .refl _
  · exact .refl _

theorem refines_askClass (name : String) (v : Value) : Refines (v.askClass call name) (v.askClass call' name) :=
  refines_askClassWith h name [] v

theorem refines_askLength (v : Value) : Refines (v.askLength call) (v.askLength call') := by
  refine (refines_askClass h lengthName v).bind fun o => ?_
  cases o <;> exact .refl _

theorem refines_askTruth (v : Value) : Refines (v.askTruth call) (v.askTruth call') := by
  refine (refines_askClass h truthName v).bind fun o => ?_
  split
  · exact .refl _
  · exact .refl _
  · refine (refines_askClass h lengthName v).bind fun o => ?_
    cases o <;> exact .refl _

theorem refines_listItems (v : Value) : Refines (v.listItems call) (v.listItems call') := by
  refine (refines_askClass h iteratorName v).bind fun o => ?_
  cases o <;> exact .refl _

theorem refines_askItem (v key : Value) : Refines (v.askItem call key) (v.askItem call' key) := by
  refine (refines_askClassWith h itemName [key] v).bind fun o => ?_
  cases o <;> exact .refl _

theorem refines_askMagnitude (v : Value) : Refines (v.askMagnitude call) (v.askMagnitude call') := by
  refine (refines_askClass h magnitudeName v).bind fun o => ?_
  cases o <;> exact .refl _

theorem refines_askIntegerUnder (v : Value) (names : List String) :
    Refines (v.askIntegerUnder call names) (v.askIntegerUnder call' names) := by
  induction names with
  | nil => exact .refl _
  | cons name names ih =>
    refine (refines_askClass h name v).bind fun o => ?_
    cases o with
    | none => exact ih
    | some answer => exact .refl _

theorem refines_askInteger (v : Value) : Refines (v.askInteger call) (v.askInteger call') := by
  refine (refines_askIntegerUnder h v integerNames).bind fun o => ?_
  cases o <;> exact .refl _

theorem refines_askEqualOneWay (v w : Value) : Refines (v.askEqualOneWay call w) (v.askEqualOneWay call' w) := by
  refine (refines_askClassWith h equalityName [w] v).bind fun o => ?_
  split
  · exact .refl _
  · split
    · exact .refl _
    · exact (refines_askTruth h _).map some
  · exact (refines_askTruth h _).map some

theorem refines_askEqual (v w : Value) : Refines (v.askEqual call w) (v.askEqual call' w) := by
  refine (refines_askEqualOneWay h v w).bind fun o => ?_
  cases o with
  | some b => exact .refl _
  | none =>
    refine (refines_askEqualOneWay h w v).bind fun o => ?_
    cases o <;> exact .refl _

end Value

/-! ### Looking up -/

namespace Value
variable {call call' : Caller} (h : ∀ f args, Refines (call f args) (call' f args))
include h

theorem refines_askObjectHash (v family : Value) :
    Refines (v.askObjectHash call family) (v.askObjectHash call' family) := by
  unfold askObjectHash
  split
  · exact .failed _
  · refine (refines_askClass h hashName v).bind fun o => ?_
    cases o <;> exact .refl _

omit h in
theorem refines_askHashes {vs : List Value} (hvs : ∀ w ∈ vs, Refines (w.askHash call) (w.askHash call')) :
    Refines (askHashes call vs) (askHashes call' vs) := by
  induction vs with
  | nil => exact .refl _
  | cons v vs ih =>
    obtain ⟨hv, hvs⟩ := List.forall_mem_cons.mp hvs
    exact hv.bind fun _ => ih hvs

theorem refines_askHash (v : Value) : Refines (v.askHash call) (v.askHash call') := by
  induction v using askHash_induction with
  | tuple id vs ih =>
    rw [askHash, askHash]
    exact (refines_askHashes ih).bind fun _ => .refl _
  | custom id className id' vs items traits replies ih =>
    rw [askHash, askHash]
    exact (refines_askHashes ih).bind fun _ => .refl _
  | object id family =>
    rw [askHash, askHash]
    exact refines_askObjectHash h _ family
  | other v htuple hcustom hobject =>
    rw [askHash_of_other htuple hcustom hobject, askHash_of_other htuple hcustom hobject]
    exact .refl _

theorem refines_askWritten (depth : Nat) (v : Value) : Refines (v.askWritten call depth) (v.askWritten call' depth) := by
  induction depth generalizing v with
  | zero => exact .refl _
  | succ depth ih =>
    refine (refines_askClass h writtenName v).bind fun o => ?_
    cases o with
    | some answer => exact .refl _
    | none =>
      dsimp only
      split
      · exact (Refines.mapM ih v.writtenParts).bind fun _ => .refl _
      · exact .refl _

end Value

namespace ClosedSet
variable {α : Type} {call call' : Caller} (h : ∀ f args, Refines (call f args) (call' f args)) (set : ClosedSet α)
  (host : Host) (v : Value)
include h

theorem refines_search (ms : List α) : Refines (set.search call v ms) (set.search call' v ms) := by
  induction ms with
  | nil => exact .refl _
  | cons m ms ih =>
    refine (Value.refines_askEqual h _ v).bind fun b => ?_
    split
    · exact .refl _
    · exact ih

theorem refines_findByHash : Refines (set.findByHash host call v) (set.findByHash host call' v) := by
  refine (Value.refines_askHash h v).bind fun o => ?_
  cases o with
  | none => exact .refl _
  | some _ => exact refines_search h set v _

theorem refines_find? : Refines (set.find? host call v) (set.find? host call' v) := by
  unfold find?
  split
  · exact .refl _
  · refine (refines_findByHash h set host v).recover fun f => ?_
    split
    · exact .refl _
    · exact refines_search h set v _
    · exact .refl _

theorem refines_find : Refines (set.find host call v) (set.find host call' v) := by
  refine (refines_find? h set host v).bind fun o => ?_
  cases o with
  | some _ => exact .refl _
  | none => exact (Value.refines_askWritten h _ v).bind fun _ => .refl _

end ClosedSet

/-! ### Building -/

namespace Blueprint
variable {call call' : Caller}

mutual

theorem refines_build (h : ∀ f args, Refines (call f args) (call' f args)) :
    ∀ b : Blueprint, Refines (b.build call) (b.build call')
  | .integer _ _ => .refl _
  | .text _ _ => .refl _
  | .atom _ => .refl _
  | .sequence _ bs => (refines_buildAll h bs).bind fun _ => .refl _
  | .set _ bs => (refines_buildAll h bs).bind fun _ => .refl _
  | .mapping _ es => (refines_buildEntries h es).bind fun _ => .refl _
  | .iterator bs => (refines_buildAll h bs).bind fun _ => .refl _
  | .custom _ _ content items _ retorts =>
    (refines_buildOption h content).bind fun _ => (refines_buildRow h items).bind fun _ =>
      (refines_buildReplies h retorts).bind fun _ => .refl _
  | .routine _ ⟨module, name, qualname, doc⟩ _ =>
    (refines_buildOption h module).bind fun _ => (refines_buildOption h name).bind fun _ =>
      (refines_buildOption h qualname).bind fun _ => (refines_buildOption h doc).bind fun _ => .refl _
  | .named _ => .refl _
  | .item b key =>
    (refines_build h b).bind fun v => (refines_build h key).bind fun k =>
      (Value.refines_askItem h v k).bind fun _ => .refl _
  | .attribute b _ => (refines_build h b).bind fun _ => .refl _
  | .new b => (refines_build h b).bind fun f => h f []
  | .marked _ b => (refines_build h b).bind fun _ => .refl _
  | .refused _ => .refl _

theorem refines_buildAll (h : ∀ f args, Refines (call f args) (call' f args)) :
    ∀ bs : List Blueprint, Refines (buildAll call bs) (buildAll call' bs)
  | [] => .refl _
  | b :: bs => (refines_build h b).bind fun _ => (refines_buildAll h bs).bind fun _ => .refl _

theorem refines_buildEntries (h : ∀ f args, Refines (call f args) (call' f args)) :
    ∀ es : List (Blueprint × Blueprint), Refines (buildEntries call es) (buildEntries call' es)
  | [] => .refl _
  | (b, c) :: es =>
    (refines_build h b).bind fun _ => (refines_build h c).bind fun _ => (refines_buildEntries h es).bind fun _ => .refl _

theorem refines_buildOption (h : ∀ f args, Refines (call f args) (call' f args)) :
    ∀ b : Option Blueprint, Refines (buildOption call b) (buildOption call' b)
  | none => .refl _
  | some b => (refines_build h b).map some

theorem refines_buildRow (h : ∀ f args, Refines (call f args) (call' f args)) :
    ∀ bs : Option (List Blueprint), Refines (buildRow call bs) (buildRow call' bs)
  | none => .refl _
  | some bs => (refines_buildAll h bs).map some

theorem refines_buildReplies (h : ∀ f args, Refines (call f args) (call' f args)) :
    ∀ rs : List (Retort Blueprint), Refines (buildReplies call rs) (buildReplies call' rs)
  | [] => .refl _
  | .value b :: rs => (refines_build h b).bind fun _ => (refines_buildReplies h rs).bind fun _ => .refl _
  | .raised _ :: rs => (refines_buildReplies h rs).bind fun _ => .refl _

end

end Blueprint

/-! ### Calling -/

namespace Stock
variable {call call' : Caller} (h : ∀ f args, Refines (call f args) (call' f args))

theorem refines_callUnary {function : String} {args : List Value} {named : List (String × Value)}
    {run run' : Value → Exec Value} (hrun : ∀ v, Refines (run v) (run' v)) :
    Refines (callUnary function args named run) (callUnary function args named run') := by
  refine .bindAll _ fun _ => ?_
  split
  · exact hrun _
  · exact .refl _

include h

theorem refines_makeList (args : List Value) (named : List (String × Value)) :
    Refines (makeList call args named) (makeList call' args named) := by
  refine .bindAll _ fun _ => ?_
  split
  · exact .refl _
  · exact (Value.refines_listItems h _).bind fun _ => .refl _
  · exact .refl _

theorem refines_makeInteger (args : List Value) (named : List (String × Value)) :
    Refines (makeInteger call args named) (makeInteger call' args named) := by
  unfold makeInteger
  split
  · exact .refl _
  · exact .refl _
  · exact .refl _
  · dsimp only
    split
    · split <;> exact .failed _
    · split
      · exact .failed _
      · exact (Value.refines_askInteger h _).bind fun _ => .refl _
  · exact .refl _

theorem refines_findTag (v : Value) : Refines (findTag call v) (findTag call' v) :=
  (ClosedSet.refines_find h Tag.closedSet .usual v).map _

theorem refines_callTagClass (args : List Value) (named : List (String × Value)) :
    Refines (callTagClass call args named) (callTagClass call' args named) := by
  refine .bindAll _ fun bound => ?_
  dsimp only
  split
  · exact refines_findTag h _
  · exact refines_findTag h _
  · exact .refl _

theorem refines_call (s : Stock) (args : List Value) (named : List (String × Value)) :
    Refines (s.call call args named) (s.call call' args named) := by
  have hlength : Refines (tellLength call args named) (tellLength call' args named) :=
    refines_callUnary fun v => (Value.refines_askLength h v).bind fun _ => .refl _
  have hmagnitude : Refines (tellMagnitude call args named) (tellMagnitude call' args named) :=
    refines_callUnary fun v => (Value.refines_askMagnitude h v).bind fun _ => .refl _
  unfold Stock.call
  dsimp only
  split
  case h_6 => exact refines_makeList h args named
  case h_7 => exact refines_makeInteger h args named
  case h_8 => exact refines_callTagClass h args named
  all_goals first | exact hlength | exact hmagnitude | exact .refl _

end Stock

namespace Body
variable {call call' : Caller}

mutual

theorem refines_eval (h : ∀ f args, Refines (call f args) (call' f args)) (id : ObjectId)
    (args : List Value) :
    ∀ b : Body Blueprint, Refines (b.eval id args call) (b.eval id args call')
  | .argument _ => .refl _
  | .arguments => .refl _
  | .constant b => b.refines_build h
  | .named _ => .refl _
  | .count => .refl _
  | .turns _ => .bindAll _ fun _ => Blueprint.refines_build h _
  | .list es => (refines_evalAll h id args es).bind fun _ => .refl _
  | .arithmetic _ l r => (refines_eval h id args l).bind fun _ => (refines_eval h id args r).bind fun _ => .refl _
  | .equal l r =>
    (refines_eval h id args l).bind fun v => (refines_eval h id args r).bind fun w =>
      (Value.refines_askEqual h v w).bind fun _ => .refl _
  | .choose condition yes no => by
    refine (refines_eval h id args condition).bind fun v => (Value.refines_askTruth h v).bind fun _ => ?_
    split
    · exact refines_eval h id args yes
    · exact refines_eval h id args no
  | .call f es =>
    (refines_eval h id args f).bind fun g => (refines_evalAll h id args es).bind fun vs => h g vs
  | .throw _ => .refl _

theorem refines_evalAll (h : ∀ f args, Refines (call f args) (call' f args)) (id : ObjectId)
    (args : List Value) :
    ∀ es : List (Body Blueprint), Refines (evalAll id args call es) (evalAll id args call' es)
  | [] => .refl _
  | e :: es => (refines_eval h id args e).bind fun _ => (refines_evalAll h id args es).bind fun _ => .refl _

end

end Body

theorem Checked.refines_run (c : Checked Value) (args : List Value) (named : List (String × Value))
    {call call' : Caller} (h : Refines (call c.implementation args) (call' c.implementation args)) :
    Refines (c.run args named call) (c.run args named call') := by
  unfold Checked.run
  split
  · exact .failed _
  · exact .bindAll _ fun _ => h.bind fun _ => .refl _

namespace Value
variable {call call' : Invoker} (h : ∀ f args named, Refines (call f args named) (call' f args named))
include h

theorem refines_start (id : ObjectId) (name : String) (attributes : List (String × Value)) (args : List Value)
    (named : List (String × Value)) :
    Refines (start call id name attributes args named) (start call' id name attributes args named) := by
  unfold start
  split
  · exact .bindAll _ fun _ => (h _ _ _).bind fun _ => .refl _
  · exact .refl _

/-- Entering a call does the same with calls that do, unless one of them nests too deep. -/
theorem refines_enter (f : Value) (args : List Value) (named : List (String × Value)) :
    Refines (enter call (fun _ => byPosition call) f args named)
      (enter call' (fun _ => byPosition call') f args named) := by
  have hposition : ∀ f args, Refines (byPosition call f args) (byPosition call' f args) := fun f args => h f args []
  unfold enter
  split
  · exact .bindAll _ fun _ => .bindAll _ fun _ => Body.refines_eval hposition _ _ _
  · exact Checked.refines_run _ _ _ (hposition _ _)
  · exact h _ _ _
  · exact Stock.refines_call hposition _ _ _
  · exact .refl _
  · exact refines_start h _ _ _ _ _
  · split
    · exact h _ _ _
    · exact .refl _
  · exact .refl _

end Value

theorem refines_invoke_succ (depth : Nat) (f : Value) (args : List Value) (named : List (String × Value)) :
    Refines (invoke depth f args named) (invoke (depth + 1) f args named) := by
  induction depth generalizing f args named with
  | zero => exact .exhausted _
  | succ depth ih => exact Value.refines_enter ih f args named

/-- A call that comes to an end with calls nested to some depth comes to the same end where they may nest
    deeper. -/
theorem refines_invoke {depth depth' : Nat} (h : depth ≤ depth') (f : Value) (args : List Value)
    (named : List (String × Value)) : Refines (invoke depth f args named) (invoke depth' f args named) := by
  induction h with
  | refl => exact .refl _
  | step _ ih => exact ih.trans (refines_invoke_succ _ f args named)

end CallGuard
