import CallGuard.Proofs.Parts

/-! What is derived from values. Where a property of values is handed on between values and their parts, it is
    handed on to the items under a key, to what comes of reckoning with values, to what is made of them by
    their bases, and to the parameters that arguments are bound to. -/

namespace CallGuard

namespace Bearing

instance : Bearing Strand :=
  ⟨fun p s => ∀ kind vs, s = .items kind vs → Bears p vs, fun _ _ _ _ => all_true _,
    fun _ _ h _ hs kind vs hvs => (hs kind vs hvs).mono h⟩

end Bearing

/-! ### What has no need of heredity -/

namespace Bears
variable {good : Value → Prop} {vs : List Value} {es : List (Value × Value)} {as : List (String × Value)}

theorem lookUp? (hes : Bears good es) (key : Value) : Bears good (Value.lookUp? key es) := by
  induction es with
  | nil => nofun
  | cons e es ih =>
    obtain ⟨he, hes⟩ := List.forall_mem_cons.mp hes
    unfold Value.lookUp?
    split
    · rintro _ ⟨⟩
      exact he.2
    · exact ih hes

theorem itemOfRow (kind : RowKind) (hvs : Bears good vs) (key : Value) : Bears good (Value.itemOfRow kind vs key) := by
  refine bindExcept fun n _ => ?_
  dsimp only
  split
  · split
    · next u hu =>
      rintro _ ⟨⟩
      obtain ⟨place, -, hplace⟩ := Option.bind_eq_some_iff.mp hu
      exact hvs u (List.mem_of_getElem? hplace)
    · nofun
  · nofun

theorem itemOfMapping (hes : Bears good es) (key : Value) : Bears good (Value.itemOfMapping es key) := by
  unfold Value.itemOfMapping
  split
  · nofun
  · next u _ hu =>
    rintro _ ⟨⟩
    exact lookUp? hes key u hu
  · nofun

theorem strandOfText (s : String) : Bears good (Strand.text s) := nofun

theorem strandOfOctets (mutable : Bool) (bs : List UInt8) : Bears good (Strand.octets mutable bs) := nofun

theorem strandOfItems {kind : SequenceKind} (hvs : Bears good vs) : Bears good (Strand.items kind vs) := by
  rintro _ _ ⟨⟩
  exact hvs

theorem strandOfText? (v : Value) : Bears good (v.text?.map Strand.text) := by
  intro s hs
  obtain ⟨t, -, rfl⟩ := Option.map_eq_some_iff.mp hs
  exact strandOfText t

theorem repeatStrand {s : Strand} (hs : Bears good s) (n : Value) : Bears good (Value.repeatStrand s n) := by
  unfold Value.repeatStrand Strand.repeated
  split
  · split
    · nofun
    · split
      · nofun
      · split
        · nofun
        · split
          · exact of_ok hs
          · refine of_ok ?_
            cases s with
            | text s => exact strandOfText _
            | octets mutable bs => exact strandOfOctets _ _
            | items kind vs =>
              refine strandOfItems fun u hu => ?_
              obtain ⟨us, hus, hu⟩ := List.mem_flatten.mp hu
              rw [List.eq_of_mem_replicate hus] at hu
              exact hs kind vs rfl u hu
  · nofun

theorem insertEntry {e : Value × Value} (he : Bears good e) (hes : Bears good es) :
    Bears good (Value.insertEntry e es) := by
  induction es with
  | nil => exact List.forall_mem_singleton.mpr he
  | cons a es ih =>
    obtain ⟨ha, hes⟩ := List.forall_mem_cons.mp hes
    unfold Value.insertEntry
    split
    · exact List.forall_mem_cons.mpr ⟨⟨ha.1, he.2⟩, hes⟩
    · exact List.forall_mem_cons.mpr ⟨ha, ih hes⟩

theorem gatherEntries (hes : Bears good es) : Bears good (Value.gatherEntries es) := by
  suffices ∀ acc, Bears good acc → Bears good (es.foldl (fun acc e => Value.insertEntry e acc) acc) from this [] .nil
  induction es with
  | nil => exact fun acc hacc => hacc
  | cons e es ih =>
    obtain ⟨he, hes⟩ := List.forall_mem_cons.mp hes
    exact fun acc hacc => ih hes _ (insertEntry he hacc)

theorem bindNamed {p : Parameters} {taken : List String} (has : Bears good as) : Bears good (p.bindNamed taken as) := by
  induction as with
  | nil => exact of_ok .nil
  | cons a as ih =>
    obtain ⟨ha, has⟩ := List.forall_mem_cons.mp has
    unfold Parameters.bindNamed
    split
    · nofun
    · split
      · exact mapExcept (ih has) fun rest hrest => List.forall_mem_cons.mpr ⟨ha, hrest⟩
      · nofun

theorem bindArguments {p : Parameters} (hvs : Bears good vs) (has : Bears good as) : Bears good (p.bind vs as) := by
  have hbound {byName : List (String × Value)} (hbyName : Bears good byName) :
      Bears good (p.positional.zip vs ++ byName) :=
    List.forall_mem_append.mpr ⟨fun e he => ⟨trivial, hvs e.2 (List.of_mem_zip he).2⟩, hbyName⟩
  refine bindExcept fun byName hbyName => ?_
  have hbyName := bindNamed has byName hbyName
  dsimp only
  split
  · nofun
  · split
    · exact of_ok (hbound hbyName)
    · nofun

end Bears

namespace Hereditary
variable {good : Value → Prop} (h : Hereditary good) {v w : Value} {vs : List Value} {es : List (Value × Value)}
  {as : List (String × Value)}
include h

/-! ### Items by key -/

theorem itemOfRange (start stop step : Int) (key : Value) : Bears good (Value.itemOfRange start stop step key) := by
  refine Bears.bindExcept fun n _ => ?_
  split
  · rintro _ ⟨⟩
    exact h.ofInt _
  · nofun

theorem itemOfArray (g : Grid) (key : Value) : Bears good (Value.itemOfArray g key) := by
  unfold Value.itemOfArray
  split
  · nofun
  · split
    · rintro _ ⟨⟩
      exact h.ofScalar _
    · nofun

theorem itemOfStock? (s : Stock) (key : Value) : Bears good (Value.itemOfStock? s key) := by
  unfold Value.itemOfStock?
  split
  · rintro _ ⟨⟩
    refine Bears.itemOfMapping (fun e he => ?_) key
    obtain ⟨t, -, rfl⟩ := List.mem_map.mp he
    exact ⟨h.ofString _, h.ofTag _⟩
  · split
    · rintro _ ⟨⟩
      nofun
    · split
      · rintro _ ⟨⟩
        exact Bears.itemOfRow _ (Bears.mapList h.ofInt _) key
      · rintro _ ⟨⟩
        exact Bears.itemOfRow _ (h.characters _) key
      · split <;> rintro _ ⟨⟩
        · nofun
        · split
          · rintro _ ⟨⟩
            exact h.ofInt 0
          · nofun
      · nofun

theorem coreItem? (hv : good v) (key : Value) : Bears good (Value.coreItem? key v) := by
  unfold Value.coreItem?
  split <;> try (rintro _ ⟨⟩)
  · exact Bears.itemOfRow _ (h.characters _) key
  · exact Bears.itemOfRow _ (h.characters _) key
  · exact Bears.itemOfRow _ (h.wrappedCharacters _) key
  · exact Bears.itemOfRow _ (h.octetNumbers _) key
  · exact h.itemOfRange _ _ _ key
  · exact Bears.itemOfRow _ (fun _ hu => h.part hv hu) key
  · exact Bears.itemOfMapping (h.entries hv) key
  · exact Bears.itemOfRow _ (h.characters _) key
  · exact Bears.itemOfRow _ (h.octetNumbers _) key
  · nofun
  · exact h.itemOfArray _ key
  · exact h.itemOfStock? _ key
  · nofun

theorem item (hv : good v) (key : Value) : Bears good (v.item key) := by
  have found {o : Option (Except ItemFault Value)} (ho : Bears good o) :
      Bears good (o.getD (.error (.noItems v.fullTypeName))) := Bears.getD ho nofun
  unfold Value.item
  split
  · next us =>
    refine found ?_
    rintro _ ⟨⟩
    refine Bears.itemOfRow _ (fun u hu => h.part hv ?_) key
    simp [Value.components, hu]
  · next content =>
    refine found ?_
    intro x hx
    obtain ⟨u, rfl, hu⟩ := Option.bind_eq_some_iff.mp hx
    exact h.coreItem? (h.part hv (by simp [Value.components])) key x hu
  · exact found (h.coreItem? hv key)

/-! ### Operands -/

theorem quantity (q : Quantity) : good q.toValue := by
  cases q <;> exact h.atom rfl

theorem strandToValue {s : Strand} (hs : Bears good s) : good s.toValue := by
  cases s with
  | text s => exact h.ofString s
  | octets mutable bs => exact h.atom rfl
  | items kind vs => exact h.sequence (hs kind vs rfl)

theorem strandToWrapped {s : Strand} (hs : Bears good s) : good s.toWrapped := by
  cases s with
  | text s => exact h.atom rfl
  | octets mutable bs => exact h.atom rfl
  | items kind vs => exact h.sequence (hs kind vs rfl)

theorem strand? (hv : good v) : Bears good v.strand? := by
  have hcore := h.core hv
  unfold Value.strand?
  split
  · exact Bears.of_some (Bears.strandOfOctets _ _)
  · exact Bears.of_some (Bears.strandOfOctets _ _)
  · nofun
  · next heq =>
    rw [heq] at hcore
    exact Bears.of_some (Bears.strandOfItems fun u hu => h.part hcore hu)
  · split
    · exact Bears.of_some (Bears.strandOfItems (Bears.mapList h.ofInt _))
    · exact Bears.strandOfText? v
  · exact Bears.strandOfText? v

theorem wrappedStrand? (hv : good v) : Bears good v.wrappedStrand? := by
  unfold Value.wrappedStrand?
  split
  · exact Bears.of_some (Bears.strandOfText _)
  · exact Bears.of_some (Bears.strandOfItems fun u hu => h.part hv hu)
  · nofun

theorem listed (hv : good v) : Bears good v.listed := by
  unfold Value.listed
  split
  · next us hus =>
    rintro _ ⟨⟩
    exact h.items? hv us hus
  · nofun

theorem joinStrand {s : Strand} (hs : Bears good s) (hw : good w) : Bears good (Value.joinStrand v s w) := by
  have hother := h.strand? hw
  unfold Value.joinStrand
  split
  · exact Bears.of_ok (Bears.strandOfText _)
  · nofun
  · exact Bears.of_ok (Bears.strandOfOctets _ _)
  · nofun
  · next heq =>
    split
    · refine Bears.of_ok (Bears.strandOfItems (List.forall_mem_append.mpr ⟨hs _ _ rfl, ?_⟩))
      exact hother _ heq _ _ rfl
    · nofun
  · nofun

theorem join (hv : good v) (hw : good w) : Bears good (v.join w) := by
  have hvs := h.wrappedStrand? hv
  have hws := h.wrappedStrand? hw
  unfold Value.join
  split
  · exact Bears.of_ok (h.atom rfl)
  · next heq =>
    refine Bears.bindExcept fun us hus => Bears.of_ok (h.sequence ?_)
    exact List.forall_mem_append.mpr ⟨hvs _ heq _ _ rfl, h.listed hw us hus⟩
  · exact Bears.of_ok (h.atom rfl)
  · next heq _ _ =>
    refine Bears.bindExcept fun us hus => Bears.of_ok (h.sequence ?_)
    exact List.forall_mem_append.mpr ⟨h.listed hv us hus, hws _ heq _ _ rfl⟩
  · split
    · next s hs => exact Bears.mapExcept (h.joinStrand (h.strand? hv s hs) hw) fun _ => h.strandToValue
    · nofun

theorem repetition (hv : good v) (hw : good w) : Bears good (v.repetition w) := by
  have hvalue {s : Strand} (hs : Bears good s) (n : Value) : Bears good ((Value.repeatStrand s n).map Strand.toValue) :=
    Bears.mapExcept (Bears.repeatStrand hs n) fun _ => h.strandToValue
  have hwrapped {s : Strand} (hs : Bears good s) (n : Value) :
      Bears good ((Value.repeatStrand s n).map Strand.toWrapped) :=
    Bears.mapExcept (Bears.repeatStrand hs n) fun _ => h.strandToWrapped
  unfold Value.repetition
  split
  · nofun
  · next heq _ => exact hwrapped (h.wrappedStrand? hv _ heq) w
  · next _ heq => exact hwrapped (h.wrappedStrand? hw _ heq) v
  · split
    · next heq => exact hvalue (h.strand? hv _ heq) w
    · next _ heq => exact hvalue (h.strand? hw _ heq) v
    · nofun

theorem difference? (hv : good v) (w : Value) : Bears good (v.difference? w) := by
  have hcore := h.core hv
  unfold Value.difference?
  split
  · next heq _ =>
    rw [heq] at hcore
    exact Bears.of_some (h.set fun u hu => h.part hcore (List.mem_filter.mp hu).1)
  · nofun

theorem operate (op : Arithmetic) (hv : good v) (hw : good w) : Bears good (v.operate op w) := by
  unfold Value.operate
  dsimp only
  split
  · split
    · exact Bears.mapExcept (fun q _ => trivial) fun q _ => h.quantity q
    · nofun
  · split
    · exact h.join hv hw
    · exact h.repetition hv hw
    · exact Bears.elim (h.difference? hv w) _

theorem magnitude (v : Value) : Bears good v.magnitude := by
  unfold Value.magnitude
  split
  · exact Bears.mapExcept (fun q _ => trivial) fun q _ => h.quantity q
  · exact Bears.elim (Bears.mapOption (fun _ _ => trivial) fun s _ => h.ofScalar s) _
  · nofun

/-! ### Making values of values -/

theorem gatherMembers (hvs : Bears good vs) : Bears good (Value.gatherMembers vs) := by
  have hpairs : Bears good (vs.map fun v => (v, Value.null)) := by
    intro p hp
    obtain ⟨v, hv, rfl⟩ := List.mem_map.mp hp
    exact ⟨hvs v hv, h.null⟩
  intro v hv
  obtain ⟨p, hp, rfl⟩ := List.mem_map.mp hv
  exact (Bears.gatherEntries hpairs p hp).1

theorem hold (b : Base) (hv : good v) : Bears good (b.hold v) := by
  have hheld {α : Type} {o : Option α} {f : α → Value} (hf : ∀ a ∈ o, good (f a)) : good (o.elim v f) := by
    cases o with
    | none => exact hv
    | some a => exact hf a rfl
  have hrow {make : List Value → Value} (hmake : ∀ vs, Bears good vs → good (make vs)) : good (Base.row make v) :=
    hheld fun vs hvs => hmake vs (h.items? hv vs hvs)
  unfold Base.hold
  split
  · exact Bears.mapExcept (fun n _ => trivial) fun n _ => h.ofInt n
  · exact Bears.of_ok (hheld fun _ _ => h.atom rfl)
  · exact Bears.of_ok (hheld fun _ _ => h.atom rfl)
  · exact Bears.of_ok (hheld fun _ _ => h.atom rfl)
  · exact Bears.of_ok (hheld fun _ _ => h.atom rfl)
  · exact Bears.of_ok (hheld fun _ _ => h.atom rfl)
  · exact Bears.of_ok (hheld fun _ _ => h.atom rfl)
  · exact Bears.of_ok (h.ofString _)
  · exact Bears.of_ok (hrow fun _ hvs => h.sequence hvs)
  · exact Bears.of_ok (hrow fun _ hvs => h.sequence hvs)
  · exact Bears.of_ok (hrow fun _ hvs => h.set (h.gatherMembers hvs))
  · exact Bears.of_ok hv

theorem emptyOf (b : Base) : Bears good b.empty? := by
  cases b with
  | object => nofun
  | _ => exact Bears.of_some (h.atom rfl)

/-! ### Arguments -/

theorem runAnnotated (f : Annotated) (has : Bears good as) : Bears good (f.run as) := by
  cases f with
  | repeated =>
    exact h.operate _ (Bears.getD (Bears.lookup has "b") (h.ofString _)) (Bears.getD (Bears.lookup has "a") (h.ofInt _))
  | toInteger => exact Bears.of_ok (Bears.getD (Bears.lookup has "x") h.null)
  | plain => exact Bears.of_ok (Bears.getD (Bears.lookup has "y") h.null)

theorem callAnnotated (f : Annotated) (hvs : Bears good vs) (has : Bears good as) : Bears good (f.call vs as) := by
  unfold Annotated.call
  split
  · refine Bears.bindExcept fun bound hbound => Bears.bindExcept fun result hresult => ?_
    have hbound := Bears.mapError (Bears.bindArguments hvs has) _ bound hbound
    have hresult := Bears.mapError (h.runAnnotated f hbound) _ result hresult
    split
    · exact Bears.of_ok hresult
    · nofun
  · nofun

end Hereditary
end CallGuard
