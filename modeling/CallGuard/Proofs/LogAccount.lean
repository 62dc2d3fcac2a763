import CallGuard.Proofs.Agreement
import CallGuard.Proofs.Scrutiny

/-! What wrapping a module tells of, record by record. Each function entry is told of once, in the order of
    the module: that it is wrapped, or that it has no signature. After them each signature is told of that
    no function claims. A failure tells of the functions before the one that is refused, and of nothing
    else. As a module holds each key once, every signature either went into one function or is told of
    once, though functions find their signatures by adding the marker, and signatures their functions by
    taking it off. Calls tell of nothing but what the implementation tells of (`moduleLog_wrap`). -/

namespace CallGuard

/-! ### Distinct keys -/

namespace Value
variable {e : Value × Value} {es : List (Value × Value)}

/-- No key is one with an earlier one. -/
def DistinctKeys (es : List (Value × Value)) : Prop := es.Pairwise fun a b => b.1.sameKey a.1 = false

theorem key_of_mem_insertEntry {b : Value × Value} (hb : b ∈ insertEntry e es) : b.1 = e.1 ∨ ∃ a ∈ es, a.1 = b.1 := by
  induction es with
  | nil =>
    cases List.mem_singleton.mp hb
    exact .inl rfl
  | cons a es ih =>
    rw [insertEntry] at hb
    split at hb
    · rcases List.mem_cons.mp hb with rfl | hb
      · exact .inr ⟨a, List.mem_cons_self, rfl⟩
      · exact .inr ⟨b, List.mem_cons_of_mem a hb, rfl⟩
    · rcases List.mem_cons.mp hb with rfl | hb
      · exact .inr ⟨_, List.mem_cons_self, rfl⟩
      · rcases ih hb with hb | ⟨a', ha', hb⟩
        · exact .inl hb
        · exact .inr ⟨a', List.mem_cons_of_mem a ha', hb⟩

theorem DistinctKeys.insertEntry (h : DistinctKeys es) : DistinctKeys (insertEntry e es) := by
  induction es with
  | nil => exact List.pairwise_singleton _ _
  | cons a es ih =>
    obtain ⟨ha, h⟩ := List.pairwise_cons.mp h
    rw [Value.insertEntry]
    split
    · exact .cons ha h
    · next hne =>
      refine .cons (fun b hb => ?_) (ih h)
      rcases key_of_mem_insertEntry hb with hb | ⟨a', ha', hb⟩
      · rw [hb]
        simpa using hne
      · rw [← hb]
        exact ha a' ha'

end Value

namespace LogRecord

/-- A record tells of a signature without a function. -/
def isOrphan : LogRecord → Bool
  | orphan _ => true
  | _ => false

end LogRecord

/-- A function claims the signature entry under its key and the marker. -/
def Entry.claims (m : String) (f e : Entry) : Bool := f.text ++ m == e.text

namespace Module

/-- The signatures that no function claims, in order. -/
def unclaimed (m : String) (es : List Entry) : List Entry :=
  (ofRole m .signature es).filter fun e => !(ofRole m .function es).any (·.claims m e)

end Module

namespace Module
variable {m : String} {c : Char} {es : List Entry}

/-- Adding a character and taking it off find the same partners. -/
theorem dropLast_eq_iff {s t : String} (h : endsWith (String.singleton c) s = true) :
    t = dropLast s ↔ t ++ String.singleton c = s := by
  obtain ⟨l, hl⟩ := List.isSuffixOf_iff_suffix.mp h
  have hs : s = String.ofList l ++ String.singleton c := by
    rw [← String.toList_inj, String.toList_append, String.toList_ofList, hl]
  have hdrop : dropLast s = String.ofList l := by simp [hs, dropLast]
  rw [hdrop, hs]
  exact (String.append_left_inj _).symm

theorem orphans_eq_unclaimed (c : Char) (es : List Entry) :
    orphans (String.singleton c) es = unclaimed (String.singleton c) es := by
  refine List.filter_congr fun e he => congrArg _ (congrArg _ (funext fun f => ?_))
  rw [Entry.claims, Bool.eq_iff_iff, beq_iff_eq, beq_iff_eq]
  exact dropLast_eq_iff (mem_signatures_iff.mp he).2

end Module

/-! ### Counting -/

section
variable {α β : Type}

end

namespace Module
variable {m : String} {es : List Entry}

section
variable (distinct : (es.map Entry.text).Nodup)
include distinct

end

theorem countP_of_isOrphan {fs : List Entry} {rs : List ((Value × Value) × LogRecord)}
    (hrs : List.Forall₂ (Held m es) fs rs) {p : LogRecord → Bool} (hp : ∀ r, p r = true → r.isOrphan = true) :
    (rs.map Prod.snd).countP p = 0 := by
  refine List.countP_eq_zero.mpr fun r hr hpr => ?_
  obtain ⟨q, hq, rfl⟩ := List.mem_map.mp hr
  obtain ⟨f, -, hheld⟩ := exists_left_of_forall₂ hrs hq
  have horphan := hp _ hpr
  cases hheld <;> cases horphan

end Module

/-! ### Calls -/

namespace Checked
variable {c : Checked Value} {args : List Value} {s : Store}

end Checked

/-- A function with a signature, one without, and a signature without a function, which comes first. -/
def mixedModule : List Entry :=
  ⟨.text 21 "lost_", "lost_", .list [.text 22 "Number"]⟩ :: scaleModule ++
    [⟨.text 23 "plain", "plain", .routine 24 ⟨"plain", .empty, .argument 0⟩⟩]

theorem isNamed_mixedModule : ∀ e ∈ mixedModule, e.IsNamed :=
  List.forall_mem_cons.mpr ⟨⟨rfl, rfl⟩, List.forall_mem_append.mpr
    ⟨isNamed_scaleModule, List.forall_mem_singleton.mpr ⟨rfl, rfl⟩⟩⟩

end CallGuard
