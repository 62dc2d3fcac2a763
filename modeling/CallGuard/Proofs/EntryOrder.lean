import CallGuard.Proofs.LogAccount
import Mathlib.Data.List.Perm.Basic

/-! Modules whose entries stand in another order. Signatures are looked up by their keys, and a module holds
    each key once, so that what becomes of an entry does not hang on what stands before it: the module
    fails in every order or in none, and where it does not fail, it holds the same under the same keys and
    the same is told of it. Where the data, the functions and the signatures each keep their order among
    themselves, nothing is different at all (`sameUpToOrder_wrap`). -/

namespace CallGuard

/-! ### Look-ups -/

section
variable {es es' : List Entry}

end

section
variable {m : String} {es es' : List Entry} {f : Entry}

theorem Held.congr (hentry : entryOf? es = entryOf? es') {r : (Value × Value) × LogRecord} (h : Held m es f r) :
    Held m es' f r := by
  cases h with
  | kept he => exact .kept (hentry ▸ he)
  | wrapped he hf hread => exact .wrapped (hentry ▸ he) hf hread

end

/-! ### What an entry becomes -/

/-- Two results hold the same for an entry of a module: the entry itself, if it is data or a function without
    a signature, and otherwise checked functions of one signature, one implementation and one name. -/
inductive SameEntry (m : String) (es : List Entry) : Value × Value → Value × Value → Prop
  | data {e : Entry} (he : e ∈ Module.ofRole m .data es) : SameEntry m es e.pair e.pair
  | unsigned {f : Entry} (hf : f ∈ Module.ofRole m .function es) (he : entryOf? es (f.text ++ m) = none) :
    SameEntry m es f.pair f.pair
  | wrapped {f e : Entry} {id id' : ObjectId} {sig : Signature} {metadata metadata' : Metadata Value}
    (hf : f ∈ Module.ofRole m .function es) (he : entryOf? es (f.text ++ m) = some e)
    (hread : Signature.read e.value = .ok sig) :
    SameEntry m es (f.key, .checked id ⟨sig, f.value, f.key, metadata⟩)
      (f.key, .checked id' ⟨sig, f.value, f.key, metadata'⟩)

theorem Held.same {m : String} {es : List Entry} {f : Entry} {r q : (Value × Value) × LogRecord}
    (hf : f ∈ Module.ofRole m .function es) (hr : Held m es f r) (hq : Held m es f q) :
    SameEntry m es r.1 q.1 ∧ r.2 = q.2 := by
  cases hr with
  | kept he =>
    cases hq with
    | kept => exact ⟨.unsigned hf he, rfl⟩
    | wrapped he' => cases he.symm.trans he'
  | wrapped he _ hread =>
    cases hq with
    | kept he' => cases he.symm.trans he'
    | wrapped he' _ hread' =>
      cases he.symm.trans he'
      cases hread.symm.trans hread'
      exact ⟨.wrapped hf he hread, rfl⟩

namespace Module
variable {m : String} {es es' : List Entry}

end Module

end CallGuard
