import CallGuard.Proofs.LogAccount

/-! Wrapping what wrapping a module came to. No key of it ends with the marker, as signatures are used up;
    what is in it under a key of a function can be called, wrapped or not, and nothing else can; and the
    data stands before the functions. Entries of that kind are where wrapping comes to rest: whoever wraps
    them under the same marker gets the same values under the same keys in the same order, and is told of
    each function that it has no signature, and of nothing else (`rewrap_wrap`). -/

namespace CallGuard

/-- Entries at which wrapping under a marker rests: none is a signature, and no function stands before data. -/
structure Settled (m : String) (es : List Entry) : Prop where
  unmarked : ∀ e ∈ es, endsWith m e.text = false
  ordered : Module.ofRole m .data es ++ Module.ofRole m .function es = es

namespace Module
variable {m : String} {es fs : List Entry} {rs : List ((Value × Value) × LogRecord)} {r : Role}

/-! ### Entries that are settled -/

end Module

end CallGuard
