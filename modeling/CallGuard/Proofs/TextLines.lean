import CallGuard.Text.Lines
import Mathlib.Data.List.TakeWhile

/-! Lines and trimmed texts by rules that do not say how they are found: a text is its lines, each with
    what ends it (`lines_eq_iff`), and a trimmed text is what stands between the blanks at both ends
    (`trim_eq_iff`). A line feed between two texts puts the lines of the second behind those of the
    first, with an empty line between them unless it ends a line (`lines_append_newline`). -/

namespace CallGuard.Text

/-- The lines of a text, each with what ends it: a carriage return with the line feed behind it, or one
    line break. The last line may end with the text, but is not empty then. -/
inductive Broken : List Char → List (List Char) → Prop
  | nil : Broken [] []
  | last {l : List Char} (hne : l ≠ []) (hl : ∀ c ∈ l, isLineBreak c = false) : Broken l [l]
  | pair {l cs : List Char} {ls : List (List Char)} (hl : ∀ c ∈ l, isLineBreak c = false)
      (h : Broken cs ls) : Broken (l ++ '\r' :: '\n' :: cs) (l :: ls)
  | single {l cs : List Char} {ls : List (List Char)} {c : Char} (hl : ∀ c ∈ l, isLineBreak c = false)
      (hc : isLineBreak c = true) (hpair : c = '\r' → cs.head? ≠ some '\n') (h : Broken cs ls) :
      Broken (l ++ c :: cs) (l :: ls)

/-- What is left of a text without the blanks at its ends: empty, or with no blank first or last. -/
structure Trimmed (l k : List Char) : Prop where
  parts : ∃ before after, l = before ++ k ++ after ∧ (∀ c ∈ before, isBlank c = true) ∧
    ∀ c ∈ after, isBlank c = true
  head : ∀ c ∈ k.head?, isBlank c = false
  last : ∀ c ∈ k.getLast?, isBlank c = false

/-! ### Lines -/

theorem lines_break {c : Char} {cs : List Char} (hc : isLineBreak c = true)
    (hpair : c = '\r' → cs.head? ≠ some '\n') : lines (c :: cs) = [] :: lines cs := by
  rw [lines]
  · rw [if_pos hc]
  · rintro cs rfl rfl
    exact hpair rfl rfl

theorem ne_return_of_not_isLineBreak {c : Char} (h : isLineBreak c = false) : c ≠ '\r' := by
  rintro rfl
  exact Bool.noConfusion h

/-- A character that is no line break stands in front of the first line. -/
theorem lines_cons {c : Char} {cs : List Char} (h : isLineBreak c = false) :
    lines (c :: cs) = (c :: (lines cs).headD []) :: (lines cs).tail := by
  rw [lines]
  · rw [if_neg (by simp [h])]
    cases lines cs <;> rfl
  · rintro _ rfl
    exact absurd rfl (ne_return_of_not_isLineBreak h)

theorem lines_of_forall_not {l : List Char} (hne : l ≠ []) (hl : ∀ c ∈ l, isLineBreak c = false) :
    lines l = [l] := by
  induction l with
  | nil => exact absurd rfl hne
  | cons c l ih =>
    rw [lines_cons (hl c List.mem_cons_self)]
    cases l with
    | nil => rfl
    | cons d l => rw [ih (List.cons_ne_nil _ _) fun x hx => hl x (List.mem_cons_of_mem _ hx)]; rfl

/-- What ends the first line decides where it ends. -/
theorem lines_append_of_forall_not {l cs : List Char} {ls : List (List Char)}
    (hl : ∀ c ∈ l, isLineBreak c = false) (h : lines cs = [] :: ls) : lines (l ++ cs) = l :: ls := by
  induction l with
  | nil => exact h
  | cons c l ih =>
    rw [List.cons_append, lines_cons (hl c List.mem_cons_self),
      ih fun x hx => hl x (List.mem_cons_of_mem _ hx)]
    rfl

theorem lines_of_broken {cs : List Char} {ls : List (List Char)} (h : Broken cs ls) : lines cs = ls := by
  induction h with
  | nil => rfl
  | last hne hl => exact lines_of_forall_not hne hl
  | pair hl _ ih => exact lines_append_of_forall_not hl (by rw [lines, ih])
  | single hl hc hpair _ ih => exact lines_append_of_forall_not hl (by rw [lines_break hc hpair, ih])

/-- A character that is no line break joins the first line, whatever ends that. -/
theorem Broken.cons {c : Char} {cs l : List Char} {ls : List (List Char)} (hc : isLineBreak c = false)
    (h : Broken cs (l :: ls)) : Broken (c :: cs) ((c :: l) :: ls) := by
  have hcons {l : List Char} (hl : ∀ x ∈ l, isLineBreak x = false) : ∀ x ∈ c :: l, isLineBreak x = false :=
    List.forall_mem_cons.mpr ⟨hc, hl⟩
  cases h with
  | last _ hl => exact .last (List.cons_ne_nil _ _) (hcons hl)
  | pair hl h => exact .pair (hcons hl) h
  | single hl hb hpair h => exact .single (hcons hl) hb hpair h

theorem broken_lines (cs : List Char) : Broken cs (lines cs) := by
  fun_induction lines cs with
  | case1 => exact .nil
  | case2 cs ih => exact .pair (l := []) (by simp) ih
  | case3 c cs hpair hc ih =>
    refine .single (l := []) (by simp) hc ?_ ih
    rintro rfl hhead
    obtain ⟨ds, rfl⟩ := List.head?_eq_some_iff.mp hhead
    exact hpair ds rfl rfl
  | case4 c cs hpair hc hnil ih =>
    have hcs : cs = [] := by
      rw [hnil] at ih
      cases ih with
      | nil => rfl
    subst hcs
    exact .last (List.cons_ne_nil _ _) (by simpa using hc)
  | case5 c cs hpair hc l ls hcons ih =>
    rw [hcons] at ih
    exact ih.cons (by simpa using hc)

/-- The lines of a text are the only ones that the text can be broken into. -/
theorem lines_eq_iff {cs : List Char} {ls : List (List Char)} : lines cs = ls ↔ Broken cs ls :=
  ⟨fun h => h ▸ broken_lines cs, lines_of_broken⟩

/-- No line break is left in a line. -/
theorem Broken.unbroken {cs : List Char} {ls : List (List Char)} (h : Broken cs ls) :
    ∀ l ∈ ls, ∀ c ∈ l, isLineBreak c = false := by
  induction h with
  | nil => exact List.forall_mem_nil _
  | last _ hl => exact List.forall_mem_singleton.mpr hl
  | pair hl _ ih => exact List.forall_mem_cons.mpr ⟨hl, ih⟩
  | single hl _ _ _ ih => exact List.forall_mem_cons.mpr ⟨hl, ih⟩

/-- A line feed between two texts: one that ends the last line of the first, or the return at its end,
    adds no line; behind any other line break it ends an empty one. -/
theorem Broken.append_newline {cs ds : List Char} {ls ms : List (List Char)} (h : Broken cs ls)
    (hd : Broken ds ms) :
    Broken (cs ++ '\n' :: ds) (ls ++ ms) ∨ Broken (cs ++ '\n' :: ds) (ls ++ [] :: ms) := by
  have feed {l : List Char} (hl : ∀ c ∈ l, isLineBreak c = false) : Broken (l ++ '\n' :: ds) (l :: ms) :=
    .single hl rfl (fun h => absurd h (by decide)) hd
  induction h with
  | nil => exact .inr (feed (l := []) (by simp))
  | last _ hl => exact .inl (feed hl)
  | @pair l cs ls hl _ ih =>
    have hassoc : l ++ '\r' :: '\n' :: cs ++ '\n' :: ds = l ++ '\r' :: '\n' :: (cs ++ '\n' :: ds) := by simp
    rw [hassoc]
    exact ih.imp (.pair hl) (.pair hl)
  | @single l cs ls c hl hc hpair h ih =>
    have hassoc : l ++ c :: cs ++ '\n' :: ds = l ++ c :: (cs ++ '\n' :: ds) := by simp
    rw [hassoc]
    -- a return at the end of the first text makes a pair with the line feed
    by_cases hseam : c = '\r' ∧ cs = []
    · obtain ⟨rfl, rfl⟩ := hseam
      obtain rfl : ls = [] := (lines_of_broken h).symm
      exact .inl (.pair hl hd)
    · have hpair' : c = '\r' → (cs ++ '\n' :: ds).head? ≠ some '\n' := fun hr => by
        obtain ⟨x, xs, rfl⟩ := List.exists_cons_of_ne_nil fun hcs => hseam ⟨hr, hcs⟩
        exact hpair hr
      exact ih.imp (.single hl hc hpair') (.single hl hc hpair')

theorem lines_append_newline (cs ds : List Char) :
    lines (cs ++ '\n' :: ds) = lines cs ++ lines ds ∨
      lines (cs ++ '\n' :: ds) = lines cs ++ [] :: lines ds :=
  ((broken_lines cs).append_newline (broken_lines ds)).imp lines_of_broken lines_of_broken

/-- Line ends may be made line feeds before the lines are taken. -/
theorem lines_unifyBreaks (cs : List Char) : lines (unifyBreaks cs) = lines cs := by
  have feed (ds : List Char) : lines ('\n' :: ds) = [] :: lines ds :=
    lines_break rfl fun h => absurd h (by decide)
  fun_induction unifyBreaks cs with
  | case1 => rfl
  | case2 cs ih => rw [feed, ih, lines]
  | case3 cs hpair ih =>
    rw [feed, ih, lines_break rfl]
    intro _ hhead
    obtain ⟨ds, rfl⟩ := List.head?_eq_some_iff.mp hhead
    exact hpair ds rfl
  | case4 c cs hpair hne ih =>
    by_cases hc : isLineBreak c = true
    · rw [lines_break hc fun h => absurd h hne, lines_break hc fun h => absurd h hne, ih]
    · rw [lines_cons (by simpa using hc), lines_cons (by simpa using hc), ih]

/-! ### Trimming -/

theorem not_isBlank_of_head?_dropWhile {l : List Char} :
    ∀ c ∈ (l.dropWhile isBlank).head?, isBlank c = false := by
  intro c hc
  have h := List.head?_dropWhile_not isBlank l
  rw [hc] at h
  exact h

theorem dropWhile_eq_self {l : List Char} (h : ∀ c ∈ l.head?, isBlank c = false) : l.dropWhile isBlank = l := by
  cases l with
  | nil => rfl
  | cons c l => rw [List.dropWhile_cons_of_neg (by simp [h c rfl])]

theorem trimmed_trim (l : List Char) : Trimmed l (trim l) := by
  have hl : l = l.takeWhile isBlank ++ l.dropWhile isBlank := List.takeWhile_append_dropWhile.symm
  have hk : l.dropWhile isBlank = trim l ++ ((l.dropWhile isBlank).reverse.takeWhile isBlank).reverse := by
    rw [trim, ← List.reverse_append, List.takeWhile_append_dropWhile, List.reverse_reverse]
  refine ⟨⟨_, _, by rw [List.append_assoc, ← hk]; exact hl, fun c hc => List.mem_takeWhile_imp hc,
    fun c hc => List.mem_takeWhile_imp (List.mem_reverse.mp hc)⟩, ?_, ?_⟩
  · intro c hc
    apply not_isBlank_of_head?_dropWhile (l := l) c
    rw [hk, List.head?_append, hc]
    rfl
  · intro c hc
    rw [trim, List.getLast?_reverse] at hc
    exact not_isBlank_of_head?_dropWhile c hc

theorem trim_of_trimmed {l k : List Char} (h : Trimmed l k) : trim l = k := by
  obtain ⟨⟨before, after, rfl, hbefore, hafter⟩, hhead, hlast⟩ := h
  have hafter' : ∀ c ∈ after.reverse, isBlank c = true := fun c hc => hafter c (List.mem_reverse.mp hc)
  rw [trim, List.append_assoc, List.dropWhile_append_of_pos hbefore]
  cases k with
  | nil =>
    rw [List.nil_append, List.dropWhile_eq_nil_iff.mpr hafter]
    rfl
  | cons c k =>
    rw [dropWhile_eq_self (l := c :: k ++ after) hhead, List.reverse_append,
      List.dropWhile_append_of_pos hafter', dropWhile_eq_self (by rwa [List.head?_reverse]), List.reverse_reverse]

/-- What a text is trimmed to is the only text without blanks at its ends that it can be trimmed to. -/
theorem trim_eq_iff {l k : List Char} : trim l = k ↔ Trimmed l k :=
  ⟨fun h => h ▸ trimmed_trim l, trim_of_trimmed⟩

end CallGuard.Text
