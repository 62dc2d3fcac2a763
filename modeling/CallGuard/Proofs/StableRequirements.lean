import CallGuard.Proofs.RequirementLines

/-! Requirements written back. Whatever is read of a text is made of lines that reading leaves as they are:
    they hold something, no line break and no blank at an end, and are neither comments nor options
    (`Settled`). A text of lines with a line feed between each two is read as these lines just if they are
    such (`ofText_intercalate_iff`). So what was read, written to a file and read again is the same
    (`read_writtenBack`). -/

namespace CallGuard.Package.Requirements

/-- A line that is a requirement as it stands. -/
structure Settled (l : List Char) : Prop where
  nonempty : l ≠ []
  head : ∀ c ∈ l.head?, Text.isBlank c = false
  last : ∀ c ∈ l.getLast?, Text.isBlank c = false
  unbroken : ∀ c ∈ l, Text.isLineBreak c = false
  noComment : l.head? ≠ some '#'
  noOption : l.head? ≠ some '-'

namespace Settled
variable {l : List Char}

theorem trimmed (h : Settled l) : Text.Trimmed l l := ⟨⟨[], [], by simp⟩, h.head, h.last⟩

theorem asks (h : Settled l) : Asks l := by
  obtain ⟨c, r, rfl⟩ := List.exists_cons_of_ne_nil h.nonempty
  exact ⟨c, r, rfl, fun hc => h.noComment (congrArg some hc), fun hc => h.noOption (congrArg some hc)⟩

end Settled

/-! ### What is read is settled -/

/-- Trimming a line leaves no character that was not in it, and so no line break. -/
theorem settled_of_trimmed {l k : List Char} (hl : ∀ c ∈ l, Text.isLineBreak c = false) (hk : Text.Trimmed l k)
    (hasks : Asks k) : Settled k := by
  obtain ⟨before, after, hparts, -, -⟩ := hk.parts
  have hsub : ∀ c ∈ k, c ∈ l := fun c hc => by
    rw [hparts]
    exact List.mem_append_left _ (List.mem_append_right _ hc)
  obtain ⟨c, r, rfl, hcomment, hoption⟩ := hasks
  exact ⟨List.cons_ne_nil c r, hk.head, hk.last, fun d hd => hl d (hsub d hd),
    fun h => hcomment (Option.some.inj h), fun h => hoption (Option.some.inj h)⟩

theorem settled_of_mem_ofText {cs l : List Char} (h : l ∈ ofText cs) : Settled l := by
  obtain ⟨k, hk, hl⟩ := exists_of_mem_ofText h
  exact settled_of_trimmed ((Text.broken_lines cs).unbroken k hk) (Text.trim_eq_iff.mp hl)
    (holds_iff.mp (holds_of_mem_ofText h))

/-! ### What is settled is read -/

theorem ofText_of_settled {l : List Char} (h : Settled l) : ofText l = [l] := by
  have hlines : Text.lines l = [l] := Text.lines_of_forall_not h.nonempty h.unbroken
  have htrim : Text.trim l = l := Text.trim_eq_iff.mpr h.trimmed
  have hholds : holds l = true := holds_iff.mpr h.asks
  rw [ofText, hlines, List.map_singleton, htrim, List.filter_cons_of_pos hholds, List.filter_nil]

/-- Lines with a line feed between each two are read as they are just if each is a requirement as it stands. -/
theorem ofText_intercalate_iff {ls : List (List Char)} :
    ofText (['\n'].intercalate ls) = ls ↔ ∀ l ∈ ls, Settled l := by
  constructor
  · intro h l hl
    rw [← h] at hl
    exact settled_of_mem_ofText hl
  · intro h
    induction ls with
    | nil => rfl
    | cons l ls ih =>
      obtain ⟨hl, hls⟩ := List.forall_mem_cons.mp h
      cases ls with
      | nil => rw [List.intercalate_singleton, ofText_of_settled hl]
      | cons k ls =>
        -- The first line feed is a seam, and what stands on either side is read by itself.
        rw [List.intercalate_cons_cons, List.append_assoc, List.singleton_append, ofText_append_newline,
          ofText_of_settled hl, ih hls, List.singleton_append]

theorem ofText_toList_intercalate {ks : List String} (h : ∀ k ∈ ks, Settled k.toList) :
    (ofText ("\n".intercalate ks).toList).map String.ofList = ks := by
  have hlines : ∀ l ∈ ks.map String.toList, Settled l := by
    intro l hl
    obtain ⟨k, hk, rfl⟩ := List.mem_map.mp hl
    exact h k hk
  have hfeed : ("\n" : String).toList = ['\n'] := rfl
  rw [String.toList_intercalate, hfeed, ofText_intercalate_iff.mpr hlines, List.map_map]
  simp [Function.comp_def]

/-- Whatever text a file holds, what is read of it are requirements as they stand, and a file of them, with a
    line feed between each two, is read as the same again. -/
theorem read_writtenBack {fs : Files} {p : Path} {t : String} (h : fs.Hold p t) :
    ∃ ks, read fs p = .ok ks ∧ (∀ k ∈ ks, Settled k.toList) ∧
      ∀ fs' p', Files.Hold fs' p' ("\n".intercalate ks) → read fs' p' = .ok ks := by
  have hsettled : ∀ k ∈ (ofText t.toList).map String.ofList, Settled k.toList := by
    intro k hk
    obtain ⟨l, hl, rfl⟩ := List.mem_map.mp hk
    rw [String.toList_ofList]
    exact settled_of_mem_ofText hl
  refine ⟨_, read_of_hold h, hsettled, fun fs' p' h' => ?_⟩
  rw [read_of_hold h', ofText_toList_intercalate hsettled]

/-- A text with separators of many kinds, inside of lines and at their ends. -/
def separated : String := "\x1c numpy >=1\u0085# a comment\u2028\u3000a-b#c \x0b-r other.txt\r\r\n\u00e9\u00a0\x1e"

theorem read_writtenBack_separated :
    let fs : Files := [(["in.txt"], .octets separated.toUTF8.data.toList),
      (["out.txt"], .octets "numpy >=1\na-b#c\n\u00e9".toUTF8.data.toList)]
    fs.Hold ["in.txt"] separated ∧ read fs ["in.txt"] = .ok ["numpy >=1", "a-b#c", "\u00e9"] ∧
      (∀ k ∈ ["numpy >=1", "a-b#c", "\u00e9"], Settled k.toList) ∧
      read fs ["out.txt"] = .ok ["numpy >=1", "a-b#c", "\u00e9"] := by
  intro fs
  have h : fs.Hold ["in.txt"] separated := rfl
  have hread : read fs ["in.txt"] = .ok ["numpy >=1", "a-b#c", "\u00e9"] := rfl
  obtain ⟨ks, hks, hsettled, hback⟩ := read_writtenBack h
  obtain rfl := Except.ok.inj (hread.symm.trans hks)
  exact ⟨h, hread, hsettled, hback fs ["out.txt"] rfl⟩

end CallGuard.Package.Requirements
