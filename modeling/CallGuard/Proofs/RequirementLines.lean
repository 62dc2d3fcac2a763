import CallGuard.Package.Requirements
import CallGuard.Proofs.Encoding
import CallGuard.Proofs.TextLines

/-! What a file of requirements asks for, by rules: its text is broken into lines, each line is trimmed,
    and those that are then empty, a comment or an option are left out (`Required`). Reading finds
    exactly that, and reads a text line by line: what stands before a line feed and what stands behind
    it are read each by itself (`read_append`). -/

namespace CallGuard.Package

/-- A path leads to a file with the octets of a text. -/
def Files.Hold (fs : Files) (p : Path) (t : String) : Prop := fs.octets? p = some t.toUTF8.data.toList

namespace Requirements

/-- A trimmed line asks for something: it is not empty, and neither a comment nor an option. -/
def Asks (k : List Char) : Prop := ∃ c r, k = c :: r ∧ c ≠ '#' ∧ c ≠ '-'

/-- The trimmed forms of the lines that ask for something, in order. -/
inductive Asked : List (List Char) → List (List Char) → Prop
  | nil : Asked [] []
  | idle {l k : List Char} {ls ks : List (List Char)} (hk : Text.Trimmed l k) (hidle : ¬ Asks k)
      (h : Asked ls ks) : Asked (l :: ls) ks
  | kept {l k : List Char} {ls ks : List (List Char)} (hk : Text.Trimmed l k) (hasks : Asks k)
      (h : Asked ls ks) : Asked (l :: ls) (k :: ks)

/-- What a text requires. -/
def Required (t : String) (ks : List String) : Prop :=
  ∃ ls, Text.Broken t.toList ls ∧ Asked ls (ks.map String.toList)

theorem holds_iff {k : List Char} : holds k = true ↔ Asks k := by
  cases k with
  | nil => simp [holds, Asks]
  | cons c r => simp [holds, Asks]

/-! ### What a text requires -/

theorem asked_iff {ls ks : List (List Char)} : Asked ls ks ↔ (ls.map Text.trim).filter holds = ks := by
  constructor
  · intro h
    induction h with
    | nil => rfl
    | idle hk hidle _ ih =>
      rw [List.map_cons, Text.trim_eq_iff.mpr hk, List.filter_cons_of_neg (mt holds_iff.mp hidle), ih]
    | kept hk hasks _ ih =>
      rw [List.map_cons, Text.trim_eq_iff.mpr hk, List.filter_cons_of_pos (holds_iff.mpr hasks), ih]
  · rintro rfl
    induction ls with
    | nil => exact .nil
    | cons l ls ih =>
      rw [List.map_cons]
      by_cases h : holds (Text.trim l) = true
      · rw [List.filter_cons_of_pos h]
        exact .kept (Text.trim_eq_iff.mp rfl) (holds_iff.mp h) ih
      · rw [List.filter_cons_of_neg h]
        exact .idle (Text.trim_eq_iff.mp rfl) (mt holds_iff.mpr h) ih

theorem required_iff {t : String} {ks : List String} :
    Required t ks ↔ ks = (ofText t.toList).map String.ofList := by
  have hlists : Required t ks ↔ ofText t.toList = ks.map String.toList := by
    simp only [Required, asked_iff, ← Text.lines_eq_iff, exists_eq_left', ofText]
  rw [hlists]
  constructor
  · intro h
    simp [h, Function.comp_def]
  · rintro rfl
    simp [Function.comp_def]

/-! ### Seams -/

/-- An empty line asks for nothing, so the seam leaves no trace. -/
theorem ofText_append_newline (cs ds : List Char) : ofText (cs ++ '\n' :: ds) = ofText cs ++ ofText ds := by
  rcases Text.lines_append_newline cs ds with h | h
  · simp [ofText, h]
  · simp [ofText, h, holds]

theorem ofText_unifyBreaks (cs : List Char) : ofText (Text.unifyBreaks cs) = ofText cs := by
  rw [ofText, Text.lines_unifyBreaks, ofText]

/-! ### Files -/

theorem exists_of_hold {fs : Files} {p : Path} {t : String} (h : fs.Hold p t) : fs.exists? p = true := by
  rw [Files.exists?, Files.isFile, h]
  rfl

theorem readText_of_hold {fs : Files} {p : Path} {t : String} (h : fs.Hold p t) :
    fs.readText p = .ok (Text.unifyBreaks t.toList) := by
  rw [Files.readText, h]
  simp only [Files.decodeText, Text.Utf8.decode_toUTF8]

/-- The file of a text can be read. -/
theorem read_of_hold {fs : Files} {p : Path} {t : String} (h : fs.Hold p t) :
    read fs p = .ok ((ofText t.toList).map String.ofList) := by
  rw [read, if_pos (exists_of_hold h), readText_of_hold h, Except.map, ofText_unifyBreaks]

/-- The file of a text is read as what the text requires, and only that. A file with a line feed between
    two texts is read as the first and then the second. -/
theorem read_append :
    (∀ fs p t, Files.Hold fs p t → ∃ ks, read fs p = .ok ks ∧ ∀ ks', Required t ks' ↔ ks' = ks) ∧
    ∀ fs p₁ p₂ p t₁ t₂, Files.Hold fs p₁ t₁ → Files.Hold fs p₂ t₂ → Files.Hold fs p (t₁ ++ "\n" ++ t₂) →
      ∃ ks₁ ks₂, read fs p₁ = .ok ks₁ ∧ read fs p₂ = .ok ks₂ ∧ read fs p = .ok (ks₁ ++ ks₂) := by
  refine ⟨fun fs p t h => ⟨_, read_of_hold h, fun ks => required_iff⟩, ?_⟩
  intro fs p₁ p₂ p t₁ t₂ h₁ h₂ h
  refine ⟨_, _, read_of_hold h₁, read_of_hold h₂, ?_⟩
  rw [read_of_hold h]
  simp [ofText_append_newline]

/-- A text that ends in a return, which the line feed behind it joins. -/
def returning : String := "numpy >=1\x1c  # a comment\n\u00a0beartype\u3000\r"

/-- A text that begins with an empty line. -/
def begunEmpty : String := "\n-r other.txt\u2028a#b\r\r\u00e9"

/-- Both texts, and the text that a line feed joins them to. -/
def seamTree : Files :=
  [(["base.txt"], .octets returning.toUTF8.data.toList), (["more.txt"], .octets begunEmpty.toUTF8.data.toList),
    (["all.txt"], .octets (returning ++ "\n" ++ begunEmpty).toUTF8.data.toList)]

theorem read_append_returning :
    (seamTree.Hold ["base.txt"] returning ∧ seamTree.Hold ["more.txt"] begunEmpty ∧
      seamTree.Hold ["all.txt"] (returning ++ "\n" ++ begunEmpty)) ∧
    Required returning ["numpy >=1", "beartype"] ∧ Required begunEmpty ["a#b", "\u00e9"] ∧
    read seamTree ["all.txt"] = .ok ["numpy >=1", "beartype", "a#b", "\u00e9"] := by
  have h₁ : seamTree.Hold ["base.txt"] returning := rfl
  have h₂ : seamTree.Hold ["more.txt"] begunEmpty := rfl
  have h : seamTree.Hold ["all.txt"] (returning ++ "\n" ++ begunEmpty) := rfl
  have hread₁ : read seamTree ["base.txt"] = .ok ["numpy >=1", "beartype"] := rfl
  have hread₂ : read seamTree ["more.txt"] = .ok ["a#b", "\u00e9"] := rfl
  obtain ⟨ks₁, hks₁, hrequired₁⟩ := read_append.1 _ _ _ h₁
  obtain ⟨ks₂, hks₂, hrequired₂⟩ := read_append.1 _ _ _ h₂
  obtain ⟨_, _, hl₁, hl₂, hl⟩ := read_append.2 _ _ _ _ _ _ h₁ h₂ h
  obtain rfl := Except.ok.inj (hread₁.symm.trans hks₁)
  obtain rfl := Except.ok.inj (hread₂.symm.trans hks₂)
  obtain rfl := Except.ok.inj (hread₁.symm.trans hl₁)
  obtain rfl := Except.ok.inj (hread₂.symm.trans hl₂)
  exact ⟨⟨h₁, h₂, h⟩, (hrequired₁ _).mpr rfl, (hrequired₂ _).mpr rfl, hl⟩

end Requirements
end CallGuard.Package
