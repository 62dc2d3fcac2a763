import CallGuard.Proofs.Messages

/-! The written form of a checked function tells its contract. The display name stands in it as it is, and
    may hold parentheses, commas and arrows, or be written like a whole function. Yet the form is read in one
    way only, from the right: the tag of the result is its last word, the row of the other tags holds no
    parenthesis, so it begins after the last one that opens, and the tags of a row hold no comma. What is
    left in front is the name (`written_checked_iff`). -/

namespace CallGuard

/-! ### Rows of words -/

section
variable {α : Type} {x : α} {sep : List α} {us vs : List (List α)}

theorem notMem_intercalate (hsep : x ∉ sep) (hus : ∀ u ∈ us, x ∉ u) : x ∉ sep.intercalate us := by
  induction us with
  | nil => simp
  | cons u us ih =>
    obtain ⟨hu, hus⟩ := List.forall_mem_cons.mp hus
    cases us with
    | nil => simpa using hu
    | cons v us =>
      rw [List.intercalate_cons_cons, List.mem_append, List.mem_append, not_or, not_or]
      exact ⟨⟨hu, hsep⟩, ih hus⟩

/-- A row of words is read in one way where no word is empty or holds what separators begin with. -/
theorem intercalate_injective (hus : ∀ u ∈ us, u ≠ [] ∧ x ∉ u) (hvs : ∀ v ∈ vs, v ≠ [] ∧ x ∉ v)
    (h : (x :: sep).intercalate us = (x :: sep).intercalate vs) : us = vs := by
  have first_ne_nil {w : List α} {ws : List (List α)} (hw : w ≠ []) : (x :: sep).intercalate (w :: ws) ≠ [] := by
    cases ws <;> simp [List.intercalate_cons_cons, hw]
  have one_ne_several {u v w : List α} {ws : List (List α)} (hu : x ∉ u) :
      (x :: sep).intercalate [u] ≠ (x :: sep).intercalate (v :: w :: ws) := by
    rw [List.intercalate_singleton, List.intercalate_cons_cons]
    rintro rfl
    simp at hu
  induction us generalizing vs with
  | nil =>
    cases vs with
    | nil => rfl
    | cons v vs => exact absurd h.symm (first_ne_nil (hvs v List.mem_cons_self).1)
  | cons u us ih =>
    obtain ⟨⟨hne, hu⟩, hus⟩ := List.forall_mem_cons.mp hus
    cases vs with
    | nil => exact absurd h (first_ne_nil hne)
    | cons v vs =>
      obtain ⟨⟨-, hv⟩, hvs'⟩ := List.forall_mem_cons.mp hvs
      cases us with
      | nil =>
        cases vs with
        | nil => simpa using h
        | cons w vs => exact absurd h (one_ne_several hu)
      | cons u' us =>
        cases vs with
        | nil => exact absurd h.symm (one_ne_several hv)
        | cons v' vs =>
          simp only [List.intercalate_cons_cons, List.append_assoc, List.cons_append] at h
          obtain ⟨rfl, hrest⟩ := eq_of_append_cons hu hv h
          exact congrArg (u :: ·) (ih hus hvs' (List.append_cancel_left hrest))

end

/-! ### Rows of tags -/

namespace Tag

def row (ts : List Tag) : String := ", ".intercalate (ts.map text)

theorem text_ne_nil (t : Tag) : t.text.toList ≠ [] := by cases t <;> decide

theorem comma_notMem_text (t : Tag) : ',' ∉ t.text.toList := by cases t <;> decide

theorem parenthesis_notMem_text (t : Tag) : '(' ∉ t.text.toList := by cases t <;> decide

theorem toList_row (ts : List Tag) : (row ts).toList = [',', ' '].intercalate (ts.map fun t => t.text.toList) := by
  rw [row, String.toList_intercalate, List.map_map]
  rfl

theorem parenthesis_notMem_row (ts : List Tag) : '(' ∉ (row ts).toList := by
  rw [toList_row]
  refine notMem_intercalate (by decide) fun u hu => ?_
  obtain ⟨t, -, rfl⟩ := List.mem_map.mp hu
  exact t.parenthesis_notMem_text

theorem row_injective {ts us : List Tag} (h : row ts = row us) : ts = us := by
  have hparts (ts : List Tag) : ∀ u ∈ ts.map fun t => t.text.toList, u ≠ [] ∧ ',' ∉ u := by
    intro u hu
    obtain ⟨t, -, rfl⟩ := List.mem_map.mp hu
    exact ⟨t.text_ne_nil, t.comma_notMem_text⟩
  have hchars := congrArg String.toList h
  rw [toList_row, toList_row] at hchars
  have htexts := intercalate_injective (hparts ts) (hparts us) hchars
  exact List.map_injective_iff.mpr (fun t u htu => text_injective (String.toList_inj.mp htu)) htexts

end Tag

/-! ### Written functions -/

namespace Value
variable {n m : String} {s s' : Signature}

/-- A written function: fixed words, the name, the row of the arguments, and the tag of the result. -/
theorem writtenChecked_eq (n : String) (s : Signature) :
    writtenChecked n s =
      "<CheckedFunction " ++ n ++ "(" ++ Tag.row s.arguments ++ ") ->" ++ " " ++ s.result.text ++ ">" := by
  have harrow (front : String) : front ++ ") -> " = front ++ ") ->" ++ " " := by
    rw [String.append_assoc]
    rfl
  exact congrArg (· ++ s.result.text ++ ">") (harrow _)

/-- The name and the row of tags behind it are told apart by the last parenthesis that opens. -/
theorem eq_of_name_and_row {ts us : List Tag} (h : n ++ "(" ++ Tag.row ts = m ++ "(" ++ Tag.row us) :
    n = m ∧ ts = us := by
  have hchars : n.toList ++ '(' :: (Tag.row ts).toList = m.toList ++ '(' :: (Tag.row us).toList := by
    simpa using congrArg String.toList h
  obtain ⟨hname, hrow⟩ :=
    eq_of_append_cons_right (Tag.parenthesis_notMem_row ts) (Tag.parenthesis_notMem_row us) hchars
  exact ⟨String.toList_inj.mp hname, Tag.row_injective (String.toList_inj.mp hrow)⟩

theorem writtenChecked_injective (h : writtenChecked n s = writtenChecked m s') : n = m ∧ s = s' := by
  rw [writtenChecked_eq, writtenChecked_eq, String.append_left_inj] at h
  obtain ⟨hfront, hresult⟩ := (isWord_text s.result).last_eq (isWord_text s'.result) h
  rw [String.append_left_inj] at hfront
  obtain ⟨hname, harguments⟩ := eq_of_name_and_row hfront
  obtain ⟨as, r⟩ := s
  obtain ⟨bs, q⟩ := s'
  obtain rfl : as = bs := harguments
  obtain rfl : r = q := Tag.text_injective hresult
  exact ⟨(String.append_right_inj _).mp hname, rfl⟩

end Value

/-- Two checked functions that are named by texts, whatever the texts are, are written alike just if they
    have one name and one signature: the same number of arguments, the same tag for each, and the same tag for
    the result. Neither their implementations nor their metadata are seen. -/
theorem written_checked_iff (id id' i j : ObjectId) (n m : String) (s s' : Signature) (f f' : Value)
    (md md' : Metadata Value) :
    (Value.checked id ⟨s, f, .text i n, md⟩).written = (Value.checked id' ⟨s', f', .text j m, md'⟩).written ↔
      n = m ∧ s = s' := by
  constructor
  · intro h
    exact Value.writtenChecked_injective h
  · rintro ⟨rfl, rfl⟩
    rfl

/-- A name that is written like a function of one argument does not make a function without arguments one. -/
example : (Value.checked 1 ⟨⟨[], .null⟩, .null, .text 2 "f(Null) -> Null>", .empty⟩).written ≠
    (Value.checked 1 ⟨⟨[.null], .null⟩, .null, .text 2 "f", .empty⟩).written := by decide

end CallGuard
