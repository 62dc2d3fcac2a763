import Mathlib
import CallGuard.Proofs.Passes

/-! Messages tell violations apart. The name of a function stands in a message as it is, between fixed
    words, and may itself look like a message or a part of one. Yet a message is read in one way only: it
    begins with one of five openings, none of which begins with another, and whatever stands behind the name
    is a row of words with fixed separators, which is read from the right. So two reports of checks with one
    message are of one class and agree in all that they say (`details_of_message`). -/

namespace CallGuard

/-! ### Words and sentences -/

section
variable {α : Type} {x : α} {us vs as bs : List α}

theorem eq_of_append_cons (hu : x ∉ us) (hv : x ∉ vs) (h : us ++ x :: as = vs ++ x :: bs) : us = vs ∧ as = bs := by
  rcases List.append_eq_append_iff.mp h with ⟨l, rfl, hrest⟩ | ⟨l, rfl, hrest⟩
  · cases l with
    | nil => exact ⟨(List.append_nil us).symm, (List.cons.inj hrest).2⟩
    | cons y l =>
      obtain ⟨rfl, -⟩ := List.cons.inj hrest
      exact absurd (List.mem_append_right us List.mem_cons_self) hv
  · cases l with
    | nil => exact ⟨List.append_nil vs, (List.cons.inj hrest).2.symm⟩
    | cons y l =>
      obtain ⟨rfl, -⟩ := List.cons.inj hrest
      exact absurd (List.mem_append_right vs List.mem_cons_self) hu

theorem eq_of_append_cons_right (hu : x ∉ us) (hv : x ∉ vs) (h : as ++ x :: us = bs ++ x :: vs) :
    as = bs ∧ us = vs := by
  have hreverse : us.reverse ++ x :: as.reverse = vs.reverse ++ x :: bs.reverse := by
    simpa using congrArg List.reverse h
  obtain ⟨husvs, hasbs⟩ := eq_of_append_cons (mt List.mem_reverse.mp hu) (mt List.mem_reverse.mp hv) hreverse
  exact ⟨List.reverse_inj.mp hasbs, List.reverse_inj.mp husvs⟩

end

/-- A text without blanks. -/
def IsWord (s : String) : Prop := ' ' ∉ s.toList

theorem isWord_text (t : Tag) : IsWord t.text := by
  unfold IsWord
  cases t <;> decide

theorem isWord_repr (n : Nat) : IsWord n.repr := by
  intro h
  rw [Nat.toList_repr] at h
  cases Nat.isDigit_of_mem_toDigits (by decide) (by decide) h

namespace IsWord
variable {u v a b : String}

/-- The first word of a text is found. -/
theorem first_eq (hu : IsWord u) (hv : IsWord v) (h : u ++ " " ++ a = v ++ " " ++ b) : u = v ∧ a = b := by
  have hchars : u.toList ++ ' ' :: a.toList = v.toList ++ ' ' :: b.toList := by
    simpa using congrArg String.toList h
  obtain ⟨huv, hab⟩ := eq_of_append_cons hu hv hchars
  exact ⟨String.toList_inj.mp huv, String.toList_inj.mp hab⟩

/-- The last word of a text is found. -/
theorem last_eq (hu : IsWord u) (hv : IsWord v) (h : a ++ " " ++ u = b ++ " " ++ v) : a = b ∧ u = v := by
  have hchars : a.toList ++ ' ' :: u.toList = b.toList ++ ' ' :: v.toList := by
    simpa using congrArg String.toList h
  obtain ⟨hab, huv⟩ := eq_of_append_cons_right hu hv hchars
  exact ⟨String.toList_inj.mp hab, String.toList_inj.mp huv⟩

end IsWord

/-- A front and words behind it, the last one first. Each word comes after a separator and a blank. -/
def sentence (front : String) : List (String × String) → String
  | [] => front
  | (separator, word) :: ps => sentence front ps ++ (separator ++ " ") ++ word

/-- A sentence with given separators is read in one way, whatever stands in front. -/
theorem sentence_injective {f g : String} {ps qs : List (String × String)}
    (hseparators : ps.map Prod.fst = qs.map Prod.fst) (hps : ∀ p ∈ ps, IsWord p.2) (hqs : ∀ q ∈ qs, IsWord q.2)
    (h : sentence f ps = sentence g qs) : f = g ∧ ps = qs := by
  induction ps generalizing qs with
  | nil =>
    cases qs with
    | nil => exact ⟨h, rfl⟩
    | cons q qs => cases hseparators
  | cons p ps ih =>
    cases qs with
    | nil => cases hseparators
    | cons q qs =>
      obtain ⟨hp, hps⟩ := List.forall_mem_cons.mp hps
      obtain ⟨hq, hqs⟩ := List.forall_mem_cons.mp hqs
      obtain ⟨hseparator, hseparators⟩ := List.cons.inj hseparators
      rw [sentence, sentence, ← String.append_assoc, ← String.append_assoc] at h
      obtain ⟨hfront, hword⟩ := hp.last_eq hq h
      rw [hseparator, String.append_left_inj] at hfront
      obtain ⟨rfl, rfl⟩ := ih hseparators hps hqs hfront
      exact ⟨rfl, congrArg (· :: ps) (Prod.ext hseparator hword)⟩

/-! ### What the checks report -/

/-- What checks can complain of: numbers and tags that do not fit. -/
inductive Complaint
  | count (expected given : Nat)
  | type (position : Nat) (expected actual : Tag)
  | nan (position : Nat) (expected : Tag)
  | nanResult
  | undefined (position : Nat) (expected : Tag)
  | result (expected actual : Tag)

/-- The report of a complaint, which names the function. -/
def Complaint.report (name : Value) : Complaint → Report
  | count n m => .argumentCount (.ofInt n) (.ofInt m) name
  | type i t u => .argumentType name (.ofInt i) (.tag t) (.tag u)
  | nan i t => .nanDetected name (.ofInt i) (.tag t)
  | nanResult => .nanDetected name .null (.tag .void)
  | undefined i t => .undefinedArgument name (.ofInt i) (.tag t)
  | result t u => .returnType name (.tag t) (.tag u)

/-- What a comparison raises is a general report, if it is a report at all. -/
theorem Reply.family_of_outcome {a : Reply} {r : Report} (h : a.outcome = .error (.report r)) : r.family = .smell := by
  cases a with
  | truth b => cases h
  | ambiguous a => cases h
  | raised e =>
    obtain ⟨family, text⟩ := e
    cases family <;> cases h
    rfl

theorem SelfTest.family_of_outcome {t : SelfTest} {k : Nat} {r : Report} (h : t.outcome k = .error (.report r)) :
    r.family = .smell := by
  cases t with
  | account a => exact Reply.family_of_outcome (a := a) h
  | replies rs => exact Reply.family_of_outcome (a := rs.after k) h
  | comparison b => cases h
  | ambiguous a => cases h

theorem Value.family_of_tagAfter {v : Value} {k : Nat} {r : Report} (h : v.tagAfter k = .error (.report r)) :
    r.family = .smell := by
  unfold tagAfter at h
  split at h
  · cases ho : v.selfTest.outcome k with
    | ok b =>
      rw [ho] at h
      cases h
    | error f =>
      rw [ho] at h
      cases h
      exact SelfTest.family_of_outcome ho
  · cases h

/-- An operation reports nothing but complaints and general reports. -/
def Complains {α : Type} (name : Value) (x : Exec α) : Prop :=
  ∀ s r t, x.on s = (.error (.failed (.report r)), t) → r.family ≠ .smell → ∃ k : Complaint, r = k.report name

namespace Complains
variable {α β : Type} {name : Value}

theorem pure (a : α) : Complains name (pure a : Exec α) := by
  intro s r t h
  cases h

theorem raise {r : Report} (k : Complaint) (hr : r = k.report name) : Complains name (Checked.raise r : Exec α) := by
  intro s r' t h _
  cases h
  exact ⟨k, hr⟩

theorem bind {x : Exec α} {k : α → Exec β} (hx : Complains name x) (hk : ∀ a, Complains name (k a)) :
    Complains name (x >>= k) := by
  intro s r t h
  rw [Exec.on_bind] at h
  rcases hon : x.on s with ⟨e | a, u⟩ <;> rw [hon] at h
  · cases h
    exact hx s r _ hon
  · exact hk a u r t h

theorem classify (v : Value) : Complains name v.classify := by
  intro s r t h hspecific
  rw [Value.on_classify] at h
  cases hv : v.tagAfter (v.comparisonsIn s) with
  | ok u =>
    rw [hv] at h
    cases h
  | error f =>
    rw [hv] at h
    cases h
    exact absurd (Value.family_of_tagAfter hv) hspecific

theorem pass {judge : Nat → Tag → Value → Exec Unit} (h : ∀ i t v, Complains name (judge i t v)) (i : Nat)
    (ts : List Tag) (args : List Value) : Complains name (Checked.pass judge i ts args) := by
  induction ts generalizing i args with
  | nil => exact .pure ()
  | cons t ts ih =>
    cases args with
    | nil => exact .pure ()
    | cons v args => exact (h i t v).bind fun _ => ih (i + 1) args

theorem checkArguments (c : Checked Value) (args : List Value) (named : Nat) :
    Complains c.name (c.checkArguments args named) := by
  unfold Checked.checkArguments
  rw [Checked.checkTags_eq_pass, Checked.checkNaN_eq_pass, Checked.checkUndefined_eq_pass]
  refine .bind ?_ fun _ => .bind (.pass (fun i t v => ?_) _ _ _) fun _ =>
    .bind (.pass (fun i t v => ?_) _ _ _) fun _ => .pass (fun i t v => ?_) _ _ _
  · unfold Checked.checkCount
    split
    · exact .raise (.count _ (args.length + named)) rfl
    · exact .pure ()
  · refine .bind (.classify v) fun u => ?_
    split
    · exact .pure ()
    · exact .raise (.type i t u) rfl
  · refine .bind (.classify v) fun u => ?_
    split
    · exact .raise (.nan i t) rfl
    · exact .pure ()
  · unfold Checked.judgeUndefined
    split
    · exact .raise (.undefined i t) rfl
    · exact .pure ()

theorem checkResult (c : Checked Value) (v : Value) : Complains c.name (c.checkResult v) := by
  refine .bind (.classify v) fun u => ?_
  dsimp only
  split
  · next hvoid =>
    split
    · rw [hvoid]
      exact .raise .nanResult rfl
    · exact .pure ()
  · split
    · exact .pure ()
    · exact .raise (.result _ u) rfl

end Complains

/-- A report by the checks of a function, of arguments or of a result. General reports are not theirs: they
    come from a value that was compared. -/
structure Checked.Reports (c : Checked Value) (r : Report) : Prop where
  specific : r.family ≠ .smell
  raised : (∃ args named s t, (c.checkArguments args named).on s = (.error (.failed (.report r)), t)) ∨
    ∃ v s t, (c.checkResult v).on s = (.error (.failed (.report r)), t)

theorem Checked.Reports.complaint {c : Checked Value} {r : Report} (h : c.Reports r) :
    ∃ k : Complaint, r = k.report c.name := by
  obtain ⟨hspecific, ⟨args, named, s, t, hraised⟩ | ⟨v, s, t, hraised⟩⟩ := h
  · exact Complains.checkArguments c args named s r t hraised hspecific
  · exact Complains.checkResult c v s r t hraised hspecific

/-! ### Openings -/

/-- What a message opens with, up to the name of the function or to the position. -/
inductive Opening
  | count
  | function
  | nanResult
  | nanArgument
  | undefinedArgument
  deriving DecidableEq

namespace Opening

/-- The words of an opening. -/
def text : Opening → String
  | count => "Incorrect number of arguments for function \""
  | function => "Function \""
  | nanResult => "Found a NaN returned from function \""
  | nanArgument => "Found a NaN argument "
  | undefinedArgument => "Found an undefined argument "

/-- No opening begins with another. -/
theorem eq_of_begins {a b : Opening} : a.text.toList <+: b.text.toList → a = b := by
  cases a <;> cases b <;> decide

/-- The opening of a text is found. -/
theorem eq_of_append {a b : Opening} {u v : String} (h : a.text ++ u = b.text ++ v) : a = b := by
  have hchars : a.text.toList ++ u.toList = b.text.toList ++ v.toList := by
    rw [← String.toList_append, h, String.toList_append]
  have ha : a.text.toList <+: b.text.toList ++ v.toList := hchars ▸ List.prefix_append _ _
  rcases List.prefix_or_prefix_of_prefix ha (List.prefix_append _ _) with hab | hba
  · exact eq_of_begins hab
  · exact (eq_of_begins hba).symm

end Opening

/-- A message: an opening, what stands in front, and words behind it. -/
structure Phrase where
  opening : Opening
  front : String
  parts : List (String × String)

namespace Phrase
variable {p q : Phrase}

/-- The text of a message. -/
def text (p : Phrase) : String := sentence (p.opening.text ++ p.front) p.parts ++ "."

theorem sentence_append (a f : String) (ps : List (String × String)) : sentence (a ++ f) ps = a ++ sentence f ps := by
  induction ps with
  | nil => rfl
  | cons p ps ih => simp only [sentence, ih, String.append_assoc]

theorem opening_eq (h : p.text = q.text) : p.opening = q.opening := by
  rw [text, text, String.append_left_inj, sentence_append, sentence_append] at h
  exact Opening.eq_of_append h

theorem eq_of_separators (hp : ∀ x ∈ p.parts, IsWord x.2) (hq : ∀ x ∈ q.parts, IsWord x.2)
    (hseparators : p.parts.map Prod.fst = q.parts.map Prod.fst) (h : p.text = q.text) : p = q := by
  have hopening := opening_eq h
  rw [text, text, String.append_left_inj] at h
  obtain ⟨hfront, hparts⟩ := sentence_injective hseparators hp hq h
  rw [hopening, String.append_right_inj] at hfront
  obtain ⟨o, f, ps⟩ := p
  obtain ⟨o', f', qs⟩ := q
  cases hopening
  cases hfront
  cases hparts
  rfl

end Phrase

namespace Complaint
variable {i j : ObjectId} {n m : String} {k l : Complaint}

/-- The message of a complaint about a function with a name. -/
def phrase (n : String) : Complaint → Phrase
  | count expected given => ⟨.count, n, [(", but got", given.repr), ("\": Expected", expected.repr)]⟩
  | type position t u =>
    ⟨.function, n, [(", expecting", t.text), (" called with", u.text), ("\" argument", position.repr)]⟩
  | nan position t => ⟨.nanArgument, position.repr ++ " " ++ ("passed to function \"" ++ n), [("\", expected", t.text)]⟩
  | nanResult => ⟨.nanResult, n, [("\", expected", Tag.void.text)]⟩
  | undefined position t =>
    ⟨.undefinedArgument, position.repr ++ " " ++ ("passed to function \"" ++ n), [("\", expected", t.text)]⟩
  | result t u => ⟨.function, n, [(", expected", t.text), ("\" returned", u.text)]⟩

theorem front_eq (opening position n : String) :
    opening ++ (position ++ " " ++ ("passed to function \"" ++ n)) =
      opening ++ position ++ " passed to function \"" ++ n := by
  have hblank : " passed to function \"" = " " ++ "passed to function \"" := rfl
  rw [hblank]
  simp only [String.append_assoc]

theorem text_report (i : ObjectId) (n : String) (k : Complaint) :
    (k.report (.text i n)).text = (k.phrase n).text := by
  cases k with
  | nan position t => exact (congrArg (· ++ "\", expected " ++ t.text ++ ".") (front_eq _ position.repr n)).symm
  | undefined position t => exact (congrArg (· ++ "\", expected " ++ t.text ++ ".") (front_eq _ position.repr n)).symm
  | _ => rfl

theorem message_report (i : ObjectId) (n : String) (k : Complaint) :
    (k.report (.text i n)).message = .ofString (k.phrase n).text := by
  rw [← text_report]
  cases k <;> rfl

theorem isWord_parts (n : String) (k : Complaint) : ∀ x ∈ (k.phrase n).parts, IsWord x.2 := by
  cases k <;> simp [phrase, isWord_text, isWord_repr]

/-- What is said of an argument is told from what is said of a result by the word before the last. -/
theorem expecting_ne_expected {a b u v : String} (hu : IsWord u) (hv : IsWord v) :
    a ++ (", expecting" ++ " ") ++ u ≠ b ++ (", expected" ++ " ") ++ v := by
  intro h
  rw [← String.append_assoc, ← String.append_assoc] at h
  obtain ⟨hfront, -⟩ := hu.last_eq hv h
  have hlast := congrArg (fun s => s.toList.getLast?) hfront
  simp at hlast

theorem separators_eq (h : (k.phrase n).text = (l.phrase m).text) :
    (k.phrase n).parts.map Prod.fst = (l.phrase m).parts.map Prod.fst := by
  have hopening := Phrase.opening_eq h
  cases k with
  | type i t u =>
    cases l with
    | type => rfl
    | result t' u' =>
      exact absurd ((String.append_left_inj _).mp h) (expecting_ne_expected (isWord_text _) (isWord_text _))
    | _ => cases hopening
  | result t u =>
    cases l with
    | type i t' u' =>
      exact absurd ((String.append_left_inj _).mp h).symm (expecting_ne_expected (isWord_text _) (isWord_text _))
    | result => rfl
    | _ => cases hopening
  | _ => cases l <;> first | rfl | cases hopening

theorem eq_of_phrase_eq (h : k.phrase n = l.phrase m) : n = m ∧ k = l := by
  have hplace {i i' : Nat} (h : i.repr ++ " " ++ ("passed to function \"" ++ n) =
      i'.repr ++ " " ++ ("passed to function \"" ++ m)) : i = i' ∧ n = m := by
    obtain ⟨hposition, hname⟩ := (isWord_repr i).first_eq (isWord_repr i') h
    exact ⟨Nat.repr_injective hposition, (String.append_right_inj _).mp hname⟩
  cases k <;> cases l <;> simp only [phrase, Phrase.mk.injEq, List.cons.injEq, Prod.mk.injEq, reduceCtorEq, false_and,
    and_false, true_and, and_true] at h
  case count.count =>
    obtain ⟨rfl, hgiven, hexpected⟩ := h
    exact ⟨rfl, by rw [Nat.repr_injective hgiven, Nat.repr_injective hexpected]⟩
  case type.type =>
    obtain ⟨rfl, hexpected, hactual, hposition⟩ := h
    exact ⟨rfl, by rw [Tag.text_injective hexpected, Tag.text_injective hactual, Nat.repr_injective hposition]⟩
  case nan.nan =>
    obtain ⟨hfront, hexpected⟩ := h
    obtain ⟨rfl, rfl⟩ := hplace hfront
    exact ⟨rfl, by rw [Tag.text_injective hexpected]⟩
  case nanResult.nanResult => exact ⟨h, rfl⟩
  case undefined.undefined =>
    obtain ⟨hfront, hexpected⟩ := h
    obtain ⟨rfl, rfl⟩ := hplace hfront
    exact ⟨rfl, by rw [Tag.text_injective hexpected]⟩
  case result.result =>
    obtain ⟨rfl, hexpected, hactual⟩ := h
    exact ⟨rfl, by rw [Tag.text_injective hexpected, Tag.text_injective hactual]⟩

/-- A message is that of one complaint only, about a function of one name. -/
theorem phrase_injective (h : (k.phrase n).text = (l.phrase m).text) : n = m ∧ k = l :=
  eq_of_phrase_eq (Phrase.eq_of_separators (isWord_parts n k) (isWord_parts m l) (separators_eq h) h)

end Complaint

/-- Two reports by checks of functions that are named by texts, whatever the texts are, and with one message
    are of one class, and agree in the name of the function, the position, and what was expected and found. -/
theorem details_of_message {c c' : Checked Value} {i j : ObjectId} {n m : String} (hc : c.name = .text i n)
    (hc' : c'.name = .text j m) {r r' : Report} (hr : c.Reports r) (hr' : c'.Reports r')
    (h : r.message = r'.message) :
    r.family = r'.family ∧ (n = m ∧ r.functionName = .text i n ∧ r'.functionName = .text j m) ∧
      r.position = r'.position ∧ r.expected = r'.expected ∧ r.actual = r'.actual := by
  obtain ⟨k, rfl⟩ := hr.complaint
  obtain ⟨l, rfl⟩ := hr'.complaint
  rw [hc, hc', Complaint.message_report, Complaint.message_report] at h
  obtain ⟨hname, rfl⟩ := Complaint.phrase_injective (Value.text.inj h).2
  rw [hc, hc']
  cases k <;> exact ⟨rfl, ⟨hname, rfl, rfl⟩, rfl, rfl, rfl⟩

/-- A name that ends like a message about a result does not make a message one about an argument. -/
theorem details_of_message_crafted :
    let name := "f\" argument 0 called with Null, expecting Array. Function \"g"
    let c : Checked Value := ⟨⟨[.number], .null⟩, .null, .text 1 name, .empty⟩
    let c' : Checked Value := ⟨⟨[.array], .null⟩, .null, .text 2 "f", .empty⟩
    let c'' : Checked Value := ⟨⟨[.void], .null⟩, .null, .text 3 name, .empty⟩
    let r : Report := .returnType (.text 1 name) (.tag .null) (.tag .boolean)
    let r' : Report := .argumentType (.text 2 "f") (.ofInt 0) (.tag .array) (.tag .null)
    let r'' : Report := .returnType (.text 3 name) (.tag .null) (.tag .boolean)
    c.Reports r ∧ c'.Reports r' ∧ c''.Reports r'' ∧ r.message ≠ r'.message ∧ r.message = r''.message ∧
      r.family = r''.family ∧ (name = name ∧ r.functionName = .text 1 name ∧ r''.functionName = .text 3 name) ∧
      r.position = r''.position ∧ r.expected = r''.expected ∧ r.actual = r''.actual := by
  intro name c c' c'' r r' r''
  have hr : c.Reports r := ⟨nofun, .inr ⟨.boolean true, .initial, _, rfl⟩⟩
  have hr' : c'.Reports r' := ⟨nofun, .inl ⟨[.null], 0, .initial, _, rfl⟩⟩
  have hr'' : c''.Reports r'' := ⟨nofun, .inr ⟨.boolean false, .initial, _, rfl⟩⟩
  have hsame : r.message = r''.message := rfl
  refine ⟨hr, hr', hr'', fun h => ?_, hsame, details_of_message rfl rfl hr hr'' hsame⟩
  have hfamily := (details_of_message rfl rfl hr hr' h).1
  cases hfamily

end CallGuard
