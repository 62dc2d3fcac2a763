import CallGuard.Text.Utf8
import Mathlib.Tactic.SplitIfs

/-! Octets that hold a text are read as that text: what a character is written in decodes to the
    character, whatever octets stand behind it, so a whole text decodes to itself. -/

namespace CallGuard.Text.Utf8

/-- A pending character is followed by octets that complete it to a number. -/
inductive Completes : Pending → List UInt8 → Nat → Prop
  | last {p : Pending} {b : UInt8} {x : Nat} (hm : p.more ≤ 1) (hlow : p.low ≤ b.toNat)
      (hhigh : b.toNat ≤ p.high) (hx : (p.push b).value = x) : Completes p [b] x
  | more {p : Pending} {b : UInt8} {bs : List UInt8} {x : Nat} (hm : 1 < p.more) (hlow : p.low ≤ b.toNat)
      (hhigh : b.toNat ≤ p.high) (h : Completes (p.push b) bs x) : Completes p (b :: bs) x

theorem decodeFrom_completes {p : Pending} {bs : List UInt8} {x : Nat} (h : Completes p bs x) (n : Nat)
    (rest : List UInt8) :
    decodeFrom n (some p) (bs ++ rest) = (decodeFrom (n + bs.length) none rest).map (Char.ofNat x :: ·) := by
  induction h generalizing n with
  | last hm hlow hhigh hx => simp [decodeFrom, hm, hlow, hhigh, hx]
  | @more p b bs x hm hlow hhigh _ ih =>
    rw [List.cons_append, decodeFrom, if_pos ⟨hlow, hhigh⟩, if_neg (by omega), ih, List.length_cons]
    congr 2
    omega

theorem not_lt_of_pending {n : Nat} {p : Pending} {b : UInt8} (hp : pending? n b = some p) : ¬ b.toNat < 0x80 := by
  intro hb
  rw [pending?, if_pos (by omega)] at hp
  cases hp

/-- A first octet with octets that complete what it starts. -/
theorem decodeFrom_opened {n x : Nat} {p : Pending} {b : UInt8} {bs : List UInt8} (hp : pending? n b = some p)
    (h : Completes p bs x) (rest : List UInt8) :
    decodeFrom n none (b :: bs ++ rest) =
      (decodeFrom (n + (b :: bs).length) none rest).map (Char.ofNat x :: ·) := by
  rw [List.cons_append, decodeFrom, if_neg (not_lt_of_pending hp)]
  simp only [hp]
  rw [decodeFrom_completes h, List.length_cons]
  congr 2
  omega

theorem toNat_ofNat {n : Nat} (h : n < 0x100) : (UInt8.ofNat n).toNat = n := UInt8.toNat_ofNat_of_lt' h

/-- What follows a first octet. -/
theorem toNat_following (n : Nat) : (UInt8.ofNat (n % 64 + 128)).toNat = n % 64 + 128 := toNat_ofNat (by omega)

theorem opened_two {v : Nat} (n : Nat) (h₁ : ¬ v ≤ 0x7f) (h₂ : v ≤ 0x7ff) :
    ∃ p, pending? n (UInt8.ofNat (v / 64 % 32 + 192)) = some p ∧
      Completes p [UInt8.ofNat (v % 64 + 128)] v := by
  have hb : (UInt8.ofNat (v / 64 % 32 + 192)).toNat = v / 64 % 32 + 192 := toNat_ofNat (by omega)
  unfold pending?
  simp only [hb]
  rw [if_neg (by omega), if_pos (by omega)]
  refine ⟨_, rfl, .last ?_ ?_ ?_ ?_⟩ <;> simp only [Pending.push, toNat_following] <;> omega

-- The range of the second octet of three hangs on the first: it leaves out what two octets hold, and the
-- numbers that no character has.
theorem opened_three {v : Nat} (n : Nat) (hv : v < 0xd800 ∨ 0xdfff < v) (h₂ : ¬ v ≤ 0x7ff)
    (h₃ : v ≤ 0xffff) :
    ∃ p, pending? n (UInt8.ofNat (v / 4096 % 16 + 224)) = some p ∧
      Completes p [UInt8.ofNat (v / 64 % 64 + 128), UInt8.ofNat (v % 64 + 128)] v := by
  have hb : (UInt8.ofNat (v / 4096 % 16 + 224)).toNat = v / 4096 % 16 + 224 := toNat_ofNat (by omega)
  unfold pending?
  simp only [hb]
  rw [if_neg (by omega), if_neg (by omega)]
  split_ifs with h₁ h₂
  all_goals try omega
  all_goals
    refine ⟨_, rfl, .more ?_ ?_ ?_ (.last ?_ ?_ ?_ ?_)⟩ <;> simp only [Pending.push, toNat_following] <;> omega

-- Four octets likewise: the second one leaves out what three hold, and what no text goes up to.
theorem opened_four {v : Nat} (n : Nat) (hv : v < 0x110000) (h₃ : ¬ v ≤ 0xffff) :
    ∃ p, pending? n (UInt8.ofNat (v / 262144 % 8 + 240)) = some p ∧
      Completes p [UInt8.ofNat (v / 4096 % 64 + 128), UInt8.ofNat (v / 64 % 64 + 128),
        UInt8.ofNat (v % 64 + 128)] v := by
  have hb : (UInt8.ofNat (v / 262144 % 8 + 240)).toNat = v / 262144 % 8 + 240 := toNat_ofNat (by omega)
  unfold pending?
  simp only [hb]
  rw [if_neg (by omega), if_neg (by omega), if_neg (by omega), if_neg (by omega), if_neg (by omega)]
  split_ifs with h₁ h₂
  all_goals try omega
  all_goals
    refine ⟨_, rfl, .more ?_ ?_ ?_ (.more ?_ ?_ ?_ (.last ?_ ?_ ?_ ?_))⟩ <;>
      simp only [Pending.push, toNat_following] <;> omega

/-- What a character is written in decodes to it, whatever stands behind. -/
theorem decodeFrom_encodeChar (n : Nat) (c : Char) (rest : List UInt8) :
    ∃ k, decodeFrom n none (String.utf8EncodeChar c ++ rest) = (decodeFrom k none rest).map (c :: ·) := by
  have hv : c.val.toNat < 0xd800 ∨ 0xdfff < c.val.toNat ∧ c.val.toNat < 0x110000 := c.valid
  have hchar : Char.ofNat c.val.toNat = c := Char.ofNat_toNat c
  unfold String.utf8EncodeChar
  dsimp only
  generalize c.val.toNat = v at hv hchar
  subst hchar
  split_ifs with h₁ h₂ h₃
  · have hb : (UInt8.ofNat v).toNat = v := toNat_ofNat (by omega)
    exact ⟨n + 1, by rw [List.cons_append, decodeFrom, if_pos (by omega), hb, List.nil_append]⟩
  · obtain ⟨p, hp, h⟩ := opened_two n h₁ h₂
    exact ⟨_, decodeFrom_opened hp h rest⟩
  · obtain ⟨p, hp, h⟩ := opened_three n (hv.imp_right And.left) h₂ h₃
    exact ⟨_, decodeFrom_opened hp h rest⟩
  · obtain ⟨p, hp, h⟩ := opened_four n (by omega) h₃
    exact ⟨_, decodeFrom_opened hp h rest⟩

theorem decodeFrom_flatMap (n : Nat) (cs : List Char) :
    decodeFrom n none (cs.flatMap String.utf8EncodeChar) = .ok cs := by
  induction cs generalizing n with
  | nil => rfl
  | cons c cs ih =>
    obtain ⟨k, h⟩ := decodeFrom_encodeChar n c (cs.flatMap String.utf8EncodeChar)
    rw [List.flatMap_cons, h, ih k]
    rfl

/-- The octets of a text decode to the text. -/
theorem decode_toUTF8 (t : String) : decode t.toUTF8.data.toList = .ok t.toList := by
  have h : t.toUTF8 = (t.toList.flatMap String.utf8EncodeChar).toByteArray := String.utf8Encode_toList.symm
  rw [h, List.data_toByteArray]
  exact decodeFrom_flatMap 0 t.toList

end CallGuard.Text.Utf8
