import JmsNaming.Text.Utf8
import Mathlib.Tactic.Common

/-
The text of the bytes of a text is the text: one step of reading for each length of a character's
form, and one induction over the characters.
-/
namespace JmsNaming.Text

theorem toNat_byte {n : Nat} (h : n < 256) : (UInt8.ofNat n).toNat = n := by
  simpa using Nat.mod_eq_of_lt h

theorem isTrail_byte {n : Nat} (h : n < 64) : isTrail (UInt8.ofNat (0x80 + n)) = true := by
  simp only [isTrail, Bool.and_eq_true, decide_eq_true_eq, UInt8.le_iff_toNat_le]
  rw [toNat_byte (by omega)]
  simp
  omega

/-! ## Reading one character -/

section Step

variable {b c d e : UInt8} {rest : List UInt8}

theorem utf8Text_one (hb : b.toNat < 0x80) : utf8Text (b :: rest) = Char.ofNat b.toNat :: utf8Text rest := by
  have h1 : b < 0x80 := UInt8.lt_iff_toNat_lt.2 hb
  rw [utf8Text.eq_def]
  simp only [h1, if_true]

theorem utf8Text_two (hb : 0xc2 ≤ b.toNat) (hb' : b.toNat ≤ 0xdf) (hc : isTrail c = true) :
    utf8Text (b :: c :: rest) = Char.ofNat ((b.toNat - 0xc0) * 64 + (c.toNat - 0x80)) :: utf8Text rest := by
  have h1 : ¬b < 0x80 := by rw [UInt8.lt_iff_toNat_lt]; simp; omega
  have h2 : 0xc2 ≤ b := UInt8.le_iff_toNat_le.2 hb
  have h3 : b ≤ 0xdf := UInt8.le_iff_toNat_le.2 hb'
  rw [utf8Text.eq_def]
  simp only [h1, h2, h3, hc, decide_true, Bool.and_self, if_true, if_false]

theorem utf8Text_three (hb : 0xe0 ≤ b.toNat) (hb' : b.toNat ≤ 0xef) (hc : secondOk b c = true)
    (hd : isTrail d = true) :
    utf8Text (b :: c :: d :: rest) =
      Char.ofNat ((b.toNat - 0xe0) * 4096 + (c.toNat - 0x80) * 64 + (d.toNat - 0x80)) :: utf8Text rest := by
  have h1 : ¬b < 0x80 := by rw [UInt8.lt_iff_toNat_lt]; simp; omega
  have h2 : ¬b ≤ 0xdf := by rw [UInt8.le_iff_toNat_le]; simp; omega
  have h3 : 0xe0 ≤ b := UInt8.le_iff_toNat_le.2 hb
  have h4 : b ≤ 0xef := UInt8.le_iff_toNat_le.2 hb'
  rw [utf8Text.eq_def]
  simp only [h1, h2, h3, h4, hc, hd, decide_true, decide_false, Bool.and_self, Bool.and_false,
    Bool.false_eq_true, if_true, if_false]

theorem utf8Text_four (hb : 0xf0 ≤ b.toNat) (hb' : b.toNat ≤ 0xf4) (hc : secondOk b c = true)
    (hd : isTrail d = true) (he : isTrail e = true) :
    utf8Text (b :: c :: d :: e :: rest) =
      Char.ofNat ((b.toNat - 0xf0) * 262144 + (c.toNat - 0x80) * 4096 + (d.toNat - 0x80) * 64 +
        (e.toNat - 0x80)) :: utf8Text rest := by
  have h1 : ¬b < 0x80 := by rw [UInt8.lt_iff_toNat_lt]; simp; omega
  have h2 : ¬b ≤ 0xdf := by rw [UInt8.le_iff_toNat_le]; simp; omega
  have h3 : ¬b ≤ 0xef := by rw [UInt8.le_iff_toNat_le]; simp; omega
  have h4 : 0xf0 ≤ b := UInt8.le_iff_toNat_le.2 hb
  have h5 : b ≤ 0xf4 := UInt8.le_iff_toNat_le.2 hb'
  rw [utf8Text.eq_def]
  simp only [h1, h2, h3, h4, h5, hc, hd, he, decide_true, decide_false, Bool.and_self, Bool.and_false,
    Bool.false_eq_true, if_true, if_false]

end Step

/-! ## Second bytes -/

/-- The second byte of a form of three bytes is in range: the character is not short and no half of
a pair. -/
theorem secondOk_three {n : Nat} (h : 0x800 ≤ n) (h' : n < 0x10000) (hs : n < 0xd800 ∨ 0xdfff < n) :
    secondOk (UInt8.ofNat (0xe0 + n / 4096)) (UInt8.ofNat (0x80 + n / 64 % 64)) = true := by
  have hb := toNat_byte (n := 0xe0 + n / 4096) (by omega)
  have hc := toNat_byte (n := 0x80 + n / 64 % 64) (by omega)
  simp only [secondOk, beq_iff_eq, ← UInt8.toNat_inj, hb, isTrail, UInt8.le_iff_toNat_le, hc,
    UInt8.reduceToNat]
  split_ifs <;> simp <;> omega

/-- The second byte of a form of four bytes is in range: the character is not short and not beyond
the last one. -/
theorem secondOk_four {n : Nat} (h : 0x10000 ≤ n) (h' : n < 0x110000) :
    secondOk (UInt8.ofNat (0xf0 + n / 262144)) (UInt8.ofNat (0x80 + n / 4096 % 64)) = true := by
  have hb := toNat_byte (n := 0xf0 + n / 262144) (by omega)
  have hc := toNat_byte (n := 0x80 + n / 4096 % 64) (by omega)
  simp only [secondOk, beq_iff_eq, ← UInt8.toNat_inj, hb, isTrail, UInt8.le_iff_toNat_le, hc,
    UInt8.reduceToNat]
  split_ifs <;> simp <;> omega

/-! ## Reading what was written -/

theorem toNat_scalar (c : Char) : c.toNat < 0xd800 ∨ 0xdfff < c.toNat ∧ c.toNat < 0x110000 :=
  c.valid

theorem utf8Text_utf8Char (c : Char) (rest : List UInt8) :
    utf8Text (utf8Char c ++ rest) = c :: utf8Text rest := by
  have hc := toNat_scalar c
  unfold utf8Char
  simp only
  split_ifs with h1 h2 h3
  · have hb := toNat_byte (n := c.toNat) (by omega)
    rw [List.cons_append, List.nil_append, utf8Text_one (by omega), hb, Char.ofNat_toNat]
  · have hb := toNat_byte (n := 0xc0 + c.toNat / 64) (by omega)
    have ht := toNat_byte (n := 0x80 + c.toNat % 64) (by omega)
    simp only [List.cons_append, List.nil_append]
    rw [utf8Text_two (by omega) (by omega) (isTrail_byte (by omega)), hb, ht]
    rw [show (0xc0 + c.toNat / 64 - 0xc0) * 64 + (0x80 + c.toNat % 64 - 0x80) = c.toNat by omega, Char.ofNat_toNat]
  · have hb := toNat_byte (n := 0xe0 + c.toNat / 4096) (by omega)
    have ht := toNat_byte (n := 0x80 + c.toNat / 64 % 64) (by omega)
    have hu := toNat_byte (n := 0x80 + c.toNat % 64) (by omega)
    have h2nd := secondOk_three (n := c.toNat) (by omega) h3 (by omega)
    simp only [List.cons_append, List.nil_append]
    rw [utf8Text_three (by omega) (by omega) h2nd (isTrail_byte (by omega)), hb, ht, hu]
    rw [show (0xe0 + c.toNat / 4096 - 0xe0) * 4096 + (0x80 + c.toNat / 64 % 64 - 0x80) * 64 +
      (0x80 + c.toNat % 64 - 0x80) = c.toNat by omega, Char.ofNat_toNat]
  · have hb := toNat_byte (n := 0xf0 + c.toNat / 262144) (by omega)
    have ht := toNat_byte (n := 0x80 + c.toNat / 4096 % 64) (by omega)
    have hu := toNat_byte (n := 0x80 + c.toNat / 64 % 64) (by omega)
    have hv := toNat_byte (n := 0x80 + c.toNat % 64) (by omega)
    have h2nd := secondOk_four (n := c.toNat) (by omega) (by omega)
    simp only [List.cons_append, List.nil_append]
    rw [utf8Text_four (by omega) (by omega) h2nd (isTrail_byte (by omega)) (isTrail_byte (by omega)), hb, ht, hu,
      hv]
    rw [show (0xf0 + c.toNat / 262144 - 0xf0) * 262144 + (0x80 + c.toNat / 4096 % 64 - 0x80) * 4096 +
      (0x80 + c.toNat / 64 % 64 - 0x80) * 64 + (0x80 + c.toNat % 64 - 0x80) = c.toNat by omega, Char.ofNat_toNat]

/-- Reading the bytes of a text gives the text. -/
theorem utf8Text_utf8 (s : List Char) : utf8Text (utf8 s) = s := by
  induction s with
  | nil => rw [utf8, List.flatMap_nil, utf8Text]
  | cons c s ih =>
    have h : utf8 (c :: s) = utf8Char c ++ utf8 s := rfl
    rw [h, utf8Text_utf8Char, ih]

end JmsNaming.Text
