import JmsNaming.Proofs.Text.Utf8
import JmsNaming.Text.Percent
import Mathlib.Tactic.IntervalCases

/-
Percent coding is an exact encoding of every text, and a coded text has no character but the
unreserved ones and the percent sign, so that no delimiter of a URI stands in it.
-/
namespace JmsNaming.Text

/-! ## Characters -/

theorem hexDigit?_capitalHexDigit {n : Nat} (h : n < 16) : hexDigit? (capitalHexDigit n) = some n := by
  interval_cases n <;> decide

theorem isUnreserved_capitalHexDigit {n : Nat} (h : n < 16) : isUnreserved (capitalHexDigit n) = true := by
  interval_cases n <;> decide

/-- A character of a percent-coded text. -/
def isPercentCoded (c : Char) : Bool :=
  isUnreserved c || c == '%'

theorem toNat_ofNat_byte (b : UInt8) : (Char.ofNat b.toNat).toNat = b.toNat := by
  have hb := b.toNat_lt
  have hv : b.toNat.isValidChar := Or.inl (by omega)
  rw [Char.ofNat, dif_pos hv]
  rfl

theorem isPercentCoded_of_mem_percentByte {b : UInt8} {c : Char} (h : c ∈ percentByte b) :
    isPercentCoded c = true := by
  have hb := b.toNat_lt
  unfold percentByte at h
  simp only at h
  split at h
  · rename_i hu
    obtain rfl := List.mem_singleton.1 h
    simp [isPercentCoded, hu]
  · simp only [List.mem_cons, List.not_mem_nil, or_false] at h
    rcases h with rfl | rfl | rfl
    · decide
    · simp [isPercentCoded, isUnreserved_capitalHexDigit (show b.toNat / 16 < 16 by omega)]
    · simp [isPercentCoded, isUnreserved_capitalHexDigit (show b.toNat % 16 < 16 by omega)]

theorem isPercentCoded_of_mem {s : List Char} {c : Char} (h : c ∈ percentEncode s) : isPercentCoded c = true := by
  obtain ⟨b, -, hc⟩ := List.mem_flatMap.1 h
  exact isPercentCoded_of_mem_percentByte hc

/-- A character that is no part of coded texts stands in none. -/
theorem not_mem_percentEncode {s : List Char} {c : Char} (h : isPercentCoded c = false) :
    c ∉ percentEncode s := by
  intro hc
  rw [isPercentCoded_of_mem hc] at h
  cases h

theorem toNat_lt_of_isUnreserved {c : Char} (h : isUnreserved c = true) : c.toNat < 128 := by
  delta isUnreserved Char.isAlphanum Char.isAlpha Char.isUpper Char.isLower Char.isDigit at h
  simp only [Bool.or_eq_true, Bool.and_eq_true, decide_eq_true_eq, UInt32.le_iff_toNat_le, ge_iff_le] at h
  change ((((((65 ≤ c.toNat ∧ c.toNat ≤ 90) ∨ (97 ≤ c.toNat ∧ c.toNat ≤ 122)) ∨
    (48 ≤ c.toNat ∧ c.toNat ≤ 57)) ∨ c = '_') ∨ c = '.') ∨ c = '-') ∨ c = '~' at h
  rcases h with ((((h | rfl) | rfl) | rfl) | rfl)
  · omega
  all_goals decide

theorem toNat_lt_of_isPercentCoded {c : Char} (h : isPercentCoded c = true) : c.toNat < 128 := by
  rcases Bool.or_eq_true _ _ |>.mp h with h | h
  · exact toNat_lt_of_isUnreserved h
  · obtain rfl := beq_iff_eq.1 h
    decide

/-! ## Reading what was written -/

theorem percentBytes_cons {c : Char} (h : c ≠ '%') (rest : List Char) :
    percentBytes (c :: rest) = utf8Char c ++ percentBytes rest := by
  rw [percentBytes]
  rintro a b r rfl
  exact absurd rfl h

theorem percentBytes_percentByte (b : UInt8) (rest : List Char) :
    percentBytes (percentByte b ++ rest) = b :: percentBytes rest := by
  have hb := b.toNat_lt
  unfold percentByte
  simp only
  split
  · rename_i hu
    have hlt := toNat_lt_of_isUnreserved hu
    have hne : Char.ofNat b.toNat ≠ '%' := fun h => by rw [h] at hu; cases hu
    rw [List.cons_append, List.nil_append, percentBytes_cons hne]
    rw [toNat_ofNat_byte] at hlt
    simp [utf8Char, toNat_ofNat_byte, hlt]
  · simp only [List.cons_append, List.nil_append]
    rw [percentBytes, hexDigit?_capitalHexDigit (by omega), hexDigit?_capitalHexDigit (by omega)]
    simp only
    rw [show b.toNat / 16 * 16 + b.toNat % 16 = b.toNat by omega, UInt8.ofNat_toNat]

theorem percentBytes_percentEncode (s : List Char) : percentBytes (percentEncode s) = utf8 s := by
  unfold percentEncode
  induction utf8 s with
  | nil => rw [List.flatMap_nil, percentBytes]
  | cons b bs ih => rw [List.flatMap_cons, percentBytes_percentByte, ih]

/-- Reading the percent-coded form of a text gives the text. -/
theorem percentDecode_percentEncode (s : List Char) : percentDecode (percentEncode s) = s := by
  rw [percentDecode, percentBytes_percentEncode, utf8Text_utf8]

end JmsNaming.Text
