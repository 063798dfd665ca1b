import JmsNaming.Number.Reading
import Mathlib.Tactic.Common

/-
The decimals of properties: an optional sign and 1 to 4300 ASCII digits, whose value lies within the
bounds of a type, are read as that value, and no other text is read as a number. The digits of a
number read back as the number.
-/
namespace JmsNaming

/-! ## Digits -/

theorem Text.natOfDigits_eq (s : List Char) (acc : Nat) : natOfDigits acc s = Nat.ofDigitChars 10 s acc := by
  induction s generalizing acc with
  | nil => exact Nat.ofDigitChars_nil.symm
  | cons c s ih =>
    rw [Nat.ofDigitChars_cons, Nat.mul_comm]
    exact ih _

theorem Text.natOfDigits_toDigits (n : Nat) : natOfDigits 0 (Nat.toDigits 10 n) = n := by
  rw [natOfDigits_eq, Nat.ofDigitChars_ten_toDigits]

theorem toList_toString_natCast (n : Nat) : (toString (n : Int)).toList = Nat.toDigits 10 n := by
  rw [Int.toString_eq_repr, Int.repr_eq_if, if_pos (Int.natCast_nonneg n), Int.toNat_natCast, Nat.toList_repr]

namespace Number

/-! ## The form of a decimal -/

/-- The number that an optional sign and digits denote. -/
def decimalValue (text : String) : Int :=
  let (negative, digits) := unsigned text.toList
  if negative then -(Nat.ofDigitChars 10 digits 0 : Int) else Nat.ofDigitChars 10 digits 0

/-- An optional sign and 1 to 4300 ASCII digits. -/
def IsSignedDigits (s : List Char) : Prop :=
  ∃ sign digits, s = sign ++ digits ∧ sign ∈ [[], ['+'], ['-']] ∧ 1 ≤ digits.length ∧ digits.length ≤ 4300 ∧
    ∀ c ∈ digits, c.isDigit = true

/-- A decimal whose value lies from `least` to `greatest`. -/
structure IsDecimal (least greatest : Int) (text : String) : Prop where
  form : IsSignedDigits text.toList
  least_le : least ≤ decimalValue text
  le_greatest : decimalValue text ≤ greatest

theorem unsigned_of_isDigit {digits : List Char} (h : ∀ c ∈ digits, c.isDigit = true) :
    unsigned digits = (false, digits) := by
  unfold unsigned
  split
  · exact absurd (h _ List.mem_cons_self) (by decide)
  · exact absurd (h _ List.mem_cons_self) (by decide)
  · rfl

theorem exists_sign (s : List Char) :
    ∃ sign, sign ∈ [[], ['+'], ['-']] ∧ s = sign ++ (unsigned s).2 := by
  unfold unsigned
  split
  · exact ⟨['-'], by simp, rfl⟩
  · exact ⟨['+'], by simp, rfl⟩
  · exact ⟨[], by simp, rfl⟩

theorem isSignedDigits_iff (s : List Char) :
    IsSignedDigits s ↔ 1 ≤ (unsigned s).2.length ∧ (unsigned s).2.length ≤ maxDigits ∧
      (unsigned s).2.all Char.isDigit = true := by
  constructor
  · rintro ⟨sign, digits, rfl, hs, h1, h2, hd⟩
    have hu : (unsigned (sign ++ digits)).2 = digits := by
      simp only [List.mem_cons, List.not_mem_nil, or_false] at hs
      rcases hs with rfl | rfl | rfl
      · rw [List.nil_append, unsigned_of_isDigit hd]
      · rfl
      · rfl
    rw [hu]
    exact ⟨h1, h2, List.all_eq_true.2 hd⟩
  · rintro ⟨h1, h2, hd⟩
    obtain ⟨sign, hs, he⟩ := exists_sign s
    exact ⟨sign, _, he, hs, h1, h2, List.all_eq_true.1 hd⟩

/-! ## Reading -/

/-- A text is read as the value it denotes if it is a decimal within the bounds, and as no number
otherwise. -/
theorem readDecimal_eq_ok_iff {least greatest : Int} {text : String} {n : Int} :
    readDecimal least greatest text = .ok n ↔ IsDecimal least greatest text ∧ n = decimalValue text := by
  have hv : (if (unsigned text.toList).1 then -(Text.natOfDigits 0 (unsigned text.toList).2 : Int)
      else Text.natOfDigits 0 (unsigned text.toList).2) = decimalValue text := by
    simp [decimalValue, Text.natOfDigits_eq]
  unfold readDecimal
  simp only [hv]
  constructor
  · intro h
    split_ifs at h with h1 h2 h3
    cases h
    simp only [Bool.or_eq_true, Bool.not_eq_true', not_or, List.isEmpty_iff, Bool.not_eq_false] at h1
    simp only [Bool.and_eq_true, decide_eq_true_eq] at h3
    exact ⟨⟨(isSignedDigits_iff _).2 ⟨List.length_pos_iff.2 h1.1, Nat.not_lt.1 h2, h1.2⟩, h3.1, h3.2⟩, rfl⟩
  · rintro ⟨⟨hf, hl, hg⟩, rfl⟩
    obtain ⟨h1, h2, h3⟩ := (isSignedDigits_iff _).1 hf
    have hne : (unsigned text.toList).2.isEmpty = false := by
      rw [List.isEmpty_eq_false_iff]
      exact List.length_pos_iff.1 h1
    simp [hne, h3, h2, hl, hg]

/-! ## The number that a text denotes -/

/-- One to 4300 ASCII digits. -/
structure AreDigits (s : List Char) : Prop where
  nonempty : 1 ≤ s.length
  within : s.length ≤ 4300
  digits : ∀ c ∈ s, c.isDigit = true

/-- Digits denote their decimal value, and a sign in front of them may turn it round. -/
inductive Denotes : List Char → Int → Prop
  | bare {digits : List Char} : AreDigits digits → Denotes digits (Nat.ofDigitChars 10 digits 0)
  | plus {digits : List Char} : AreDigits digits → Denotes ('+' :: digits) (Nat.ofDigitChars 10 digits 0)
  | minus {digits : List Char} : AreDigits digits → Denotes ('-' :: digits) (-(Nat.ofDigitChars 10 digits 0 : Int))

theorem denotes_iff {text : String} {n : Int} :
    Denotes text.toList n ↔ IsSignedDigits text.toList ∧ n = decimalValue text := by
  unfold decimalValue
  generalize text.toList = s
  constructor
  · rintro (⟨⟨h1, h2, hd⟩⟩ | ⟨⟨h1, h2, hd⟩⟩ | ⟨⟨h1, h2, hd⟩⟩)
    · rw [unsigned_of_isDigit hd]
      exact ⟨⟨[], s, rfl, by simp, h1, h2, hd⟩, rfl⟩
    · exact ⟨⟨['+'], _, rfl, by simp, h1, h2, hd⟩, rfl⟩
    · exact ⟨⟨['-'], _, rfl, by simp, h1, h2, hd⟩, rfl⟩
  · rintro ⟨⟨sign, digits, rfl, hsign, h1, h2, hd⟩, rfl⟩
    have hdigits : AreDigits digits := ⟨h1, h2, hd⟩
    simp only [List.mem_cons, List.not_mem_nil, or_false] at hsign
    rcases hsign with rfl | rfl | rfl
    · rw [List.nil_append, unsigned_of_isDigit hd]
      exact .bare hdigits
    · exact .plus hdigits
    · exact .minus hdigits

/-- A text is read as the number that it denotes, if the number is within the bounds. -/
theorem readDecimal_eq_ok_iff_denotes {least greatest : Int} {text : String} {n : Int} :
    readDecimal least greatest text = .ok n ↔ Denotes text.toList n ∧ least ≤ n ∧ n ≤ greatest := by
  rw [readDecimal_eq_ok_iff, denotes_iff]
  constructor
  · rintro ⟨⟨hform, hl, hg⟩, rfl⟩
    exact ⟨⟨hform, rfl⟩, hl, hg⟩
  · rintro ⟨⟨hform, rfl⟩, hl, hg⟩
    exact ⟨⟨hform, hl, hg⟩, rfl⟩

/-! ## The texts of a number -/

/-- The decimal text of a number, with a plus sign where one is wanted and with zeros in front. -/
def decimalText (n : Int) (plus : Bool) (zeros : Nat) : List Char :=
  (if n < 0 then ['-'] else if plus then ['+'] else []) ++ List.replicate zeros '0' ++ Nat.toDigits 10 n.natAbs

theorem toList_toString_int (n : Int) : (toString n).toList = decimalText n false 0 := by
  unfold decimalText
  rw [Int.toString_eq_repr, Int.repr_eq_if]
  by_cases hn : 0 ≤ n
  · rw [if_pos hn, Nat.toList_repr, if_neg (by omega), show n.toNat = n.natAbs by omega]
    rfl
  · rw [if_neg hn, String.toList_append, Nat.toList_repr, if_pos (by omega), show (-n).toNat = n.natAbs by omega]
    rfl

/-- All decimal texts of a number denote it, up to the limit of digits. -/
theorem denotes_decimalText {n : Int} {plus : Bool} {zeros : Nat}
    (h : zeros + (Nat.toDigits 10 n.natAbs).length ≤ 4300) : Denotes (decimalText n plus zeros) n := by
  have hvalue : Nat.ofDigitChars 10 (List.replicate zeros '0' ++ Nat.toDigits 10 n.natAbs) 0 = n.natAbs := by
    rw [Nat.ofDigitChars_append, Nat.ofDigitChars_replicate_zero, Nat.mul_zero, Nat.ofDigitChars_ten_toDigits]
  have hdigits : AreDigits (List.replicate zeros '0' ++ Nat.toDigits 10 n.natAbs) := by
    have hpos : 0 < (Nat.toDigits 10 n.natAbs).length := List.length_pos_iff.2 Nat.toDigits_ne_nil
    refine ⟨by simp; omega, by simpa using h, fun c hc => ?_⟩
    rcases List.mem_append.1 hc with hc | hc
    · rw [List.eq_of_mem_replicate hc]
      rfl
    · exact Nat.isDigit_of_mem_toDigits (by decide) (by decide) hc
  unfold decimalText
  rw [List.append_assoc]
  by_cases hn : n < 0
  · rw [if_pos hn]
    have hd := Denotes.minus hdigits
    rwa [hvalue, show -(n.natAbs : Int) = n by omega] at hd
  · rw [if_neg hn]
    have heq : (n.natAbs : Int) = n := by omega
    cases plus with
    | false =>
      have hd := Denotes.bare hdigits
      rwa [hvalue, heq] at hd
    | true =>
      have hd := Denotes.plus hdigits
      rwa [hvalue, heq] at hd

end Number

end JmsNaming
