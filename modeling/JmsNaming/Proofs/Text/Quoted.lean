import JmsNaming.Text.Quoted
import Mathlib.Tactic.Common
import Mathlib.Tactic.IntervalCases

/-
Quoted text tells which text it quotes: the number in an escape is read back from its digits, a
character is read back from what is written for it, and no character begins with the quote.
-/
namespace JmsNaming.Text

/-! ## Hexadecimal digits -/

theorem hexDigit?_smallHexDigit {n : Nat} (h : n < 16) : hexDigit? (smallHexDigit n) = some n := by
  interval_cases n <;> decide

@[simp] theorem length_hexText (n width : Nat) : (hexText n width).length = width := by
  induction width generalizing n with
  | zero => rfl
  | succ width ih => simp [hexText, ih]

/-- A number is read back from its digits, if there is room for all of them. -/
theorem natOfHex?_hexText {n width : Nat} (h : n < 16 ^ width) : natOfHex? (hexText n width) = some n := by
  induction width generalizing n with
  | zero =>
    obtain rfl : n = 0 := by simpa using h
    rfl
  | succ width ih =>
    have hdiv : n / 16 < 16 ^ width := Nat.div_lt_of_lt_mul (by rwa [Nat.pow_succ, Nat.mul_comm] at h)
    have hrec := ih hdiv
    unfold natOfHex? at hrec ⊢
    rw [hexText, List.foldlM_append, hrec]
    simp only [List.foldlM_cons, List.foldlM_nil, hexDigit?_smallHexDigit (Nat.mod_lt n (by decide : 16 > 0))]
    simp [show n / 16 * 16 + n % 16 = n by omega]

theorem toNat_lt (c : Char) : c.toNat < 16 ^ 8 := by
  rcases c.valid with h | h
  · exact Nat.lt_trans h (by decide)
  · exact Nat.lt_trans h.2 (by decide)

/-! ## Characters between quotes -/

/-- Reads what stands between quotes for one character. -/
def readQuotedChar : List Char → Option (Char × List Char)
  | '\\' :: 'n' :: rest => some ('\n', rest)
  | '\\' :: 'r' :: rest => some ('\r', rest)
  | '\\' :: 't' :: rest => some ('\t', rest)
  | '\\' :: 'x' :: rest => (natOfHex? (rest.take 2)).map fun n => (Char.ofNat n, rest.drop 2)
  | '\\' :: 'u' :: rest => (natOfHex? (rest.take 4)).map fun n => (Char.ofNat n, rest.drop 4)
  | '\\' :: 'U' :: rest => (natOfHex? (rest.take 8)).map fun n => (Char.ofNat n, rest.drop 8)
  | '\\' :: c :: rest => some (c, rest)
  | c :: rest => some (c, rest)
  | [] => none

variable {q : Char}

theorem readHex_append {c : Char} (width : Nat) (h : c.toNat < 16 ^ width) (rest : List Char) :
    ((natOfHex? ((hexText c.toNat width ++ rest).take width)).map fun n =>
      (Char.ofNat n, (hexText c.toNat width ++ rest).drop width)) = some (c, rest) := by
  rw [List.take_left' (length_hexText _ _), List.drop_left' (length_hexText _ _), natOfHex?_hexText h]
  simp

/-- A character is read back from what is written for it, whatever follows. -/
theorem readQuotedChar_append (hq : q ∈ ['\'', '"']) (c : Char) (rest : List Char) :
    readQuotedChar (quotedChar q c ++ rest) = some (c, rest) := by
  unfold quotedChar
  split
  · rename_i h
    -- the quote in use is one of two, and the backslash is escaped in both cases
    have hc : c ∈ ['\'', '"', '\\'] := by
      simp only [Bool.or_eq_true, decide_eq_true_eq] at h
      rcases h with rfl | rfl
      · exact List.mem_append_left ['\\'] hq
      · decide
    simp only [List.mem_cons, List.not_mem_nil, or_false] at hc
    rcases hc with rfl | rfl | rfl <;> rfl
  · rename_i hne
    split
    · subst_vars; rfl
    split
    · subst_vars; rfl
    split
    · subst_vars; rfl
    split
    · have hc : c ≠ '\\' := by
        rintro rfl
        simp at hne
      -- a character that stands for itself is no backslash, so no other equation of the reader applies
      show readQuotedChar (c :: rest) = _
      unfold readQuotedChar
      split <;> simp_all
    split
    · exact readHex_append 2 (by assumption) rest
    split
    · exact readHex_append 4 (by assumption) rest
    · exact readHex_append 8 (toNat_lt c) rest

/-- What is written for a character does not begin with the quote. -/
theorem quotedChar_append_ne (hq : q ∈ ['\'', '"']) (c : Char) (rest rest' : List Char) :
    quotedChar q c ++ rest ≠ q :: rest' := by
  have hq' : '\\' ≠ q := by
    rintro rfl
    exact absurd hq (by decide)
  intro h
  unfold quotedChar at h
  split_ifs at h with h1 h2 h3 h4 h5
  all_goals
    simp only [List.cons_append, List.cons.injEq] at h
    first
    | exact hq' h.1
    | simp [h.1] at h1

/-- Two texts between quotes are the same if they are written in the same way. -/
theorem flatMap_quotedChar_inj (hq : q ∈ ['\'', '"']) {s t a b : List Char}
    (h : s.flatMap (quotedChar q) ++ q :: a = t.flatMap (quotedChar q) ++ q :: b) : s = t := by
  induction s generalizing t with
  | nil =>
    cases t with
    | nil => rfl
    | cons d t =>
      rw [List.flatMap_cons, List.append_assoc] at h
      exact absurd h.symm (quotedChar_append_ne hq d _ _)
  | cons c s ih =>
    cases t with
    | nil =>
      rw [List.flatMap_cons, List.append_assoc] at h
      exact absurd h (quotedChar_append_ne hq c _ _)
    | cons d t =>
      have hread := congrArg readQuotedChar h
      simp only [List.flatMap_cons, List.append_assoc, readQuotedChar_append hq, Option.some.injEq,
        Prod.mk.injEq] at hread
      rw [hread.1, ih hread.2]

theorem quoteFor_mem (s : List Char) : quoteFor s ∈ ['\'', '"'] := by
  unfold quoteFor
  split <;> decide

theorem quoted_injective : Function.Injective quoted := by
  intro s t h
  simp only [quoted, List.cons_append, List.cons.injEq] at h
  obtain ⟨hquote, hbody⟩ := h
  rw [hquote] at hbody
  exact flatMap_quotedChar_inj (quoteFor_mem t) hbody

end JmsNaming.Text
