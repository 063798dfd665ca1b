import JmsNaming.Text.Case
import Mathlib.Data.List.Basic
import Mathlib.Tactic.Common

/-
The small and the capital form of a text and words of ASCII. Besides the ASCII letters themselves, only the dotted
capital I and the sign for kelvin have an ASCII letter in their small form. So a word without the two letters is the
small form of a text exactly if the text is the word in ASCII letters of either case. A few more characters have ASCII
letters in their capital form, but none of them is in a capital form itself: it makes no difference to a word whether
capitals are taken once or twice.
-/
namespace JmsNaming.Text

variable {c d : Char}

theorem toLower_eq_self_of_le (h : 128 ≤ c.toNat) : c.toLower = c := by
  delta Char.toLower
  rw [dif_neg]
  rintro ⟨-, hz⟩
  rw [UInt32.le_iff_toNat_le] at hz
  change c.toNat ≤ 90 at hz
  omega

/-- A letter is one in either case. -/
theorem isAlpha_of_isAlpha_toLower (h : c.toLower.isAlpha = true) : c.isAlpha = true := by
  delta Char.toLower at h
  split at h
  · rename_i hcapital
    have hupper : c.isUpper = true := decide_eq_true hcapital
    change (c.isUpper || c.isLower) = true
    rw [hupper, Bool.true_or]
  · exact h

theorem toNat_gt_of_isAlpha (h : c.isAlpha = true) : 32 < c.toNat := by
  delta Char.isAlpha Char.isUpper Char.isLower at h
  simp only [Bool.or_eq_true, Bool.and_eq_true, decide_eq_true_eq, ge_iff_le, UInt32.le_iff_toNat_le] at h
  change (65 ≤ c.toNat ∧ _) ∨ (97 ≤ c.toNat ∧ _) at h
  omega

theorem toNat_ofNat_of_isValidChar {n : Nat} (h : n.isValidChar) : (Char.ofNat n).toNat = n := by
  rw [Char.ofNat, dif_pos h]
  rfl

/-! ## The tables -/

/-- What a character maps to comes from a run, from an expansion, or is the character. -/
theorem mem_mapCase {runs : List (Nat × Nat × Nat × Nat)} {expansions : List (Nat × List Nat)}
    (h : d ∈ mapCase runs expansions c) :
    (∃ r ∈ runs, (r.1 ≤ c.toNat ∧ c.toNat ≤ r.2.1) ∧ d = Char.ofNat (r.2.2.2 + (c.toNat - r.1))) ∨
      (∃ e ∈ expansions, e.1 = c.toNat ∧ ∃ n ∈ e.2, d = Char.ofNat n) ∨
      d = c ∧ mapCase runs expansions c = [c] := by
  unfold mapCase at h ⊢
  dsimp only at h ⊢
  split at h
  · rename_i r hr
    have hrange := List.find?_some hr
    simp only [Bool.and_eq_true, decide_eq_true_eq] at hrange
    exact .inl ⟨r, List.mem_of_find?_eq_some hr, hrange.1, List.mem_singleton.1 h⟩
  · split at h
    · rename_i e he
      obtain ⟨n, hn, rfl⟩ := List.mem_map.1 h
      exact .inr (.inl ⟨e, List.mem_of_find?_eq_some he, by simpa using List.find?_some he, n, hn, rfl⟩)
    · exact .inr (.inr ⟨List.mem_singleton.1 h, by simp only [*]⟩)

theorem mapCase_ne_nil {runs : List (Nat × Nat × Nat × Nat)} {expansions : List (Nat × List Nat)}
    (h : ∀ e ∈ expansions, e.2 ≠ []) : mapCase runs expansions c ≠ [] := by
  unfold mapCase
  dsimp only
  split
  · exact List.cons_ne_nil _ _
  · split
    · rename_i e he
      exact fun hnil => h e (List.mem_of_find?_eq_some he) (List.map_eq_nil_iff.1 hnil)
    · exact List.cons_ne_nil _ _

/-- The runs for small forms start in ASCII, lead from the sign for kelvin to its letter, or lead beyond ASCII. -/
theorem lowerRuns_targets : ∀ r ∈ lowerRuns, r.2.1 < 128 ∨ r = (0x212a, 0x212a, 1, 0x6b) ∨
    128 ≤ r.2.2.2 ∧ (r.2.2.2 + (r.2.1 - r.1) < 0xd800 ∨ 0xe000 ≤ r.2.2.2 ∧ r.2.2.2 + (r.2.1 - r.1) < 0x110000) := by
  decide +kernel

theorem lowerExpansions_targets : ∀ e ∈ lowerExpansions, e.2 ≠ [] ∧ ∀ n ∈ e.2, n = 0x69 ∨ 128 ≤ n ∧ n < 0xd800 := by
  decide

/-- Beyond ASCII, small forms have no ASCII character but these two letters. -/
theorem le_of_mem_lowerChar (hc : 128 ≤ c.toNat) (hd : d ∈ lowerChar c) : d = 'i' ∨ d = 'k' ∨ 128 ≤ d.toNat := by
  rw [lowerChar, if_neg (by omega)] at hd
  rcases mem_mapCase hd with ⟨r, hr, hrange, rfl⟩ | ⟨e, he, -, n, hn, rfl⟩ | ⟨rfl, -⟩
  · rcases lowerRuns_targets r hr with hlow | rfl | ⟨hbase, hvalid⟩
    · omega
    · right; left
      dsimp only at hrange
      rw [show c.toNat = 0x212a by omega]
      rfl
    · right; right
      rw [toNat_ofNat_of_isValidChar (by rcases hvalid with h | h <;> [left; right] <;> omega)]
      omega
  · rcases (lowerExpansions_targets e he).2 n hn with rfl | ⟨hle, hlt⟩
    · exact .inl rfl
    · right; right
      rwa [toNat_ofNat_of_isValidChar (.inl hlt)]
  · exact .inr (.inr hc)

/-- A small form is never empty. -/
theorem lowerChar_ne_nil : lowerChar c ≠ [] := by
  unfold lowerChar
  split
  · exact List.cons_ne_nil _ _
  · exact mapCase_ne_nil fun e he => (lowerExpansions_targets e he).1

/-! ## Words of ASCII -/

/-- The letters of a word that no character beyond ASCII turns into. -/
def IsPlainWord (w : List Char) : Prop :=
  ∀ d ∈ w, d.toNat < 128 ∧ d ≠ 'i' ∧ d ≠ 'k'

theorem lowerFrom_eq_iff {seen s w : List Char} (hw : IsPlainWord w) :
    lowerFrom seen s = w ↔ s.map Char.toLower = w := by
  induction s generalizing seen w with
  | nil => rfl
  | cons c cs ih =>
    -- the character's small form, whether it is a sigma or not
    obtain ⟨form, hform, heq⟩ : ∃ form, lowerFrom seen (c :: cs) = form ++ lowerFrom (c :: seen) cs ∧
        (c.toNat < 128 ∧ form = [c.toLower] ∨
          128 ≤ c.toNat ∧ form ≠ [] ∧ ∀ d ∈ form, d = 'i' ∨ d = 'k' ∨ 128 ≤ d.toNat) := by
      refine ⟨_, rfl, ?_⟩
      by_cases hsigma : c = 'Σ'
      · rw [if_pos hsigma, hsigma]
        right
        refine ⟨by decide, by split <;> exact List.cons_ne_nil _ _, fun d hd => .inr (.inr ?_)⟩
        split at hd <;> rw [List.mem_singleton.1 hd] <;> decide
      · rw [if_neg hsigma]
        by_cases hc : c.toNat < 128
        · exact .inl ⟨hc, if_pos hc⟩
        · exact .inr ⟨Nat.le_of_not_lt hc, lowerChar_ne_nil, fun d hd => le_of_mem_lowerChar (Nat.le_of_not_lt hc) hd⟩
    rw [hform, List.map_cons]
    rcases heq with ⟨-, rfl⟩ | ⟨hc, hne, hbeyond⟩
    · cases w with
      | nil => simp
      | cons d w =>
        have hrest : IsPlainWord w := fun x hx => hw x (List.mem_cons_of_mem _ hx)
        simp [ih hrest]
    · -- neither side begins with a letter of such a word
      obtain ⟨x, xs, rfl⟩ := List.exists_cons_of_ne_nil hne
      refine iff_of_false (fun h => ?_) (fun h => ?_)
      · obtain ⟨hlt, hi, hk⟩ := hw x (h ▸ List.mem_cons_self)
        rcases hbeyond x List.mem_cons_self with hx | hx | hx
        · exact hi hx
        · exact hk hx
        · omega
      · have := (hw c.toLower (h ▸ List.mem_cons_self)).1
        rw [toLower_eq_self_of_le hc] at this
        omega

/-- A word without `i` and `k` is the small form of a text exactly if it is the text with its ASCII letters made
small. -/
theorem lower_eq_iff {s w : List Char} (hw : IsPlainWord w) : lower s = w ↔ s.map Char.toLower = w :=
  lowerFrom_eq_iff hw

/-! ## Capitals -/

/-- Beyond ASCII, the code points with an ASCII letter in their capital form. -/
def mixedRanges : List (Nat × Nat) :=
  [(0xdf, 0xdf), (0x131, 0x131), (0x149, 0x149), (0x17f, 0x17f), (0x1f0, 0x1f0), (0x1e96, 0x1e9a), (0xfb00, 0xfb06)]

/-- The runs for capitals start in ASCII, lead from one of these code points to its letter, or lead beyond ASCII and past
these code points. -/
theorem upperRuns_targets : ∀ r ∈ upperRuns, r.2.1 < 128 ∨
    r.1 = r.2.1 ∧ inRanges mixedRanges r.1 = true ∧ (r.2.2.2 = 0x49 ∨ r.2.2.2 = 0x53) ∨
    (128 ≤ r.2.2.2 ∧ (r.2.2.2 + (r.2.1 - r.1) < 0xd800 ∨ 0xe000 ≤ r.2.2.2 ∧ r.2.2.2 + (r.2.1 - r.1) < 0x110000)) ∧
      ∀ p ∈ mixedRanges, r.2.2.2 + (r.2.1 - r.1) < p.1 ∨ p.2 < r.2.2.2 := by
  decide +kernel

theorem upperExpansions_targets : ∀ e ∈ upperExpansions, e.2 ≠ [] ∧ ∀ n ∈ e.2,
    0x41 ≤ n ∧ n ≤ 0x5a ∧ inRanges mixedRanges e.1 = true ∨
      128 ≤ n ∧ n < 0xd800 ∧ inRanges mixedRanges n = false := by
  decide

theorem upperChar_ne_nil : upperChar c ≠ [] := by
  unfold upperChar
  split
  · exact List.cons_ne_nil _ _
  · exact mapCase_ne_nil fun e he => (upperExpansions_targets e he).1

theorem le_of_mem_upperChar (hc : 128 ≤ c.toNat) (hmixed : inRanges mixedRanges c.toNat = false) (hd : d ∈ upperChar c) :
    128 ≤ d.toNat := by
  rw [upperChar, if_neg (by omega)] at hd
  rcases mem_mapCase hd with ⟨r, hr, hrange, rfl⟩ | ⟨e, he, hn, n, hmem, rfl⟩ | ⟨rfl, -⟩
  · rcases upperRuns_targets r hr with hlow | ⟨heq, hin, -⟩ | ⟨⟨hbase, hvalid⟩, -⟩
    · omega
    · rw [show c.toNat = r.1 by omega, hin] at hmixed
      cases hmixed
    · rw [toNat_ofNat_of_isValidChar (by rcases hvalid with h | h <;> [left; right] <;> omega)]
      omega
  · rcases (upperExpansions_targets e he).2 n hmem with ⟨-, -, hin⟩ | ⟨hle, hlt, -⟩
    · rw [← hn, hin] at hmixed
      cases hmixed
    · rwa [toNat_ofNat_of_isValidChar (.inl hlt)]
  · exact hc

/-- An ASCII character that is no small letter. -/
def IsCapital (c : Char) : Prop :=
  c.toNat < 128 ∧ c.toUpper = c

theorem isCapital_toUpper (hc : c.toNat < 128) : IsCapital c.toUpper := by
  have hall : ∀ n < 128, IsCapital (Char.ofNat n).toUpper := by
    unfold IsCapital
    decide
  rw [← Char.ofNat_toNat c]
  exact hall c.toNat hc

/-- A character of a capital form is an ASCII character that is no small letter, or has no ASCII character in its own
capital form. -/
theorem mem_upperChar (hd : d ∈ upperChar c) :
    IsCapital d ∨ 128 ≤ d.toNat ∧ ∀ x ∈ upperChar d, 128 ≤ x.toNat := by
  by_cases hc : c.toNat < 128
  · rw [upperChar, if_pos hc, List.mem_singleton] at hd
    exact .inl (hd ▸ isCapital_toUpper hc)
  · rw [upperChar, if_neg hc] at hd
    rcases mem_mapCase hd with ⟨r, hr, hrange, rfl⟩ | ⟨e, he, -, n, hmem, rfl⟩ | ⟨rfl, hself⟩
    · rcases upperRuns_targets r hr with hlow | ⟨heq, -, hletter⟩ | ⟨⟨hbase, hvalid⟩, happart⟩
      · omega
      · rw [show c.toNat - r.1 = 0 by omega, Nat.add_zero]
        rcases hletter with hletter | hletter <;> rw [hletter] <;> exact .inl ⟨by decide, by decide⟩
      · right
        have hnat : (Char.ofNat (r.2.2.2 + (c.toNat - r.1))).toNat = r.2.2.2 + (c.toNat - r.1) :=
          toNat_ofNat_of_isValidChar (by rcases hvalid with h | h <;> [left; right] <;> omega)
        refine ⟨by omega, fun x hx => le_of_mem_upperChar (by omega) ?_ hx⟩
        rw [hnat, inRanges, List.any_eq_false]
        intro p hp
        have := happart p hp
        simp only [Bool.and_eq_true, decide_eq_true_eq]
        omega
    · rcases (upperExpansions_targets e he).2 n hmem with ⟨hle, hlt, -⟩ | ⟨hle, hlt, hmixed⟩
      · have hall : ∀ n < 0x5b, 0x41 ≤ n → IsCapital (Char.ofNat n) := by
          unfold IsCapital
          decide
        exact .inl (hall n (by omega) hle)
      · right
        have hnat := toNat_ofNat_of_isValidChar (.inl hlt)
        rw [← hnat] at hle hmixed
        exact ⟨hle, fun x hx => le_of_mem_upperChar hle hmixed hx⟩
    · right
      refine ⟨by omega, fun x hx => ?_⟩
      rw [upperChar, if_neg hc, hself, List.mem_singleton] at hx
      rw [hx]
      omega

/-- Taken twice, the capital form is a word of ASCII exactly if it is taken once. -/
theorem upper_upper_eq_iff {s w : List Char} (hw : ∀ d ∈ w, d.toNat < 128) : upper (upper s) = w ↔ upper s = w := by
  have hmem : ∀ d ∈ upper s, IsCapital d ∨ 128 ≤ d.toNat ∧ ∀ x ∈ upperChar d, 128 ≤ x.toNat := by
    intro d hd
    obtain ⟨c, -, hd⟩ := List.mem_flatMap.1 hd
    exact mem_upperChar hd
  by_cases hascii : ∀ d ∈ upper s, d.toNat < 128
  · have hself : (upper s).flatMap upperChar = (upper s).flatMap fun d => [d] := by
      refine List.flatMap_congr fun d hd => ?_
      rcases hmem d hd with ⟨hlt, hupper⟩ | ⟨hle, -⟩
      · rw [upperChar, if_pos hlt, hupper]
      · have := hascii d hd
        omega
    rw [upper, hself, List.flatMap_singleton']
  · -- a character beyond ASCII stands in the capital form, whether it is taken once or twice
    simp only [not_forall, Nat.not_lt] at hascii
    obtain ⟨d, hd, hle⟩ := hascii
    obtain ⟨x, hx⟩ := List.exists_mem_of_ne_nil _ (upperChar_ne_nil (c := d))
    have hxle : 128 ≤ x.toNat := by
      rcases hmem d hd with ⟨hlt, -⟩ | ⟨-, hall⟩
      · omega
      · exact hall x hx
    refine iff_of_false (fun h => ?_) (fun h => ?_)
    · have := hw x (h ▸ List.mem_flatMap.2 ⟨d, hd, hx⟩)
      omega
    · have := hw d (h ▸ hd)
      omega

end JmsNaming.Text
