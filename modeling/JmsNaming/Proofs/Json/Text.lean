import JmsNaming.Json.Read
import JmsNaming.Json.Write
import JmsNaming.Proofs.Text.Quoted

/-
A text that is written as JSON is read back as the text, whatever follows it: so the JSON of two
values that hold texts is the same only if the texts are.
-/
namespace JmsNaming.Json

open Text

variable {n : Nat} {c : Char} {seen rest : List Char} {fuel : Nat}

/-! ## Escapes -/

theorem readUnit?_hexText (h : n < 0x10000) : readUnit? (hexText n 4 ++ rest) = some (n, rest) := by
  have hd : ∃ d₁ d₂ d₃ d₄, hexText n 4 = [d₁, d₂, d₃, d₄] := ⟨_, _, _, _, rfl⟩
  obtain ⟨d₁, d₂, d₃, d₄, hd⟩ := hd
  have hn : natOfHex? [d₁, d₂, d₃, d₄] = some n := by
    rw [← hd]
    exact natOfHex?_hexText h
  rw [hd]
  simp [readUnit?, hn]

theorem readEscape?_unit (h : c.toNat < 0x10000) : readEscape? (hexText c.toNat 4 ++ rest) = some (c, rest) := by
  have hv : c.toNat < 0xd800 ∨ 0xdfff < c.toNat := by
    rcases c.valid with hv | hv
    · exact .inl hv
    · exact .inr hv.1
  have hhigh : isHighUnit c.toNat = false := by simp [isHighUnit]; omega
  have hlow : isLowUnit c.toNat = false := by simp [isLowUnit]; omega
  simp [readEscape?, readUnit?_hexText h, hhigh, hlow]

/-- Two units that go together are read as one character. -/
theorem readEscape?_units {high low : Nat} (hh : isHighUnit high = true) (hl : isLowUnit low = true) :
    readEscape? (hexText high 4 ++ (unitEscape low ++ rest)) = some (paired high low, rest) := by
  have hh' : high < 0x10000 := by simp [isHighUnit] at hh; omega
  have hl' : low < 0x10000 := by simp [isLowUnit] at hl; omega
  unfold readEscape?
  rw [readUnit?_hexText hh']
  simp only [Option.bind_eq_bind, Option.bind_some, hh, if_true, unitEscape, List.cons_append]
  rw [readUnit?_hexText hl']
  simp [hl]

theorem paired_units (n : Nat) : paired (0xd800 + n / 1024) (0xdc00 + n % 1024) = Char.ofNat (0x10000 + n) := by
  rw [paired, Nat.add_sub_cancel_left, Nat.add_sub_cancel_left, Nat.add_assoc, Nat.div_add_mod']

/-- The units of a character beyond the first 65536 are read as the character. -/
theorem readEscape?_pair (h : 0x10000 ≤ c.toNat) (rest : List Char) :
    readEscape? (hexText (0xd800 + (c.toNat - 0x10000) / 1024) 4 ++
      (unitEscape (0xdc00 + (c.toNat - 0x10000) % 1024) ++ rest)) = some (c, rest) := by
  have hv : c.toNat < 0x110000 := by
    rcases c.valid with hv | hv
    · exact Nat.lt_trans hv (by decide)
    · exact hv.2
  have hhigh : isHighUnit (0xd800 + (c.toNat - 0x10000) / 1024) = true := by simp [isHighUnit]; omega
  have hlow : isLowUnit (0xdc00 + (c.toNat - 0x10000) % 1024) = true := by simp [isLowUnit]; omega
  rw [readEscape?_units hhigh hlow, paired_units, Nat.add_sub_cancel' h, Char.ofNat_toNat]

/-! ## Texts -/

/-- What is written for a character is read as the character. -/
theorem readText?_writeChar : readText? seen (fuel + 1) (writeChar c ++ rest) = readText? (c :: seen) fuel rest := by
  unfold writeChar
  -- seven characters have an escape of their own; the others are themselves, one unit or a pair of units
  split
  · subst_vars; rfl
  split
  · subst_vars; rfl
  split
  · subst_vars; rfl
  split
  · subst_vars; rfl
  split
  · subst_vars; rfl
  split
  · subst_vars; rfl
  split
  · subst_vars; rfl
  split
  · show readText? seen (fuel + 1) (c :: rest) = _
    rw [readText?.eq_def]
    split <;> simp_all
  split
  · rename_i h
    show readText? seen (fuel + 1) ('\\' :: 'u' :: (hexText c.toNat 4 ++ rest)) = _
    simp [readText?, readEscape?_unit h]
  · rename_i h
    have he := readEscape?_pair (Nat.not_lt.1 h) rest
    simp only [unitEscape, List.cons_append, List.append_assoc] at he ⊢
    simp [readText?, he]

/-- A written text is read back up to its closing quote. -/
theorem readText?_flatMap (seen rest : List Char) {s : List Char} (h : s.length < fuel) :
    readText? seen fuel (s.flatMap writeChar ++ '"' :: rest) = some (String.ofList (seen.reverse ++ s), rest) := by
  induction s generalizing seen fuel with
  | nil =>
    cases fuel with
    | zero => cases h
    | succ fuel => simp [readText?]
  | cons c s ih =>
    cases fuel with
    | zero => cases h
    | succ fuel =>
      rw [List.flatMap_cons, List.append_assoc, readText?_writeChar, ih _ (by simpa using h)]
      simp

/-- Written texts are the same, also with something behind them, only for the same texts. -/
theorem writeText_append_inj {s t a b : List Char} (h : writeText s ++ a = writeText t ++ b) : s = t ∧ a = b := by
  simp only [writeText, List.cons_append, List.append_assoc, List.nil_append, List.cons.injEq, true_and] at h
  -- the same reader, with fuel enough for both texts, returns each of them with what follows it
  have hs := readText?_flatMap [] a (show s.length < s.length + t.length + 1 by omega)
  have ht := readText?_flatMap [] b (show t.length < s.length + t.length + 1 by omega)
  rw [h, ht] at hs
  simp only [List.reverse_nil, List.nil_append, Option.some.injEq, Prod.mk.injEq] at hs
  exact ⟨(String.ofList_injective hs.1).symm, hs.2.symm⟩

/-! ## Lists of texts -/

variable {layout : Layout} {us vs : List String} {a b : List Char}

/-- What closes a list does not begin like what goes on with it. -/
theorem between_append_ne_stop : layout.between ++ a ≠ layout.stop ++ ']' :: b := by
  cases layout with
  | line => simp [Layout.between, Layout.stop]
  | indented depth => simp [Layout.between, Layout.stop, newLine]

theorem writeItems_texts_inj (h : writeItems layout (us.map .text) ++ (layout.stop ++ ']' :: a) =
    writeItems layout (vs.map .text) ++ (layout.stop ++ ']' :: b)) : us = vs := by
  induction us generalizing vs with
  | nil =>
    cases vs with
    | nil => rfl
    | cons v vs =>
      simp only [List.map_cons, List.map_nil, writeItems, List.append_assoc, List.nil_append] at h
      exact absurd h.symm between_append_ne_stop
  | cons u us ih =>
    cases vs with
    | nil =>
      simp only [List.map_cons, List.map_nil, writeItems, List.append_assoc, List.nil_append] at h
      exact absurd h between_append_ne_stop
    | cons v vs =>
      simp only [List.map_cons, writeItems, write, writeScalar, List.append_assoc, List.append_cancel_left_eq] at h
      obtain ⟨hu, hrest⟩ := writeText_append_inj h
      rw [String.toList_injective hu, ih hrest]

/-- Lists of texts are written in the same way, also with something behind them, only if they are the
same. -/
theorem write_texts_append_inj (h : write layout (.list (us.map .text)) ++ a = write layout (.list (vs.map .text)) ++ b) :
    us = vs := by
  have hstart : ∀ s a b, ['[', ']'] ++ a ≠ '[' :: layout.start ++ writeText s ++ b := by
    intro s a b
    cases layout with
    | line => simp [Layout.start, writeText]
    | indented depth => simp [Layout.start, newLine]
  cases us with
  | nil =>
    cases vs with
    | nil => rfl
    | cons v vs =>
      simp only [List.map_cons, List.map_nil, write, writeScalar, List.append_assoc] at h
      exact absurd h (by simpa using hstart v.toList a _)
  | cons u us =>
    cases vs with
    | nil =>
      simp only [List.map_cons, List.map_nil, write, writeScalar, List.append_assoc] at h
      exact absurd h.symm (by simpa using hstart u.toList b _)
    | cons v vs =>
      simp only [List.map_cons, write, writeScalar, List.append_assoc, List.cons_append, List.cons.injEq, true_and,
        List.append_cancel_left_eq, List.nil_append] at h
      obtain ⟨hu, hrest⟩ := writeText_append_inj h
      rw [String.toList_injective hu, writeItems_texts_inj hrest]

/-! ## Objects with a list of texts -/

/-- The entries of an object with a list of texts under a key. -/
def withTexts (k : Scalar) (us : List String) (entries : List (Scalar × Value)) : List (Scalar × Value) :=
  entries.map fun e => if e.1 = k then (k, .list (us.map .text)) else e

variable {k : Scalar} {entries : List (Scalar × Value)}

theorem writeEntries_withTexts_inj (hk : k ∈ entries.map (·.1))
    (h : writeEntries layout (withTexts k us entries) ++ a = writeEntries layout (withTexts k vs entries) ++ b) :
    us = vs := by
  induction entries with
  | nil => cases hk
  | cons e es ih =>
    by_cases he : e.1 = k
    · simp only [withTexts, List.map_cons, if_pos he, writeEntries, List.append_assoc, List.append_cancel_left_eq,
        List.cons_append, List.cons.injEq, true_and] at h
      exact write_texts_append_inj h
    · simp only [withTexts, List.map_cons, if_neg he, writeEntries, List.append_assoc, List.append_cancel_left_eq,
        List.cons_append, List.cons.injEq, true_and] at h
      refine ih ?_ h
      exact (List.mem_cons.1 hk).resolve_left (Ne.symm he)

/-- Objects that agree but for the list of texts under a key are written in the same way only if the lists
are the same. -/
theorem write_withTexts_inj (hk : k ∈ entries.map (·.1))
    (h : write layout (.map (withTexts k us entries)) = write layout (.map (withTexts k vs entries))) : us = vs := by
  cases entries with
  | nil => cases hk
  | cons e es =>
    by_cases he : e.1 = k
    · simp only [withTexts, List.map_cons, if_pos he, write, List.append_assoc, List.append_cancel_left_eq,
        List.cons_append, List.cons.injEq, true_and] at h
      exact write_texts_append_inj h
    · simp only [withTexts, List.map_cons, if_neg he, write, List.append_assoc, List.append_cancel_left_eq,
        List.cons_append, List.cons.injEq, true_and] at h
      refine writeEntries_withTexts_inj ?_ h
      exact (List.mem_cons.1 hk).resolve_left (Ne.symm he)

end JmsNaming.Json
