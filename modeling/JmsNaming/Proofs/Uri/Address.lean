import JmsNaming.Proofs.Text.Cut
import JmsNaming.Uri.Split
import Mathlib.Data.List.Basic

/-
The characters of a numeric address: hexadecimal digits, colons and dots, up to the zone. So an address of eight groups
is never taken for one of the other kinds that brackets may have.
-/
namespace JmsNaming.Uri

open Text

/-- A character that stands in a numeric address in front of the zone. -/
def isAddressChar (c : Char) : Bool :=
  (hexDigit? c).isSome || c == ':' || c == '.'

theorem isAddressChar_of_isDigit {c : Char} (h : c.isDigit = true) : isAddressChar c = true := by
  simp [isAddressChar, hexDigit?, h]

theorem toNat_of_isAddressChar {c : Char} (h : isAddressChar c = true) : 32 < c.toNat ∧ c.toNat < 128 := by
  simp only [isAddressChar, Bool.or_eq_true, beq_iff_eq] at h
  rcases h with (h | rfl) | rfl
  · -- a digit, a small letter or a capital
    have hrange : 48 ≤ c.toNat ∧ c.toNat ≤ 57 ∨ 97 ≤ c.toNat ∧ c.toNat ≤ 102 ∨ 65 ≤ c.toNat ∧ c.toNat ≤ 70 := by
      unfold hexDigit? at h
      split at h
      · rename_i hdigit
        delta Char.isDigit at hdigit
        simp only [Bool.and_eq_true, decide_eq_true_eq, ge_iff_le, UInt32.le_iff_toNat_le] at hdigit
        exact .inl hdigit
      · split at h
        · rename_i hsmall
          simp only [Bool.and_eq_true, decide_eq_true_eq, Char.le_def, UInt32.le_iff_toNat_le] at hsmall
          exact .inr (.inl hsmall)
        · split at h
          · rename_i hcapital
            simp only [Bool.and_eq_true, decide_eq_true_eq, Char.le_def, UInt32.le_iff_toNat_le] at hcapital
            exact .inr (.inr hcapital)
          · cases h
    omega
  · exact ⟨by decide, by decide⟩
  · exact ⟨by decide, by decide⟩

/-! ## Quads and groups -/

variable {s p : List Char} {parts : List (List Char)}

theorem isDigit_of_isIPv4 (h : isIPv4 s = true) : ∀ c ∈ s, c.isDigit = true ∨ c = '.' := by
  intro c hc
  simp only [isIPv4, Bool.and_eq_true, List.all_eq_true] at h
  rcases mem_pieces hc with hdot | ⟨octet, hoctet, hc⟩
  · exact .inr hdot
  · have ho := h.2 octet hoctet
    simp only [isOctet, Bool.and_eq_true, List.all_eq_true] at ho
    exact .inl (ho.1.1.1.2 c hc)

theorem isAddressChar_of_isIPv4 (h : isIPv4 s = true) : ∀ c ∈ s, isAddressChar c = true := by
  intro c hc
  rcases isDigit_of_isIPv4 h c hc with hdigit | rfl
  · exact isAddressChar_of_isDigit hdigit
  · rfl

theorem isAddressChar_of_isGroup (h : isGroup s = true) : ∀ c ∈ s, isAddressChar c = true := by
  intro c hc
  simp only [isGroup, Bool.and_eq_true, List.all_eq_true] at h
  simp [isAddressChar, h.2 c hc]

/-- The parts of an address are its groups, but for a quad at the end. -/
theorem mem_groups? {gs : List (List Char)} (h : groups? parts = some gs) (hp : p ∈ parts) :
    p ∈ gs ∨ isIPv4 p = true := by
  unfold groups? at h
  cases hlast : parts.getLast? with
  | none =>
    rw [hlast] at h
    cases h
  | some last =>
    rw [hlast] at h
    dsimp only at h
    split at h
    · split at h
      · rename_i hquad
        cases h
        have hsplit : parts = parts.dropLast ++ [last] := (List.dropLast_append_getLast? last hlast).symm
        rw [hsplit, List.mem_append, List.mem_singleton] at hp
        rcases hp with hp | rfl
        · exact .inl (List.mem_append_left _ hp)
        · exact .inr hquad
      · cases h
    · cases h
      exact .inl hp

/-- Around a run of zeros that is left out, an empty group stands at most at the outer ends. -/
theorem isGroup_of_isAbbreviated {front back : List (List Char)} (h : isAbbreviated front back = true)
    (hp : p ∈ front ∨ p ∈ back) : p = [] ∨ isGroup p = true := by
  simp only [isAbbreviated, Bool.and_eq_true, List.all_eq_true] at h
  rcases hp with hp | hp
  · by_cases hhead : front.head? = some []
    · obtain ⟨rest, rfl⟩ : ∃ rest, front = [] :: rest := by
        cases front with
        | nil => cases hhead
        | cons x rest => exact ⟨rest, by rw [Option.some.inj hhead]⟩
      exact (List.mem_cons.1 hp).imp_right fun hp => h.1.2 p (by simpa using hp)
    · exact .inr (h.1.2 p (by simpa [hhead] using hp))
  · by_cases hlast : back.getLast? = some []
    · have hsplit : back = back.dropLast ++ [[]] := (List.dropLast_append_getLast? _ hlast).symm
      rw [hsplit, List.mem_append, List.mem_singleton] at hp
      exact hp.symm.imp_right fun hp => h.2 p (by simpa [hlast] using hp)
    · exact .inr (h.2 p (by simpa [hlast] using hp))

theorem isGroup_of_areGroups (h : areGroups parts = true) : ∀ p ∈ parts, p = [] ∨ isGroup p = true := by
  intro p hp
  simp only [areGroups, Bool.and_eq_true] at h
  obtain ⟨-, h⟩ := h
  split at h
  · -- the parts are those in front of the run of zeros, the empty one that stands for it, and those behind
    rename_i i hi
    simp only [Bool.and_eq_true] at h
    obtain ⟨hlt, hempty, -⟩ := List.findIdx?_eq_some_iff_getElem.1 hi
    have hi' : i + 1 < parts.length := by
      rw [List.length_dropLast, List.length_drop] at hlt
      omega
    have hrun : parts[i + 1] = [] := by simpa [Nat.add_comm 1 i] using hempty
    have hsplit : parts = parts.take (i + 1) ++ parts[i + 1] :: parts.drop (i + 2) := by
      rw [List.getElem_cons_drop, List.take_append_drop]
    rw [hsplit, List.mem_append, List.mem_cons, hrun] at hp
    rcases hp with hp | hp | hp
    · exact isGroup_of_isAbbreviated h.2 (.inl hp)
    · exact .inl hp
    · exact isGroup_of_isAbbreviated h.2 (.inr hp)
  · simp only [Bool.and_eq_true, List.all_eq_true] at h
    exact .inr (h.2 p hp)

/-! ## Addresses -/

/-- In front of the zone, an address has at least two colons and no other characters than those of groups. -/
theorem isAddressChar_of_isIPv6 (h : isIPv6 s = true) :
    ':' ∈ before '%' s ∧ ∀ c ∈ before '%' s, isAddressChar c = true := by
  simp only [isIPv6, Bool.and_eq_true, decide_eq_true_eq] at h
  obtain ⟨⟨-, hlength⟩, h⟩ := h
  refine ⟨by_contra fun hcolon => ?_, fun c hc => ?_⟩
  · rw [pieces_eq_self hcolon] at hlength
    exact absurd hlength (by simp)
  · rcases mem_pieces (c := ':') hc with rfl | ⟨p, hp, hcp⟩
    · rfl
    · cases hg : groups? (pieces ':' (before '%' s)) with
      | none =>
        rw [hg] at h
        cases h
      | some gs =>
        rw [hg] at h
        rcases mem_groups? hg hp with hgroup | hquad
        · rcases isGroup_of_areGroups h p hgroup with rfl | hgroup
          · cases hcp
          · exact isAddressChar_of_isGroup hgroup c hcp
        · exact isAddressChar_of_isIPv4 hquad c hcp

/-- An address of eight groups may stand in brackets. -/
theorem checkAddress_of_isIPv6 (h : isIPv6 s = true) : checkAddress s = .ok () := by
  obtain ⟨hcolon, hchars⟩ := isAddressChar_of_isIPv6 h
  have hversion : s.head? ≠ some 'v' := by
    intro hhead
    obtain ⟨rest, rfl⟩ := List.head?_eq_some_iff.1 hhead
    have hmem : 'v' ∈ before '%' ('v' :: rest) := by simp [before]
    exact absurd (hchars 'v' hmem) (by decide)
  have hquad : isIPv4 s = false := by
    rw [Bool.eq_false_iff]
    intro hquad
    rcases isDigit_of_isIPv4 hquad ':' (before_subset hcolon) with hdigit | hdot
    · exact absurd hdigit (by decide)
    · exact absurd hdot (by decide)
  simp [checkAddress, hversion, hquad, h]

end JmsNaming.Uri
