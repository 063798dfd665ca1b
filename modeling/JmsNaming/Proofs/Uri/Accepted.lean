import JmsNaming.Proofs.Uri.RoundTrip
import Mathlib.Data.List.TakeWhile

/-
What an accepted URI leaves behind: the host and the port that are read from it, whatever its text is.
-/
namespace JmsNaming

open Text

namespace Uri

/-! ## Characters of the parts -/

theorem splitScheme_snd_subset (s : List Char) : (splitScheme s).2 ⊆ s := by
  unfold splitScheme
  cases h : cut? ':' s with
  | none => exact List.Subset.refl s
  | some p =>
    dsimp only
    split
    · intro c hc
      rw [eq_of_cut? h]
      exact List.mem_append_right _ (List.mem_cons_of_mem _ hc)
    · exact List.Subset.refl s

theorem mem_splitAuthority {s : List Char} {c : Char} (h : c ∈ (splitAuthority s).1) :
    c ∈ s ∧ endsAuthority c = false := by
  unfold splitAuthority at h
  split at h
  · rename_i rest
    refine ⟨List.mem_cons_of_mem _ (List.mem_cons_of_mem _ (List.takeWhile_subset _ h)), ?_⟩
    simpa using List.mem_takeWhile_imp h
  · cases h

/-- No character of an authority ends it, and none is one that is dropped when a text is cleaned. -/
theorem not_mem_of_mem_authority {uri : List Char} {c : Char} (h : c ∈ (partsOf uri).authority) :
    c ∉ ['/', '?', '#', '\t', '\r', '\n'] := by
  obtain ⟨hmem, hends⟩ := mem_splitAuthority h
  have hclean := (List.mem_filter.1 (splitScheme_snd_subset _ hmem)).2
  simp only [endsAuthority, Bool.or_eq_false_iff, beq_eq_false_iff_ne] at hends
  simp only [Bool.and_eq_true, bne_iff_ne] at hclean
  simp only [List.mem_cons, List.not_mem_nil, or_false, not_or]
  exact ⟨hends.1.1, hends.1.2, hends.2, hclean.1.1, hclean.1.2, hclean.2⟩

theorem hostOf_subset (a : List Char) : hostOf a ⊆ hostPort a := by
  unfold hostOf
  split
  · rename_i rest he
    rw [he]
    split
    · exact fun c hc => List.mem_cons_of_mem _ (before_subset hc)
    · exact fun c hc => List.mem_cons_of_mem _ (List.dropLast_subset _ hc)
  · exact before_subset

/-- A host ends at its first colon, unless it stood behind an opening bracket: then it has no closing one. -/
theorem not_mem_hostOf (a : List Char) : ':' ∉ hostOf a ∨ ']' ∉ hostOf a := by
  unfold hostOf
  split
  · right
    split
    · exact not_mem_before
    · rename_i hc
      exact fun hm => hc (List.contains_iff_mem.2 (List.dropLast_subset _ hm))
  · exact .inl not_mem_before

theorem port_le_of_portOf {a : List Char} {n : Nat} (h : portOf a = .ok (some n)) : n ≤ 65535 := by
  unfold portOf at h
  dsimp only at h
  split_ifs at h with h1 h2 h3 h4
  · cases h
  · rw [← Option.some.inj (Except.ok.inj h)]
    exact h4

theorem undisguised_of_checkDisguise {a : List Char} (h : checkDisguise a = .ok ()) :
    ∀ c ∈ a, isDisguisedDelimiter c = false := by
  unfold checkDisguise at h
  split at h
  · cases h
  · rename_i hany
    intro c hc
    rw [Bool.eq_false_iff]
    exact fun hd => hany (List.any_eq_true.2 ⟨c, hc, hd⟩)

end Uri

namespace Endpoint

open Uri

/-! ## Settings that a URI carried -/

/-- What holds of all settings that are read from a URI. -/
structure Carried (e : Endpoint) : Prop where
  port_nonneg : 0 ≤ e.port
  port_le : e.port ≤ 65535
  host_ne : e.host ≠ ""
  plain : ∀ c ∈ e.host.toList, c ∉ ['/', '?', '#', '@', '\t', '\r', '\n']
  undisguised : ∀ c ∈ e.host.toList, isDisguisedDelimiter c = false
  ends : ':' ∉ e.host.toList ∨ ']' ∉ e.host.toList

theorem carried_default : ({} : Endpoint).Carried :=
  ⟨by decide, by decide, by decide, List.all_iff_forall_prop.1 (by decide), List.all_iff_forall_prop.1 (by decide),
    .inl (by decide)⟩

variable {e : Endpoint}

theorem carried_of_read {uri : List Char} (h : read uri = .ok e) : e.Carried := by
  obtain ⟨port, hc, rfl⟩ := exists_check_of_read h
  obtain ⟨-, hdisguise, hport, -⟩ := Parts.check_eq_ok_iff.1 hc
  have hrange : ∀ ssl, (0 : Int) ≤ port.getD (defaultPort ssl) ∧ (port.getD (defaultPort ssl) : Int) ≤ 65535 := by
    intro ssl
    refine ⟨Int.natCast_nonneg _, ?_⟩
    cases port with
    | none => cases ssl <;> decide
    | some n => exact Int.ofNat_le.2 (port_le_of_portOf hport)
  by_cases hempty : (hostOf (partsOf uri).authority).isEmpty = true
  · -- the host is the default one
    have hd := carried_default
    refine ⟨(hrange _).1, (hrange _).2, ?_, ?_, ?_, ?_⟩ <;> simp only [ofParts, if_pos hempty]
    · exact hd.host_ne
    · exact hd.plain
    · exact hd.undisguised
    · exact hd.ends
  · have hmem : ∀ c ∈ hostOf (partsOf uri).authority, c ∈ (partsOf uri).authority := fun c hc =>
      afterLast_subset (hostOf_subset _ hc)
    refine ⟨(hrange _).1, (hrange _).2, ?_, ?_, ?_, ?_⟩ <;> simp only [ofParts, if_neg hempty, String.toList_ofList]
    · intro hne
      exact hempty (by rw [String.ofList_eq_empty_iff.1 hne]; rfl)
    · intro c hc hm
      have hplain := not_mem_of_mem_authority (hmem c hc)
      have hat : c ≠ '@' := fun he => not_mem_afterLast (he ▸ hostOf_subset _ hc)
      simp only [List.mem_cons, List.not_mem_nil, or_false] at hm hplain
      tauto
    · exact fun c hc => undisguised_of_checkDisguise hdisguise c (hmem c hc)
    · exact not_mem_hostOf _

/-! ## The URI of settings that a URI carried -/

/-- The URI of settings that were read from a URI, and whose host has no opening bracket, is read as these
settings exactly if the host has no closing bracket either and is an address if it has a colon. -/
theorem read_write_iff (h : e.Carried) (hopen : '[' ∉ e.host.toList) :
    read e.write = .ok e ↔ ']' ∉ e.host.toList ∧ (':' ∈ e.host.toList → checkAddress e.host.toList = .ok ()) := by
  have hat : '@' ∉ e.host.toList := fun hm => h.plain _ hm (by decide)
  constructor
  · intro hread
    have hsub : ['/', '?', '#', '\t', '\r', '\n'] ⊆ ['/', '?', '#', '@', '\t', '\r', '\n'] := by decide
    have hs : e.Separable := ⟨h.port_nonneg, fun c hc hm => h.plain c hc (hsub hm)⟩
    have hbrackets : checkBrackets e.authority = .ok () := by
      rw [read_eq, partsOf_write hs] at hread
      cases hb : checkBrackets e.authority with
      | ok => rfl
      | error fault => simp [Parts.check, hb, Except.map] at hread
    have hclose : ']' ∉ e.host.toList := by
      intro hm
      -- such a host has no colon and stands in the URI as it is, as the only part with a bracket
      have hcolon : ':' ∉ e.host.toList := h.ends.resolve_right (not_not_intro hm)
      have hw : writtenHost e.host.toList = e.host.toList := by simp [writtenHost, hcolon]
      have hcoded : ∀ s : List Char, '[' ∉ percentEncode s := fun s => not_mem_percentEncode (by decide)
      have hdigits := not_mem_digits (isDigit_of_mem_port (n := e.port.toNat)) (c := '[') (by decide)
      simp [checkBrackets, authority, assemble, hw, hm, hopen, hcoded, hdigits] at hbrackets
    refine ⟨hclose, fun hcolon => ?_⟩
    rwa [authority, checkBrackets_assemble_of_colon hcolon hat hclose isDigit_of_mem_port] at hbrackets
  · rintro ⟨hclose, haddress⟩
    refine read_write ⟨h.port_nonneg, h.port_le, h.host_ne, ?_, h.undisguised, haddress⟩
    intro c hc hm
    have hplain := h.plain c hc
    have hne : c ≠ '[' ∧ c ≠ ']' := ⟨fun he => hopen (he ▸ hc), fun he => hclose (he ▸ hc)⟩
    simp only [List.mem_cons, List.not_mem_nil, or_false] at hm hplain
    tauto

end Endpoint

end JmsNaming
