import JmsNaming.Proofs.Outcome
import JmsNaming.Proofs.Text.Cut
import JmsNaming.Uri.Endpoint
import Mathlib.Tactic.Common

/-
Reading a URI in two steps: the parts of the text, which are cut without any check, and the checks
on the parts, in the order in which the first fault is told. What a URI is read as depends on its
parts alone.
-/
namespace JmsNaming

open Text

namespace Uri

/-! ## The parts of a text -/

/-- The parts of a text, checked for nothing. -/
def partsOf (uri : List Char) : Parts :=
  let (scheme, rest) := splitScheme (clean uri)
  let (authority, rest) := splitAuthority rest
  { scheme, authority, path := pathOf rest }

/-- The checks on the parts of an AMQP URI, up to the first fault; what passes them has a port or
none. -/
def Parts.check (p : Parts) : Except Fault (Option Nat) := do
  checkBrackets p.authority
  checkDisguise p.authority
  let port ← portOf p.authority
  if p.scheme != ['a', 'm', 'q', 'p'] && p.scheme != ['a', 'm', 'q', 'p', 's'] then throw (.scheme p.scheme)
  if (p.path.drop 1).contains '/' then throw .segments
  return port

/-- All that the checks ask for, and where the port comes from. -/
theorem Parts.check_eq_ok_iff {p : Parts} {port : Option Nat} : p.check = .ok port ↔
    checkBrackets p.authority = .ok () ∧ checkDisguise p.authority = .ok () ∧ portOf p.authority = .ok port ∧
      (p.scheme = ['a', 'm', 'q', 'p'] ∨ p.scheme = ['a', 'm', 'q', 'p', 's']) ∧ '/' ∉ p.path.drop 1 := by
  constructor
  · intro h
    unfold check at h
    simp only [bind_eq_ok_iff] at h
    obtain ⟨_, hbrackets, _, hdisguise, port', hport, h⟩ := h
    split at h
    · cases h
    · rename_i hscheme
      split at h
      · cases h
      · rename_i hpath
        cases h
        refine ⟨hbrackets, hdisguise, hport, ?_, fun hm => hpath (List.contains_iff_mem.2 hm)⟩
        simp only [Bool.and_eq_true, bne_iff_ne, not_and_or, not_not] at hscheme
        exact hscheme
  · rintro ⟨hbrackets, hdisguise, hport, hscheme, hpath⟩
    have hamqp : (p.scheme != ['a', 'm', 'q', 'p'] && p.scheme != ['a', 'm', 'q', 'p', 's']) = false := by
      rcases hscheme with hs | hs <;> rw [hs] <;> decide
    have hsegments : (p.path.drop 1).contains '/' = false := Bool.eq_false_iff.2 (mt List.contains_iff_mem.1 hpath)
    simp only [check, hbrackets, hdisguise, hport, hamqp, hsegments]
    rfl

theorem split_eq (uri : List Char) : split uri = do
    checkBrackets (partsOf uri).authority
    checkDisguise (partsOf uri).authority
    return partsOf uri :=
  rfl

theorem endsAuthority_eq_false {c : Char} {l : List Char} (hl : ['/', '?', '#'] ⊆ l) (h : c ∉ l) :
    endsAuthority c = false := by
  have hc : c ∉ ['/', '?', '#'] := fun hm => h (hl hm)
  simpa [endsAuthority, and_assoc] using hc

theorem not_mem_colon_of_isScheme {s : List Char} (h : isScheme s = true) : ':' ∉ s := by
  intro hc
  cases s with
  | nil => cases hc
  | cons c s =>
    simp only [isScheme, Bool.and_eq_true, List.all_eq_true] at h
    exact absurd (h.2 _ hc) (by decide)

/-- A scheme ends at the colon before two slashes, and the authority at the first character that ends
one. -/
theorem partsOf_of_clean {uri scheme rest : List Char} (hs : isScheme scheme = true)
    (hc : clean uri = scheme ++ ':' :: '/' :: '/' :: rest) :
    partsOf uri = { scheme := scheme.map Char.toLower
                    authority := rest.takeWhile fun c => !endsAuthority c
                    path := pathOf (rest.dropWhile fun c => !endsAuthority c) } := by
  simp only [partsOf, hc, splitScheme, cut?_append (not_mem_colon_of_isScheme hs), hs, if_true, splitAuthority]

end Uri

namespace Endpoint

open Uri

/-! ## The settings in the parts -/

/-- The settings that parts with a port carry. -/
def ofParts (p : Parts) (port : Option Nat) : Endpoint :=
  let ssl := p.scheme == ['a', 'm', 'q', 'p', 's']
  let host := hostOf p.authority
  let user := userOf p.authority
  let decoded (s : Option (List Char)) (absent : String) : String :=
    match s with
    | some s => String.ofList (percentDecode s)
    | none => absent
  { ssl
    host := if host.isEmpty then "localhost" else String.ofList host
    port := port.getD (defaultPort ssl)
    username := decoded user.1 "guest"
    password := decoded user.2 "guest"
    virtualHost := if p.path.isEmpty then "/" else String.ofList (percentDecode (p.path.drop 1)) }

/-- A URI is read through its parts alone. -/
theorem read_eq (uri : List Char) : read uri = (partsOf uri).check.map (ofParts (partsOf uri)) := by
  unfold read Parts.check
  rw [split_eq]
  generalize partsOf uri = p
  cases checkBrackets p.authority with
  | error fault => rfl
  | ok =>
    cases checkDisguise p.authority with
    | error fault => rfl
    | ok =>
      simp only [ok_bind, pure_eq_ok, throw_eq_error, error_bind]
      cases portOf p.authority with
      | error fault => rfl
      | ok port =>
        simp only [ok_bind]
        split
        · rfl
        · split <;> rfl

/-- A URI is accepted if its parts pass the checks. -/
theorem exists_check_of_read {uri : List Char} {e : Endpoint} (h : read uri = .ok e) :
    ∃ port, (partsOf uri).check = .ok port ∧ e = ofParts (partsOf uri) port := by
  rw [read_eq] at h
  cases hc : (partsOf uri).check with
  | error fault =>
    rw [hc] at h
    cases h
  | ok port =>
    rw [hc] at h
    exact ⟨port, rfl, (Except.ok.inj h).symm⟩

/-- A URI is rejected for the first fault of its parts. -/
theorem check_of_read_error {uri : List Char} {fault : Fault} (h : read uri = .error fault) :
    (partsOf uri).check = .error fault := by
  rw [read_eq] at h
  cases hc : (partsOf uri).check with
  | error fault' =>
    rw [hc] at h
    cases h
    rfl
  | ok port =>
    rw [hc] at h
    cases h

end Endpoint

end JmsNaming
