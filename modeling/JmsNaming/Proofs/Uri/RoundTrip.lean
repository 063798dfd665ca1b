import JmsNaming.Proofs.Number.Decimal
import JmsNaming.Proofs.Text.Percent
import JmsNaming.Proofs.Uri.Authority
import JmsNaming.Proofs.Uri.Parts
import Mathlib.Data.Bool.AllAny

/-
The URI that carries settings is read back as the same settings: percent coding keeps every
delimiter out of the user, the password and the virtual host, and brackets keep the colons of an
address apart from the colon before the port.
-/
namespace JmsNaming

open Text

namespace Uri

/-! ## Clean texts -/

theorem clean_eq_self {s : List Char} (h : ∀ c ∈ s.head?, 32 < c.toNat) (hs : ∀ c ∈ s, c ∉ ['\t', '\r', '\n']) :
    clean s = s := by
  have hd : (s.dropWhile fun c => c.toNat ≤ 32) = s := by
    cases s with
    | nil => rfl
    | cons c s => rw [List.dropWhile_cons_of_neg (by simpa using h c rfl)]
  rw [clean, hd, List.filter_eq_self]
  intro c hc
  simpa [and_assoc] using hs c hc

theorem clean_eq_self_of_visible {s : List Char} (h : ∀ c ∈ s, 32 < c.toNat) : clean s = s := by
  have hall : ∀ c ∈ ['\t', '\r', '\n'], c.toNat ≤ 32 := List.all_iff_forall_prop.1 (by decide)
  refine clean_eq_self (fun c hc => h c (List.mem_of_mem_head? hc)) fun c hc hm => ?_
  exact absurd (h c hc) (Nat.not_lt.2 (hall c hm))

theorem pathOf_eq_self {s : List Char} (hq : '?' ∉ s) (hh : '#' ∉ s) : pathOf s = s := by
  rw [pathOf, before_eq_self hh, before_eq_self hq]

/-! ## An assembled authority -/

section Authority

variable {user password host digits : List Char}

/-- The authority with a user, a password, a host and the digits of a port. -/
def assemble (user password host digits : List Char) : List Char :=
  user ++ ':' :: password ++ '@' :: Endpoint.writtenHost host ++ ':' :: digits

/-- A host that can stand in an authority: none of its characters has a meaning there, and one with a
colon is a numeric address. -/
structure IsHost (host : List Char) : Prop where
  plain : ∀ c ∈ host, c ∉ ['/', '?', '#', '@', '[', ']', '\t', '\r', '\n']
  undisguised : ∀ c ∈ host, isDisguisedDelimiter c = false
  address : ':' ∈ host → checkAddress host = .ok ()

theorem IsHost.not_mem (h : IsHost host) {c : Char} (hc : c ∈ ['/', '?', '#', '@', '[', ']', '\t', '\r', '\n']) :
    c ∉ host :=
  fun hm => h.plain c hm hc

theorem not_mem_digits (hd : ∀ c ∈ digits, c.isDigit = true) {c : Char} (hc : c.isDigit = false) : c ∉ digits :=
  fun hm => by rw [hd c hm] at hc; cases hc

/-- The components of such an authority: a host with a colon is taken for an address. -/
def assembled (user password host digits : List Char) : Authority :=
  { login := some (user, some password)
    host := if ':' ∈ host then .address host else .name host
    port := some digits }

theorem assemble_eq : assemble user password host digits = (assembled user password host digits).text := by
  unfold assemble Endpoint.writtenHost assembled
  by_cases hcolon : ':' ∈ host <;>
    simp [hcolon, Authority.text, Authority.info, Authority.place, Authority.portText, Host.written]

theorem text_assembled : (assembled user password host digits).host.text = host := by
  unfold assembled
  split <;> rfl

theorem bounded_assembled (hh : IsHost host) (hd : ∀ c ∈ digits, c.isDigit = true) :
    (assembled user password host digits).Bounded := by
  have hsub : ['@', '[', ']'] ⊆ ['/', '?', '#', '@', '[', ']', '\t', '\r', '\n'] := by decide
  refine ⟨⟨fun c hc hm => ?_, fun s hs hcolon => ?_⟩, ?_⟩
  · rw [text_assembled] at hc
    exact hh.plain c hc (hsub hm)
  · unfold assembled at hs
    split at hs
    · cases hs
    · cases hs
      exact absurd hcolon ‹_›
  · rintro _ ⟨⟩
    exact hd

theorem userOf_assemble (hu : ':' ∉ user) (hh : IsHost host) (hd : ∀ c ∈ digits, c.isDigit = true) :
    userOf (assemble user password host digits) = (some user, some password) := by
  rw [assemble_eq, Authority.userOf_text (bounded_assembled hh hd)]
  · rfl
  · rintro _ _ ⟨⟩
    exact hu

theorem hostOf_assemble (hh : IsHost host) (hd : ∀ c ∈ digits, c.isDigit = true) :
    hostOf (assemble user password host digits) = host := by
  rw [assemble_eq, Authority.hostOf_text (bounded_assembled hh hd), text_assembled]

/-- A number up to the greatest port is read from its digits. -/
theorem portOf_assemble (hh : IsHost host) {n : Nat} (hn : n ≤ 65535) :
    portOf (assemble user password host (Nat.toDigits 10 n)) = .ok (some n) := by
  have hd : ∀ c ∈ Nat.toDigits 10 n, c.isDigit = true := fun c hc =>
    Nat.isDigit_of_mem_toDigits (by decide) (by decide) hc
  have hl : (Nat.toDigits 10 n).length ≤ 5 := (Nat.length_toDigits_le_iff (by decide) (by decide)).2 (by omega)
  rw [assemble_eq, Authority.portOf_text (bounded_assembled hh hd)]
  · obtain ⟨c, rest, hdigits⟩ := List.exists_cons_of_ne_nil (Nat.toDigits_ne_nil (b := 10) (n := n))
    simp only [Authority.number?, assembled, hdigits]
    rw [← hdigits, Nat.ofDigitChars_ten_toDigits]
  · rintro _ ⟨⟩
    rw [Nat.ofDigitChars_ten_toDigits]
    exact ⟨by omega, hn⟩

/-- Brackets are put around a host with a colon, which then has to be a numeric address. -/
theorem checkBrackets_assemble_of_colon (hcolon : ':' ∈ host) (hat : '@' ∉ host) (hc : ']' ∉ host)
    (hd : ∀ c ∈ digits, c.isDigit = true) :
    checkBrackets (assemble user password host digits) = checkAddress host := by
  have hhost : (assembled user password host digits).host = .address host := if_pos hcolon
  have hplace : '@' ∉ (assembled user password host digits).place := by
    intro hm
    rcases Authority.mem_place hm with hm | hm | hm
    · rw [text_assembled] at hm
      exact hat hm
    · exact absurd hm (by decide)
    · refine Authority.not_mem_portText ?_ (by decide) (by decide) hm
      rintro _ ⟨⟩
      exact hd
  rw [assemble_eq, Authority.checkBrackets_of_address hhost hplace hc]

theorem checkBrackets_assemble (hu : '[' ∉ user ∧ ']' ∉ user) (hp : '[' ∉ password ∧ ']' ∉ password)
    (hh : IsHost host) (hd : ∀ c ∈ digits, c.isDigit = true) :
    checkBrackets (assemble user password host digits) = .ok () := by
  rw [assemble_eq]
  refine Authority.checkBrackets_text (bounded_assembled hh hd) ?_ fun s hs => ?_
  · rintro _ ⟨⟩
    simp [hu, hp]
  · unfold assembled at hs
    split at hs
    · cases hs
      exact hh.address ‹_›
    · cases hs

theorem mem_assemble {c : Char} (h : c ∈ assemble user password host digits) :
    c ∈ user ∨ c ∈ password ∨ c ∈ host ∨ c ∈ digits ∨ c ∈ [':', '@', '[', ']'] := by
  unfold assemble Endpoint.writtenHost at h
  split at h <;> simp at h ⊢ <;> tauto

theorem checkDisguise_assemble (hu : ∀ c ∈ user, isDisguisedDelimiter c = false)
    (hp : ∀ c ∈ password, isDisguisedDelimiter c = false) (hh : IsHost host)
    (hd : ∀ c ∈ digits, isDisguisedDelimiter c = false) :
    checkDisguise (assemble user password host digits) = .ok () := by
  have h : ∀ c ∈ assemble user password host digits, isDisguisedDelimiter c = false := by
    intro c hc
    rcases mem_assemble hc with hc | hc | hc | hc | hc
    · exact hu c hc
    · exact hp c hc
    · exact hh.undisguised c hc
    · exact hd c hc
    · simp only [List.mem_cons, List.not_mem_nil, or_false] at hc
      rcases hc with rfl | rfl | rfl | rfl <;> decide
  have ha : (assemble user password host digits).any isDisguisedDelimiter = false := by
    simpa using h
  simp [checkDisguise, ha]

end Authority

/-- A character of ASCII is no delimiter in disguise. -/
theorem isDisguisedDelimiter_of_ascii {c : Char} (h : c.toNat < 128) : isDisguisedDelimiter c = false := by
  have hall : ∀ n ∈ disguisedDelimiters, 128 ≤ n := by decide
  rw [isDisguisedDelimiter, Bool.eq_false_iff]
  intro hc
  have := hall c.toNat (List.contains_iff_mem.1 hc)
  omega

end Uri

namespace Endpoint

open Uri

/-! ## The URI of settings -/

/-- Settings that a URI can carry: the port is one, and the host can stand in an authority. The user,
the password and the virtual host may be anything. -/
structure Addressable (e : Endpoint) : Prop where
  port_nonneg : 0 ≤ e.port
  port_le : e.port ≤ 65535
  host_ne : e.host ≠ ""
  host : IsHost e.host.toList

/-- Settings whose URI is split again where it was put together: the host ends no authority and loses no
character. -/
structure Separable (e : Endpoint) : Prop where
  port_nonneg : 0 ≤ e.port
  plain : ∀ c ∈ e.host.toList, c ∉ ['/', '?', '#', '\t', '\r', '\n']

/-- The scheme of the settings. -/
def schemeName (e : Endpoint) : List Char :=
  if e.ssl then ['a', 'm', 'q', 'p', 's'] else ['a', 'm', 'q', 'p']

/-- The authority of the settings. -/
def authority (e : Endpoint) : List Char :=
  assemble (percentEncode e.username.toList) (percentEncode e.password.toList) e.host.toList
    (Nat.toDigits 10 e.port.toNat)

variable {e : Endpoint}

theorem Addressable.separable (h : e.Addressable) : e.Separable := by
  have hsub : ['/', '?', '#', '\t', '\r', '\n'] ⊆ ['/', '?', '#', '@', '[', ']', '\t', '\r', '\n'] := by decide
  exact ⟨h.port_nonneg, fun c hc hm => h.host.plain c hc (hsub hm)⟩

theorem write_eq (h : e.Separable) : e.write = e.schemeName ++ ':' :: '/' :: '/' ::
    (e.authority ++ '/' :: percentEncode e.virtualHost.toList) := by
  have hp : (toString e.port).toList = Nat.toDigits 10 e.port.toNat := by
    rw [← toList_toString_natCast, Int.toNat_of_nonneg h.port_nonneg]
  unfold write schemeName authority assemble
  rw [hp]
  cases e.ssl <;> simp

theorem isDigit_of_mem_port {n : Nat} : ∀ c ∈ Nat.toDigits 10 n, c.isDigit = true :=
  fun _ hc => Nat.isDigit_of_mem_toDigits (by decide) (by decide) hc

/-- No character of the authority ends it, and none is dropped when a text is cleaned. -/
theorem plain_of_mem_authority (h : e.Separable) {c : Char} (hc : c ∈ e.authority) :
    c ∉ ['/', '?', '#', '\t', '\r', '\n'] := by
  -- none of these stands in a coded text, a port or a host, and none of them parts the components
  have hall : ∀ c ∈ ['/', '?', '#', '\t', '\r', '\n'], isPercentCoded c = false ∧ c.isDigit = false ∧
      c ∉ [':', '@', '[', ']'] := List.all_iff_forall_prop.1 (by decide)
  intro hm
  obtain ⟨h1, h2, h3⟩ := hall c hm
  rcases mem_assemble hc with hc | hc | hc | hc | hc
  · exact not_mem_percentEncode h1 hc
  · exact not_mem_percentEncode h1 hc
  · exact h.plain c hc hm
  · exact not_mem_digits isDigit_of_mem_port h2 hc
  · exact h3 hc

theorem clean_write (h : e.Separable) : clean e.write = e.write := by
  have hall : ∀ c ∈ ['\t', '\r', '\n'], c ∉ ['a', 'm', 'q', 'p', 's', ':', '/'] ∧ isPercentCoded c = false ∧
      c ∈ ['/', '?', '#', '\t', '\r', '\n'] := List.all_iff_forall_prop.1 (by decide)
  have hscheme : ∀ c ∈ e.schemeName, c ∈ ['a', 'm', 'q', 'p', 's', ':', '/'] := by
    unfold schemeName
    split <;> exact List.all_iff_forall_prop.1 (by decide)
  rw [write_eq h]
  apply clean_eq_self
  · unfold schemeName
    split <;> simp
  · intro c hc hb
    obtain ⟨h1, h2, h3⟩ := hall c hb
    simp only [List.mem_append, List.mem_cons] at hc
    rcases hc with hc | rfl | rfl | rfl | hc | rfl | hc
    · exact h1 (hscheme c hc)
    · exact h1 (by decide)
    · exact h1 (by decide)
    · exact h1 (by decide)
    · exact plain_of_mem_authority h hc h3
    · exact h1 (by decide)
    · exact not_mem_percentEncode h2 hc

theorem partsOf_write (h : e.Separable) : partsOf e.write =
    { scheme := e.schemeName, authority := e.authority, path := '/' :: percentEncode e.virtualHost.toList } := by
  have hs : isScheme e.schemeName = true ∧ e.schemeName.map Char.toLower = e.schemeName := by
    unfold schemeName
    split <;> decide
  have ha : ∀ c ∈ e.authority, (!endsAuthority c) = true := fun c hc => by
    rw [endsAuthority_eq_false (List.sublist_append_left ['/', '?', '#'] ['\t', '\r', '\n']).subset
      (plain_of_mem_authority h hc)]
    rfl
  have hpath : pathOf ('/' :: percentEncode e.virtualHost.toList) = '/' :: percentEncode e.virtualHost.toList :=
    pathOf_eq_self (by simp [not_mem_percentEncode (c := '?') (by decide)])
      (by simp [not_mem_percentEncode (c := '#') (by decide)])
  rw [partsOf_of_clean hs.1 ((clean_write h).trans (write_eq h)), hs.2, List.takeWhile_append_of_pos ha,
    List.dropWhile_append_of_pos ha]
  simp [endsAuthority, hpath]

/-- The parts of the URI pass all checks. -/
theorem check_write (h : e.Addressable) : (partsOf e.write).check = .ok (some e.port.toNat) := by
  have hport : e.port.toNat ≤ 65535 := by have := h.port_le; omega
  have hcoded : ∀ s : List Char, ∀ c ∈ percentEncode s, isDisguisedDelimiter c = false := fun s c hc =>
    isDisguisedDelimiter_of_ascii (toNat_lt_of_isPercentCoded (isPercentCoded_of_mem hc))
  have hdigits : ∀ c ∈ Nat.toDigits 10 e.port.toNat, isDisguisedDelimiter c = false := fun c hc =>
    isDisguisedDelimiter_of_ascii (toNat_lt_of_isUnreserved (by
      simp [isUnreserved, Char.isAlphanum, isDigit_of_mem_port c hc]))
  have hbrackets : ∀ s : List Char, '[' ∉ percentEncode s ∧ ']' ∉ percentEncode s := fun s =>
    ⟨not_mem_percentEncode (by decide), not_mem_percentEncode (by decide)⟩
  have hslash : '/' ∉ percentEncode e.virtualHost.toList := not_mem_percentEncode (by decide)
  rw [partsOf_write h.separable, Parts.check_eq_ok_iff]
  refine ⟨checkBrackets_assemble (hbrackets _) (hbrackets _) h.host isDigit_of_mem_port,
    checkDisguise_assemble (hcoded _) (hcoded _) h.host hdigits, portOf_assemble h.host hport, ?_, hslash⟩
  unfold schemeName
  cases e.ssl <;> simp

/-- The URI that carries settings is read as these settings. -/
theorem read_write (h : e.Addressable) : read e.write = .ok e := by
  have hhost : hostOf e.authority = e.host.toList := hostOf_assemble h.host isDigit_of_mem_port
  have huser : userOf e.authority =
      (some (percentEncode e.username.toList), some (percentEncode e.password.toList)) :=
    userOf_assemble (not_mem_percentEncode (by decide)) h.host isDigit_of_mem_port
  have hne : e.host.toList.isEmpty = false := by simpa using h.host_ne
  have hssl : (e.schemeName == ['a', 'm', 'q', 'p', 's']) = e.ssl := by
    unfold schemeName
    cases e.ssl <;> rfl
  rw [read_eq, check_write h, partsOf_write h.separable]
  simp only [Except.map, ofParts, hhost, huser, hne, hssl, percentDecode_percentEncode]
  simp [Int.toNat_of_nonneg h.port_nonneg, percentDecode_percentEncode]

end Endpoint

end JmsNaming
