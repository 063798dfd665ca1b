import JmsNaming.Proofs.Number.Decimal
import JmsNaming.Proofs.Text.Case
import JmsNaming.Proofs.Uri.Address
import JmsNaming.Proofs.Uri.Authority
import JmsNaming.Proofs.Uri.Components
import JmsNaming.Proofs.Uri.RoundTrip

/-
The grammar of AMQP URIs: a scheme in letters of either case, an authority, and at most one segment. Whatever is present,
absent or empty, a text of this form is read as the settings that its components stand for.
-/
namespace JmsNaming.Uri

open Text

/-! ## The grammar -/

/-- A visible character of ASCII that is no delimiter of URIs. A colon is one, since a password may have it. -/
def IsPlain (c : Char) : Prop :=
  32 < c.toNat ∧ c.toNat < 128 ∧ c ∉ ['/', '?', '#', '@', '[', ']']

instance (c : Char) : Decidable (IsPlain c) :=
  inferInstanceAs (Decidable (_ ∧ _))

/-- A name without colons, or an address of eight groups whose zone, if it has one, is plain. -/
def Host.Regular : Host → Prop
  | .name s => ∀ c ∈ s, IsPlain c ∧ c ≠ ':'
  | .address s => isIPv6 s = true ∧ ∀ c ∈ after '%' s, IsPlain c

/-- The components of an AMQP URI. -/
structure Form where
  scheme : List Char
  authority : Authority
  segment : Option (List Char)

namespace Form

/-- The segment with the slash before it. -/
def path (u : Form) : List Char :=
  match u.segment with
  | some s => '/' :: s
  | none => []

/-- The components put together. -/
def text (u : Form) : List Char :=
  u.scheme ++ ':' :: '/' :: '/' :: u.authority.text ++ u.path

/-- Each component is one that the grammar allows. -/
structure Regular (u : Form) : Prop where
  scheme : u.scheme.map Char.toLower = ['a', 'm', 'q', 'p'] ∨ u.scheme.map Char.toLower = ['a', 'm', 'q', 'p', 's']
  user : ∀ user password, u.authority.login = some (user, password) → ∀ c ∈ user, IsPlain c ∧ c ≠ ':'
  password : ∀ user password, u.authority.login = some (user, some password) → ∀ c ∈ password, IsPlain c
  host : u.authority.host.Regular
  port : ∀ digits, u.authority.port = some digits → (∀ c ∈ digits, c.isDigit = true) ∧ digits.length ≤ 4300 ∧
    Nat.ofDigitChars 10 digits 0 ≤ 65535
  segment : ∀ s, u.segment = some s → ∀ c ∈ s, IsPlain c

/-- The scheme is that of AMQP over TLS. -/
def ssl (u : Form) : Bool :=
  u.scheme.map Char.toLower == ['a', 'm', 'q', 'p', 's']

/-- A component that is percent-decoded, or what stands for it where it is absent. -/
def decoded (component : Option (List Char)) (absent : String) : String :=
  match component with
  | some s => String.ofList (percentDecode s)
  | none => absent

/-- The settings that the components stand for. -/
def endpoint (u : Form) : Endpoint :=
  { ssl := u.ssl
    host := if u.authority.host.text = [] then "localhost" else String.ofList u.authority.host.text
    port := u.authority.number?.getD (if u.ssl then 5671 else 5672)
    username := decoded (u.authority.login.map Prod.fst) "guest"
    password := decoded (u.authority.login.bind Prod.snd) "guest"
    virtualHost := decoded u.segment "/" }

end Form

/-! ## Characters -/

section Characters

variable {c : Char}

/-- A visible character of ASCII that does not end an authority. -/
def IsKept (c : Char) : Prop :=
  32 < c.toNat ∧ c.toNat < 128 ∧ c ∉ ['/', '?', '#']

theorem IsPlain.isKept (h : IsPlain c) : IsKept c :=
  ⟨h.1, h.2.1, fun hm => h.2.2 (List.mem_append_left ['@', '[', ']'] hm)⟩

theorem isKept_of_isAddressChar (h : isAddressChar c = true) : IsKept c := by
  obtain ⟨hvisible, hascii⟩ := toNat_of_isAddressChar h
  refine ⟨hvisible, hascii, fun hm => ?_⟩
  have hall : ∀ c ∈ ['/', '?', '#'], isAddressChar c = false := List.all_iff_forall_prop.1 (by decide)
  rw [hall c hm] at h
  cases h

theorem isKept_of_isDigit (h : c.isDigit = true) : IsKept c :=
  isKept_of_isAddressChar (isAddressChar_of_isDigit h)

theorem Host.Regular.mem {h : Host} (hr : h.Regular) (hc : c ∈ h.text) :
    IsPlain c ∨ isAddressChar c = true ∨ c = '%' := by
  cases h with
  | name s => exact .inl (hr c hc).1
  | address s =>
    rcases mem_before_or_after (c := '%') hc with hc | hc | hc
    · exact .inr (.inl ((isAddressChar_of_isIPv6 hr.1).2 c hc))
    · exact .inr (.inr hc)
    · exact .inl (hr.2 c hc)

theorem Host.Regular.bounded {h : Host} (hr : h.Regular) : h.Bounded := by
  refine ⟨fun c hc hm => ?_, ?_⟩
  · have hall : ∀ c ∈ ['@', '[', ']'], isAddressChar c = false ∧ c ≠ '%' ∧ c ∈ ['/', '?', '#', '@', '[', ']'] :=
      List.all_iff_forall_prop.1 (by decide)
    obtain ⟨hchar, hpercent, hdelimiter⟩ := hall c hm
    rcases hr.mem hc with hplain | haddress | rfl
    · exact hplain.2.2 hdelimiter
    · rw [hchar] at haddress
      cases haddress
    · exact hpercent rfl
  · rintro s rfl hcolon
    exact (hr ':' hcolon).2 rfl

theorem Host.Regular.isKept {h : Host} (hr : h.Regular) (hc : c ∈ h.text) : IsKept c := by
  rcases hr.mem hc with hplain | haddress | rfl
  · exact hplain.isKept
  · exact isKept_of_isAddressChar haddress
  · exact ⟨by decide, by decide, by decide⟩

end Characters

namespace Form

variable {u : Form}

namespace Regular

/-! ## The components of the text -/

theorem bounded (h : u.Regular) : u.authority.Bounded :=
  ⟨h.host.bounded, fun digits hp => (h.port digits hp).1⟩

theorem isPlain_of_mem_info (h : u.Regular) {info : List Char} (hi : u.authority.info = some info) :
    ∀ c ∈ info, IsPlain c := by
  intro c hc
  obtain ⟨⟨user, password⟩, hl, rfl⟩ := Option.map_eq_some_iff.1 hi
  have huser : c ∈ user → IsPlain c := fun hc => (h.user user password hl c hc).1
  cases password with
  | none => exact huser hc
  | some password =>
    simp only [List.mem_append, List.mem_cons] at hc
    rcases hc with hc | rfl | hc
    · exact huser hc
    · exact ⟨by decide, by decide, by decide⟩
    · exact h.password user password hl c hc

theorem isKept_of_mem_authority (h : u.Regular) : ∀ c ∈ u.authority.text, IsKept c := by
  have hdelimiters : ∀ c ∈ [':', '@', '[', ']'], 32 < c.toNat ∧ c.toNat < 128 ∧ c ∉ ['/', '?', '#'] :=
    List.all_iff_forall_prop.1 (by decide)
  intro c hc
  rcases Authority.mem_text hc with ⟨info, hi, hc⟩ | rfl | hc
  · exact (h.isPlain_of_mem_info hi c hc).isKept
  · exact hdelimiters _ (by decide)
  · rcases Authority.mem_place hc with hc | hc | hc
    · exact h.host.isKept hc
    · exact hdelimiters c (List.mem_cons_of_mem _ (List.mem_cons_of_mem _ hc))
    · unfold Authority.portText at hc
      split at hc
      · rename_i digits hp
        rcases List.mem_cons.1 hc with rfl | hc
        · exact hdelimiters _ (by decide)
        · exact isKept_of_isDigit ((h.port digits hp).1 c hc)
      · cases hc

theorem isAlpha_of_mem_scheme (h : u.Regular) : ∀ c ∈ u.scheme, c.isAlpha = true := by
  intro c hc
  have hmem : c.toLower ∈ u.scheme.map Char.toLower := List.mem_map_of_mem hc
  have hletters : c.toLower ∈ ['a', 'm', 'q', 'p', 's'] := by
    rcases h.scheme with hs | hs
    · exact List.mem_append_left ['s'] (hs ▸ hmem)
    · exact hs ▸ hmem
  have hall : ∀ d ∈ ['a', 'm', 'q', 'p', 's'], d.isAlpha = true := List.all_iff_forall_prop.1 (by decide)
  exact isAlpha_of_isAlpha_toLower (hall _ hletters)

theorem isScheme (h : u.Regular) : isScheme u.scheme = true := by
  have hletters := h.isAlpha_of_mem_scheme
  cases hs : u.scheme with
  | nil => rcases h.scheme with hm | hm <;> rw [hs] at hm <;> cases hm
  | cons c rest =>
    rw [hs] at hletters
    simp only [Uri.isScheme, Bool.and_eq_true, List.all_eq_true]
    exact ⟨hletters c List.mem_cons_self, fun d hd => by simp [isSchemeChar, Char.isAlphanum, hletters d hd]⟩

theorem not_mem_segment (h : u.Regular) {s : List Char} (hs : u.segment = some s) {c : Char}
    (hc : c ∈ ['/', '?', '#', '@', '[', ']']) : c ∉ s :=
  fun hm => (h.segment s hs c hm).2.2 hc

end Regular

/-- The text as the general syntax has it. -/
def components (u : Form) : Components :=
  { scheme := some u.scheme, authority := some u.authority.text, path := u.path, tail := [] }

theorem text_components (u : Form) : u.components.text = u.text := by
  simp [components, Components.text, Components.hierarchy, text]

namespace Regular

theorem proper (h : u.Regular) : u.components.Proper := by
  refine ⟨⟨?_, ?_, nofun, ?_, nofun⟩, ?_, nofun⟩
  · rintro _ ⟨⟩ c hc
    exact endsAuthority_eq_false (List.Subset.refl _) (h.isKept_of_mem_authority c hc).2.2
  · -- what stands behind the authority is the slash of the segment, if there is one
    rintro a - c hc
    simp only [components, path, List.append_nil] at hc
    split at hc
    · cases hc
      rfl
    · cases hc
  · have hpath : ∀ c ∈ ['?', '#'], c ∉ u.path := by
      intro c hc
      have hall : ∀ c ∈ ['?', '#'], c ≠ '/' ∧ c ∈ ['/', '?', '#', '@', '[', ']'] :=
        List.all_iff_forall_prop.1 (by decide)
      obtain ⟨hslash, hdelimiter⟩ := hall c hc
      unfold path
      cases hs : u.segment with
      | none => exact List.not_mem_nil
      | some s => exact List.not_mem_cons_of_ne_of_not_mem hslash (h.not_mem_segment hs hdelimiter)
    exact ⟨hpath '?' (by decide), hpath '#' (by decide)⟩
  · rintro _ ⟨⟩
    exact h.isScheme

/-- Every character of the text is visible, and so none is dropped. -/
theorem clean_text (h : u.Regular) : clean u.text = u.text := by
  have hdelimiters : ∀ c ∈ [':', '/'], 32 < c.toNat := List.all_iff_forall_prop.1 (by decide)
  refine clean_eq_self_of_visible fun c hc => ?_
  simp only [text, List.mem_append, List.mem_cons] at hc
  rcases hc with (hc | rfl | rfl | rfl | hc) | hc
  · exact toNat_gt_of_isAlpha (h.isAlpha_of_mem_scheme c hc)
  · exact hdelimiters _ (by decide)
  · exact hdelimiters _ (by decide)
  · exact hdelimiters _ (by decide)
  · exact (h.isKept_of_mem_authority c hc).1
  · unfold path at hc
    split at hc
    · rename_i s hs
      rcases List.mem_cons.1 hc with rfl | hc
      · exact hdelimiters _ (by decide)
      · exact (h.segment s hs c hc).1
    · cases hc

theorem partsOf_text (h : u.Regular) : partsOf u.text =
    { scheme := u.scheme.map Char.toLower, authority := u.authority.text, path := u.path } :=
  Components.partsOf_eq h.proper (h.clean_text.trans u.text_components.symm)

/-! ## The checks -/

theorem checkBrackets_text (h : u.Regular) : checkBrackets u.authority.text = .ok () := by
  refine Authority.checkBrackets_text h.bounded (fun info hi => ?_) (fun s hs => ?_)
  · have hplain := h.isPlain_of_mem_info hi
    exact ⟨fun hm => (hplain _ hm).2.2 (by decide), fun hm => (hplain _ hm).2.2 (by decide)⟩
  · have hr := h.host
    rw [hs] at hr
    exact checkAddress_of_isIPv6 hr.1

theorem checkDisguise_text (h : u.Regular) : checkDisguise u.authority.text = .ok () := by
  have hnone : u.authority.text.any isDisguisedDelimiter = false := by
    rw [List.any_eq_false]
    intro c hc
    rw [isDisguisedDelimiter_of_ascii (h.isKept_of_mem_authority c hc).2.1]
    exact Bool.false_ne_true
  rw [checkDisguise, hnone]
  rfl

theorem check_text (h : u.Regular) : (partsOf u.text).check = .ok u.authority.number? := by
  rw [h.partsOf_text, Parts.check_eq_ok_iff]
  have hport := Authority.portOf_text h.bounded fun digits hp => (h.port digits hp).2
  refine ⟨h.checkBrackets_text, h.checkDisguise_text, hport, h.scheme, ?_⟩
  unfold path
  cases hs : u.segment with
  | none => exact List.not_mem_nil
  | some s => exact h.not_mem_segment hs (by decide)

end Regular

/-- A text of the grammar is read as the settings that its components stand for. -/
theorem read_text (h : u.Regular) : Endpoint.read u.text = .ok u.endpoint := by
  rw [Endpoint.read_eq, h.check_text, h.partsOf_text]
  have hhost := Authority.hostOf_text h.bounded
  have huser := Authority.userOf_text h.bounded fun user password hl hc => (h.user user password hl ':' hc).2 rfl
  have hpath : (if u.path = [] then "/" else String.ofList (percentDecode (u.path.drop 1))) = decoded u.segment "/" := by
    unfold path
    cases u.segment <;> rfl
  simp only [Except.map, Endpoint.ofParts, hhost, huser, List.isEmpty_iff, hpath]
  rfl

end Form

end JmsNaming.Uri
