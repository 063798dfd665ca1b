import JmsNaming.Proofs.Uri.Address
import JmsNaming.Proofs.Uri.Authority
import JmsNaming.Proofs.Uri.Components

/-
The place that an authority names behind its login, and the host and the port that are read from it. Each of the two is
cut in a way of its own, and the two agree as long as an opening bracket is closed: then the place is the host, with or
without brackets, and the port with its colon. A bracket that is not closed leaves the host short of a character.
-/
namespace JmsNaming

open Text

namespace Uri

/-! ## The port -/

/-- A port is read from digits, or there are none. -/
theorem portTextOf_of_portOf {authority : List Char} {port : Option Nat} (h : portOf authority = .ok port) :
    (∀ c ∈ portTextOf authority, c.isDigit = true) ∧
      port = if portTextOf authority = [] then none else some (Nat.ofDigitChars 10 (portTextOf authority) 0) := by
  unfold portOf at h
  dsimp only at h
  split_ifs at h with hempty hdigits hlength hle
  · have hnil : portTextOf authority = [] := List.isEmpty_iff.1 hempty
    cases h
    simp [hnil]
  · have hne : portTextOf authority ≠ [] := fun hnil => hempty (List.isEmpty_iff.2 hnil)
    rw [natOfDigits_eq] at h
    cases h
    refine ⟨?_, (if_neg hne).symm⟩
    simpa using hdigits

/-! ## The brackets -/

/-- An address has two characters at least. -/
theorem two_le_length_of_checkAddress {s : List Char} (h : checkAddress s = .ok ()) : 2 ≤ s.length := by
  match s, h with
  | [], h => exact absurd h (by decide)
  | [c], h =>
    exfalso
    unfold checkAddress at h
    split_ifs at h with hversion hfuture hquad haddress
    · obtain rfl : c = 'v' := by simpa using hversion
      exact absurd hfuture (by decide)
    · obtain rfl : ':' = c := by simpa using before_subset (isAddressChar_of_isIPv6 haddress).1
      exact absurd haddress (by decide)
  | _ :: _ :: _, _ => simp

/-- Brackets that are in order stand around the whole host, except that the closing one may be missing. -/
theorem hostPort_of_checkBrackets {authority : List Char} (h : checkBrackets authority = .ok ())
    (hopen : '[' ∈ hostPort authority) : ∃ rest, hostPort authority = '[' :: rest ∧
      (∀ c ∈ (after ']' rest).head?, c = ':') ∧ checkAddress (before ']' rest) = .ok () := by
  obtain ⟨front, rest, hplace, hfront⟩ := List.eq_append_cons_of_mem hopen
  unfold checkBrackets at h
  rw [hplace, cut?_append hfront] at h
  split_ifs at h with hboth hnone
  · exact absurd (afterLast_subset hopen) (by simpa using hnone)
  · dsimp only at h
    split_ifs at h with hout
    simp only [Bool.or_eq_true, Bool.and_eq_true, Bool.not_eq_true', bne_iff_ne, not_or, not_and, not_not,
      Bool.not_eq_false, List.isEmpty_iff] at hout
    obtain ⟨rfl, htail⟩ := hout
    refine ⟨rest, hplace, fun c hc => ?_, h⟩
    have hne : (after ']' rest).isEmpty = false := by
      cases htext : after ']' rest with
      | nil =>
        rw [htext] at hc
        cases hc
      | cons x tail => rfl
    exact Option.some.inj (hc.symm.trans (htail hne))

/-! ## The host and the port of a place -/

namespace Authority

/-- The host and the port are those of the components: the default host where none is written, and the default port
where there are no digits. -/
structure Carries (a : Authority) (e : Endpoint) : Prop where
  digits : ∀ digits, a.port = some digits → ∀ c ∈ digits, c.isDigit = true
  host : e.host = if a.host.text = [] then "localhost" else String.ofList a.host.text
  port : e.port = a.number?.getD (Endpoint.defaultPort e.ssl)

theorem number?_eq (a : Authority) : a.number? =
    if a.port.getD [] = [] then none else some (Nat.ofDigitChars 10 (a.port.getD []) 0) := by
  unfold number?
  cases a.port with
  | none => rfl
  | some digits => cases digits <;> simp

/-- Behind the host stands a port with its colon, or nothing. -/
theorem exists_portText (host : Host) {s : List Char} (h : ∀ c ∈ s.head?, c = ':') :
    ∃ a : Authority, a.host = host ∧ a.portText = s ∧ a.port.getD [] = after ':' s := by
  cases s with
  | nil => exact ⟨⟨none, host, none⟩, rfl, rfl, rfl⟩
  | cons c digits =>
    obtain rfl := h c rfl
    exact ⟨⟨none, host, some digits⟩, rfl, rfl, after_cons_self.symm⟩

end Authority

end Uri

namespace Endpoint

open Uri

variable {p : Parts} {port : Option Nat}

/-- Components whose host and port are cut out of the parts carry what is read from the parts. -/
theorem carries_ofParts {a : Authority} (h : portOf p.authority = .ok port) (hhost : a.host.text = hostOf p.authority)
    (hport : a.port.getD [] = portTextOf p.authority) : a.Carries (ofParts p port) := by
  obtain ⟨hdigits, hnumber⟩ := portTextOf_of_portOf h
  refine ⟨fun digits hd => ?_, ?_, ?_⟩
  · rw [hd] at hport
    rwa [← hport] at hdigits
  · simp only [ofParts, hhost, List.isEmpty_iff]
  · rw [a.number?_eq, hport, ← hnumber]
    rfl

/-- A place without an opening bracket, or with a closed one, is put together from the host and the port. -/
theorem exists_carries (hbrackets : checkBrackets p.authority = .ok ()) (h : portOf p.authority = .ok port)
    (hclosed : '[' ∈ hostPort p.authority → ']' ∈ hostPort p.authority) :
    ∃ a : Authority, a.place = hostPort p.authority ∧ a.Carries (ofParts p port) := by
  by_cases hopen : '[' ∈ hostPort p.authority
  · obtain ⟨rest, hplace, htail, -⟩ := hostPort_of_checkBrackets hbrackets hopen
    have hclose : ']' ∈ rest := by
      have hm := hclosed hopen
      rw [hplace] at hm
      exact List.mem_of_ne_of_mem (by decide) hm
    obtain ⟨address, tail, rfl, hfirst⟩ := List.eq_append_cons_of_mem hclose
    rw [after_append hfirst] at htail
    obtain ⟨a, hhost, htext, hport⟩ := Authority.exists_portText (.address address) htail
    refine ⟨a, ?_, carries_ofParts h ?_ ?_⟩
    · rw [Authority.place_of_address hhost, hplace, htext]
    · simp [hostOf, hplace, before_append hfirst, hhost, Host.text]
    · simp only [portTextOf, hplace, cut?_cons_self, after_append hfirst, hport]
  · obtain ⟨name, tail, hplace, hname, htail⟩ := Components.exists_cut (· == ':') (hostPort p.authority)
    have hcolon : ':' ∉ name := fun hm => absurd (hname ':' hm) (by decide)
    obtain ⟨a, hhost, htext, hport⟩ := Authority.exists_portText (.name name)
      fun c hc => eq_of_beq (htail c hc)
    refine ⟨a, ?_, carries_ofParts h ?_ ?_⟩
    · rw [Authority.place_of_name hhost, hplace, htext]
    · rw [hhost, Host.text, hostOf]
      split
      · rename_i rest he
        exact absurd (he ▸ List.mem_cons_self) hopen
      · rw [hplace, before_append_of_not_mem hcolon]
        cases tail with
        | nil => simp [before]
        | cons c digits =>
          have hc : c = ':' := eq_of_beq (htail c rfl)
          simp [before, hc]
    · simp only [portTextOf, cut?_eq_none hopen]
      rw [hplace, after_append_of_not_mem hcolon, hport]

/-- An opening bracket that is not closed takes the last character of the place out of the host, and there is no
port. -/
theorem host_of_unclosed (hbrackets : checkBrackets p.authority = .ok ()) (h : portOf p.authority = .ok port)
    (hopen : '[' ∈ hostPort p.authority) (hclose : ']' ∉ hostPort p.authority) :
    ∃ c, hostPort p.authority = '[' :: ((ofParts p port).host.toList ++ [c]) ∧ (ofParts p port).host ≠ "" ∧
      (ofParts p port).port = defaultPort (ofParts p port).ssl := by
  obtain ⟨rest, hplace, -, haddress⟩ := hostPort_of_checkBrackets hbrackets hopen
  have hrest : ']' ∉ rest := fun hm => hclose (hplace ▸ List.mem_cons_of_mem _ hm)
  rw [before_eq_self hrest] at haddress
  have hlength := two_le_length_of_checkAddress haddress
  obtain ⟨host, c, rfl⟩ : ∃ host c, rest = host ++ [c] :=
    (List.eq_nil_or_concat' rest).resolve_left (List.ne_nil_of_length_pos (by omega))
  have hne : host ≠ [] := by
    rintro rfl
    simp at hlength
  have hhost : (ofParts p port).host = String.ofList host := by
    have hread : hostOf p.authority = host := by
      have hcontains : (host ++ [c]).contains ']' = false := Bool.eq_false_iff.2 (mt List.contains_iff_mem.1 hrest)
      simp only [hostOf, hplace, hcontains, List.dropLast_concat]
      rfl
    simp [ofParts, hread, hne]
  have hport : portTextOf p.authority = [] := by
    simp only [portTextOf, hplace, cut?_cons_self, after_eq_nil hrest]
    rfl
  refine ⟨c, ?_, ?_, ?_⟩
  · rw [hhost, String.toList_ofList, hplace]
  · rw [hhost]
    exact fun he => hne (String.ofList_eq_empty_iff.1 he)
  · obtain ⟨-, hnumber⟩ := portTextOf_of_portOf h
    rw [if_pos hport] at hnumber
    simp only [ofParts, hnumber, Option.getD_none]

/-- Components that carry what is read from a place with an opening bracket have the closing one as well. -/
theorem close_mem_of_carries {a : Authority} (hbrackets : checkBrackets p.authority = .ok ())
    (h : portOf p.authority = .ok port) (hplace : a.place = hostPort p.authority) (ha : a.Carries (ofParts p port))
    (hopen : '[' ∈ hostPort p.authority) : ']' ∈ hostPort p.authority := by
  by_contra hclose
  obtain ⟨c, hshort, hne, -⟩ := host_of_unclosed hbrackets h hopen hclose
  cases hh : a.host with
  | address s =>
    rw [← hplace, Authority.place_of_address hh] at hclose
    simp at hclose
  | name s =>
    -- a name would have to keep the bracket that the host has lost
    rw [← hplace, Authority.place_of_name hh] at hshort
    have hcount := congrArg (List.count '[') hshort
    have hport : '[' ∉ a.portText := Authority.not_mem_portText ha.digits (by decide) (by decide)
    have hhost := ha.host
    rw [hh, Host.text] at hhost
    split_ifs at hhost with hs
    · rw [hs, List.nil_append] at hshort
      rw [hshort] at hport
      exact hport List.mem_cons_self
    · rw [hhost, String.toList_ofList, List.count_append, List.count_eq_zero_of_not_mem hport,
        List.count_cons_self, List.count_append] at hcount
      omega

end Endpoint

end JmsNaming
