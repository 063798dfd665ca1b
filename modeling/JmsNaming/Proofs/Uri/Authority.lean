import JmsNaming.Proofs.Number.Decimal
import JmsNaming.Proofs.Text.Cut
import JmsNaming.Uri.Split
import Mathlib.Data.Bool.AllAny
import Mathlib.Tactic.Common

/-
An authority put together from a login, a host and a port, each of which may be missing, and taken apart again: the last
`@` ends the login, and the brackets around an address keep its colons apart from the one before the port.
-/
namespace JmsNaming.Uri

open Text

/-- A host as an authority has it: a name, which may be empty, or an address in brackets. -/
inductive Host where
  | name (s : List Char)
  | address (s : List Char)

namespace Host

/-- The host itself. -/
def text : Host → List Char
  | name s => s
  | address s => s

/-- The host as it is written. -/
def written : Host → List Char
  | name s => s
  | address s => '[' :: s ++ [']']

/-- The host has none of the characters that end it. -/
structure Bounded (h : Host) : Prop where
  plain : ∀ c ∈ h.text, c ∉ ['@', '[', ']']
  name : ∀ s, h = .name s → ':' ∉ s

theorem Bounded.not_mem {h : Host} (hb : h.Bounded) {c : Char} (hc : c ∈ ['@', '[', ']']) : c ∉ h.text :=
  fun hm => hb.plain c hm hc

end Host

/-- The components of an authority: a user that may have a password, a host, and a port that may be empty. -/
structure Authority where
  login : Option (List Char × Option (List Char))
  host : Host
  port : Option (List Char)

namespace Authority

/-- What stands before the `@`. -/
def info (a : Authority) : Option (List Char) :=
  a.login.map fun login =>
    match login.2 with
    | some password => login.1 ++ ':' :: password
    | none => login.1

/-- The port with the colon before it. -/
def portText (a : Authority) : List Char :=
  match a.port with
  | some digits => ':' :: digits
  | none => []

/-- The host and the port. -/
def place (a : Authority) : List Char :=
  a.host.written ++ a.portText

/-- The components put together. -/
def text (a : Authority) : List Char :=
  match a.info with
  | some info => info ++ '@' :: a.place
  | none => a.place

/-- The number of the port, if there are digits. -/
def number? (a : Authority) : Option Nat :=
  match a.port with
  | some (c :: digits) => some (Nat.ofDigitChars 10 (c :: digits) 0)
  | _ => none

/-- The host and the port end where their delimiters stand. -/
structure Bounded (a : Authority) : Prop where
  host : a.host.Bounded
  port : ∀ digits, a.port = some digits → ∀ c ∈ digits, c.isDigit = true

variable {a : Authority} {c : Char}

theorem not_mem_portText (hd : ∀ digits, a.port = some digits → ∀ c ∈ digits, c.isDigit = true) (hc : c.isDigit = false)
    (hcolon : c ≠ ':') : c ∉ a.portText := by
  unfold portText
  cases hp : a.port with
  | none => exact List.not_mem_nil
  | some digits =>
    intro hm
    rcases List.mem_cons.1 hm with rfl | hm
    · exact hcolon rfl
    · rw [hd digits hp c hm] at hc
      cases hc

theorem place_of_name {s : List Char} (hh : a.host = .name s) : a.place = s ++ a.portText := by
  rw [place, hh]
  rfl

theorem place_of_address {s : List Char} (hh : a.host = .address s) : a.place = '[' :: (s ++ ']' :: a.portText) := by
  simp [place, hh, Host.written]

theorem mem_place (h : c ∈ a.place) : c ∈ a.host.text ∨ c ∈ ['[', ']'] ∨ c ∈ a.portText := by
  cases hh : a.host with
  | name s =>
    rw [place_of_name hh] at h
    exact (List.mem_append.1 h).imp_right .inr
  | address s =>
    rw [place_of_address hh] at h
    simp only [List.mem_append, List.mem_cons] at h
    simp only [Host.text, List.mem_cons, List.not_mem_nil, or_false]
    tauto

theorem mem_text (h : c ∈ a.text) : (∃ info, a.info = some info ∧ c ∈ info) ∨ c = '@' ∨ c ∈ a.place := by
  unfold text at h
  cases hi : a.info with
  | none =>
    rw [hi] at h
    exact .inr (.inr h)
  | some info =>
    rw [hi] at h
    simp only [List.mem_append, List.mem_cons] at h
    exact h.imp_left fun h => ⟨info, rfl, h⟩

namespace Bounded

theorem at_not_mem_place (h : a.Bounded) : '@' ∉ a.place := by
  intro hm
  rcases mem_place hm with hm | hm | hm
  · exact h.host.not_mem (by decide) hm
  · exact absurd hm (by decide)
  · exact not_mem_portText h.port (by decide) (by decide) hm

/-- Without an address there are no brackets behind the login. -/
theorem bracket_not_mem_place (h : a.Bounded) {s : List Char} (hh : a.host = .name s) (hc : c ∈ ['[', ']']) :
    c ∉ a.place := by
  have hall : ∀ c ∈ ['[', ']'], c.isDigit = false ∧ c ≠ ':' ∧ c ∈ ['@', '[', ']'] :=
    List.all_iff_forall_prop.1 (by decide)
  obtain ⟨hdigit, hcolon, hdelimiter⟩ := hall c hc
  rw [place_of_name hh, List.mem_append, not_or]
  refine ⟨?_, not_mem_portText h.port hdigit hcolon⟩
  have hm := h.host.not_mem hdelimiter
  rwa [hh] at hm

theorem close_not_mem (h : a.Bounded) {s : List Char} (hh : a.host = .address s) : ']' ∉ s := by
  have hm := h.host.not_mem (c := ']') (by decide)
  rwa [hh] at hm

end Bounded

/-! ## Taking it apart -/

theorem hostPort_text (h : '@' ∉ a.place) : hostPort a.text = a.place := by
  unfold hostPort text
  cases a.info with
  | none => exact afterLast_eq_self h
  | some info => rw [afterLast_append, afterLast_eq_self h]

theorem userOf_text (h : a.Bounded) (huser : ∀ user password, a.login = some (user, password) → ':' ∉ user) :
    userOf a.text = (a.login.map Prod.fst, a.login.bind Prod.snd) := by
  have hat := h.at_not_mem_place
  unfold userOf text info
  cases hl : a.login with
  | none =>
    simp only [Option.map_none, cutLast?_eq_none hat]
    rfl
  | some login =>
    obtain ⟨user, password⟩ := login
    have hu := huser user password hl
    cases password with
    | none =>
      simp only [Option.map_some, cutLast?_append hat, cut?_eq_none hu]
      rfl
    | some password =>
      simp only [Option.map_some, cutLast?_append hat, cut?_append hu]
      rfl

theorem hostOf_text (h : a.Bounded) : hostOf a.text = a.host.text := by
  unfold hostOf
  rw [hostPort_text h.at_not_mem_place]
  cases hh : a.host with
  | name s =>
    -- a name does not begin with a bracket, and ends at the colon before the port, if there is one
    have hcolon : ':' ∉ s := h.host.name s hh
    split
    · rename_i rest he
      exact absurd (he ▸ List.mem_cons_self) (h.bracket_not_mem_place hh (c := '[') (by decide))
    · rw [place_of_name hh, portText]
      cases a.port with
      | none => simpa [Host.text] using before_eq_self hcolon
      | some digits => exact before_append hcolon
  | address s =>
    rw [place_of_address hh]
    simp [before_append (h.close_not_mem hh), Host.text]

theorem after_portText : after ':' a.portText = a.port.getD [] := by
  unfold portText
  cases a.port with
  | none => rfl
  | some digits => exact after_cons_self

theorem portTextOf_text (h : a.Bounded) : portTextOf a.text = a.port.getD [] := by
  unfold portTextOf
  rw [hostPort_text h.at_not_mem_place]
  cases hh : a.host with
  | name s =>
    have hcolon : ':' ∉ s := h.host.name s hh
    rw [cut?_eq_none (h.bracket_not_mem_place hh (by decide)), place_of_name hh, portText]
    cases a.port with
    | none => simpa using after_eq_nil hcolon
    | some digits => exact after_append hcolon
  | address s =>
    -- the colons of an address are skipped with its brackets
    have hopen : cut? '[' a.place = some ([], s ++ ']' :: a.portText) := by
      rw [place_of_address hh, cut?_cons_self]
    simp only [hopen, after_append (h.close_not_mem hh), after_portText]

/-- A port of not too many digits is their number, if that is in range. -/
theorem portOf_text (h : a.Bounded) (hport : ∀ digits, a.port = some digits → digits.length ≤ 4300 ∧
    Nat.ofDigitChars 10 digits 0 ≤ 65535) : portOf a.text = .ok a.number? := by
  unfold portOf number?
  rw [portTextOf_text h]
  cases hp : a.port with
  | none => rfl
  | some digits =>
    obtain ⟨hlength, hle⟩ := hport digits hp
    cases digits with
    | nil => rfl
    | cons c digits =>
      have hall : (c :: digits).all Char.isDigit = true := List.all_eq_true.2 (h.port _ hp)
      simp only [Option.getD_some, hall, natOfDigits_eq, if_neg (Nat.not_lt.2 hlength), if_pos hle]
      rfl

/-! ## Checking it -/

/-- An address is checked as one. -/
theorem checkBrackets_of_address {s : List Char} (hh : a.host = .address s) (hat : '@' ∉ a.place) (hclose : ']' ∉ s) :
    checkBrackets a.text = checkAddress s := by
  -- both brackets occur, whatever stands before the `@`
  have hplace : ∀ c ∈ ['[', ']'], c ∈ a.place := by
    rw [place_of_address hh]
    simp
  have htext : ∀ c ∈ ['[', ']'], a.text.contains c = true := by
    intro c hc
    rw [List.contains_iff_mem]
    unfold text
    cases a.info with
    | none => exact hplace c hc
    | some info => exact List.mem_append_right _ (List.mem_cons_of_mem _ (hplace c hc))
  have hopen : cut? '[' a.place = some ([], s ++ ']' :: a.portText) := by
    rw [place_of_address hh, cut?_cons_self]
  have htail : a.portText = [] ∨ a.portText.head? = some ':' := by
    unfold portText
    cases a.port with
    | none => exact .inl rfl
    | some digits => exact .inr rfl
  unfold checkBrackets
  rw [htext '[' (by decide), htext ']' (by decide), hostPort_text hat]
  simp only [hopen, after_append hclose, before_append hclose]
  rcases htail with htail | htail <;> simp [htail]

/-- Brackets are in order if only an address has them. -/
theorem checkBrackets_text (h : a.Bounded) (hinfo : ∀ info, a.info = some info → '[' ∉ info ∧ ']' ∉ info)
    (haddress : ∀ s, a.host = .address s → checkAddress s = .ok ()) : checkBrackets a.text = .ok () := by
  cases hh : a.host with
  | name s =>
    have hnone : ∀ c ∈ ['[', ']'], a.text.contains c = false := by
      intro c hc
      rw [Bool.eq_false_iff]
      intro hm
      rcases mem_text (List.contains_iff_mem.1 hm) with ⟨info, hi, hm⟩ | rfl | hm
      · have hboth := hinfo info hi
        simp only [List.mem_cons, List.not_mem_nil, or_false] at hc
        rcases hc with rfl | rfl
        · exact hboth.1 hm
        · exact hboth.2 hm
      · exact absurd hc (by decide)
      · exact h.bracket_not_mem_place hh hc hm
    unfold checkBrackets
    rw [hnone '[' (by decide), hnone ']' (by decide)]
    rfl
  | address s => rw [checkBrackets_of_address hh h.at_not_mem_place (h.close_not_mem hh), haddress s hh]

end Authority

end JmsNaming.Uri
