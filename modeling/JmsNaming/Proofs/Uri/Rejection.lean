import JmsNaming.Proofs.Number.Decimal
import JmsNaming.Proofs.Text.Quoted
import JmsNaming.Proofs.Uri.Parts

/-
Why a URI is rejected: the text of a fault tells the fault, and the fault of an AMQP URI is one of the
authority alone, or that the path has several segments.
-/
namespace JmsNaming.Uri

open Text

/-! ## Texts of faults -/

namespace Fault

/-- The kinds of faults in the form of a URI; the two that concern AMQP alone are told differently. -/
def kind : Fault → Nat
  | brackets => 0
  | futureAddress => 1
  | bracketedIPv4 => 2
  | notAddress _ => 3
  | disguised _ => 4
  | portText _ => 5
  | portDigits _ => 6
  | portRange => 7
  | scheme _ | segments => 8

/-- The kind that single characters of a detail show. -/
def kindOf (detail : List Char) : Nat :=
  match detail[0]?, detail[5]? with
  | some 'I', some 'i' => 0
  | some 'I', _ => 1
  | some 'A', _ => 2
  | some 'n', _ => 4
  | some 'P', some 'c' => 5
  | some 'E', _ => 6
  | some 'P', _ => 7
  | none, _ => 8
  | _, _ => 3

set_option maxRecDepth 2000 in
theorem kindOf_detail (f : Fault) : kindOf f.detail = f.kind := by
  cases f with
  | brackets | futureAddress | bracketedIPv4 | portRange => decide
  | scheme | segments => rfl
  | notAddress host =>
    delta detail quoted kind
    rcases List.mem_cons.1 (quoteFor_mem host) with hq | hq
    · simp [kindOf, hq]
    · simp [kindOf, List.mem_singleton.1 hq]
  | disguised authority =>
    delta detail kind
    simp [kindOf]
  | portText port =>
    delta detail kind
    simp [kindOf]
  | portDigits count =>
    delta detail Number.Fault.message kind
    simp [kindOf]

/-- The detail of a fault in the form of a URI tells the fault. -/
theorem eq_of_detail_eq {f g : Fault} (hf : f.kind < 8) (h : f.detail = g.detail) : f = g := by
  have hk : f.kind = g.kind := by rw [← kindOf_detail, h, kindOf_detail]
  cases f with
  | notAddress s =>
    cases g with
    | notAddress t =>
      have hq : quoted s = quoted t := List.append_cancel_right h
      rw [quoted_injective hq]
    | _ => cases hk
  | disguised s =>
    cases g with
    | disguised t => rw [List.append_cancel_left (List.append_cancel_right h)]
    | _ => cases hk
  | portText s =>
    cases g with
    | portText t =>
      have hq : quoted s = quoted t := List.append_cancel_left h
      rw [quoted_injective hq]
    | _ => cases hk
  | portDigits m =>
    cases g with
    | portDigits n =>
      delta detail Number.Fault.message at h
      simp only [String.toList_append, List.append_cancel_left_eq, List.append_cancel_right_eq] at h
      have hd : Nat.toDigits 10 m = Nat.toDigits 10 n := by simpa [toString] using h
      rw [← natOfDigits_toDigits m, hd, natOfDigits_toDigits]
    | _ => cases hk
  | scheme | segments => exact absurd hf (by simp [kind])
  | _ => cases g <;> first | rfl | cases hk

theorem toList_message {f : Fault} (hf : f.kind < 8) :
    f.message.toList = "Could not parse AMQP URI: ".toList ++ f.detail := by
  cases f with
  | scheme | segments => exact absurd hf (by simp [kind])
  | _ =>
    delta message
    simp only [String.toList_append, String.toList_ofList]

/-- The first letter of the text of a fault. -/
def initial : Fault → Char
  | scheme _ => 'W'
  | segments => 'M'
  | _ => 'C'

theorem head?_message (f : Fault) : f.message.toList.head? = some f.initial := by
  cases f with
  | scheme s =>
    delta message
    simp [initial]
  | segments => decide
  | _ =>
    rw [toList_message (by simp [kind])]
    simp [initial]

theorem initial_eq_iff (f : Fault) : f.initial = 'C' ↔ f.kind < 8 := by
  cases f <;> simp [initial, kind]

/-- The text of a fault tells the fault. -/
theorem message_injective : Function.Injective message := by
  intro f g h
  have hi : f.initial = g.initial := by
    rw [← Option.some.injEq, ← head?_message, h, head?_message]
  by_cases hf : f.kind < 8
  · have hg : g.kind < 8 := by rwa [← initial_eq_iff, ← hi, initial_eq_iff]
    refine eq_of_detail_eq hf ?_
    have hd := toList_message hf
    rw [h, toList_message hg] at hd
    exact (List.append_cancel_left hd).symm
  · cases f with
    | scheme s =>
      cases g with
      | scheme t =>
        delta message at h
        have hl := congrArg String.toList h
        simp only [String.toList_append, String.toList_ofList, List.append_cancel_left_eq] at hl
        rw [quoted_injective hl]
      | _ => cases hi
    | segments => cases g <;> first | rfl | cases hi
    | _ => exact absurd (by simp [kind]) hf

end Fault

/-! ## Checks on the authority -/

/-- The checks on the authority alone. -/
def checkAuthority (authority : List Char) : Except Fault (Option Nat) := do
  checkBrackets authority
  checkDisguise authority
  portOf authority

theorem Parts.check_of_amqp {p : Parts} (h : p.scheme = ['a', 'm', 'q', 'p']) : p.check =
    checkAuthority p.authority >>= fun port =>
      if (p.path.drop 1).contains '/' then .error .segments else .ok port := by
  unfold Parts.check checkAuthority
  cases checkBrackets p.authority with
  | error fault => rfl
  | ok =>
    cases checkDisguise p.authority with
    | error fault => rfl
    | ok =>
      cases portOf p.authority with
      | error fault => rfl
      | ok port =>
        have hs : (p.scheme != ['a', 'm', 'q', 'p'] && p.scheme != ['a', 'm', 'q', 'p', 's']) = false := by
          simp [h]
        simp only [ok_bind, hs, Bool.false_eq_true, if_false]
        split <;> rfl

/-- Rejected URIs whose authorities pass or fail the checks alike have the same fault: what passes them
can only have a path of several segments. -/
theorem fault_eq_of_checkAuthority_eq {p q : Parts} {φ ψ : Fault} (hp : p.scheme = ['a', 'm', 'q', 'p'])
    (hq : q.scheme = ['a', 'm', 'q', 'p']) (h : checkAuthority p.authority = checkAuthority q.authority)
    (hφ : p.check = .error φ) (hψ : q.check = .error ψ) : φ = ψ := by
  rw [Parts.check_of_amqp hp, h] at hφ
  rw [Parts.check_of_amqp hq] at hψ
  -- a fault of the authority comes first in both; else each can only have several segments
  cases hc : checkAuthority q.authority with
  | error fault =>
    rw [hc] at hφ hψ
    cases hφ
    cases hψ
    rfl
  | ok port =>
    simp only [hc, ok_bind] at hφ hψ
    split at hφ
    · split at hψ
      · cases hφ
        cases hψ
        rfl
      · cases hψ
    · cases hφ

theorem checkBrackets_congr {a b : List Char} (h : hostPort a = hostPort b) (ho : a.contains '[' = b.contains '[')
    (hc : a.contains ']' = b.contains ']') : checkBrackets a = checkBrackets b := by
  unfold checkBrackets
  rw [h, ho, hc]

theorem portOf_congr {a b : List Char} (h : hostPort a = hostPort b) : portOf a = portOf b := by
  unfold portOf portTextOf
  rw [h]

theorem checkDisguise_eq_ok {a : List Char} (h : ∀ c ∈ a, isDisguisedDelimiter c = false) :
    checkDisguise a = .ok () := by
  have ha : a.any isDisguisedDelimiter = false := by simpa using h
  simp [checkDisguise, ha]

end JmsNaming.Uri
