import JmsNaming.Proofs.Uri.Rejection
import Mathlib.Data.List.TakeWhile

/-
A password in a URI, as it stands there: which checks of a rejected URI see it, and that the settings of
an accepted one depend on it in the password alone.
-/
namespace JmsNaming.Uri

open Text

/-! ## Rejected URIs -/

/-- The AMQP URI with a user, a password and whatever follows them, nothing of it coded. -/
def withPassword (user password rest : List Char) : List Char :=
  ['a', 'm', 'q', 'p'] ++ ':' :: '/' :: '/' :: (user ++ ':' :: password ++ '@' :: rest)

/-- A character that is not dropped when a text is cleaned. -/
def isKept (c : Char) : Bool :=
  c != '\t' && c != '\r' && c != '\n'

variable {user password rest : List Char}

theorem clean_withPassword : clean (withPassword user password rest) = ['a', 'm', 'q', 'p'] ++ ':' :: '/' :: '/' ::
    (user.filter isKept ++ ':' :: password.filter isKept ++ '@' :: rest.filter isKept) := by
  have hd : (withPassword user password rest).dropWhile (fun c => c.toNat ≤ 32) = withPassword user password rest := by
    simp [withPassword]
  rw [clean, hd]
  simp [withPassword, List.filter_append]
  rfl

/-- The authority of the URI with a password. -/
def authorityWith (user password rest : List Char) : List Char :=
  (user.filter isKept ++ ':' :: password.filter isKept ++ '@' :: rest.filter isKept).takeWhile fun c => !endsAuthority c

theorem partsOf_withPassword (user password rest : List Char) :
    (partsOf (withPassword user password rest)).scheme = ['a', 'm', 'q', 'p'] ∧
    (partsOf (withPassword user password rest)).authority = authorityWith user password rest := by
  rw [partsOf_of_clean (by decide) clean_withPassword]
  exact ⟨rfl, rfl⟩

/-- A user that ends the authority leaves the password out of it. -/
theorem authorityWith_of_user (h : ∃ c ∈ user, endsAuthority c = true) :
    authorityWith user password rest = (user.filter isKept).takeWhile fun c => !endsAuthority c := by
  obtain ⟨c, hc, he⟩ := h
  have hkept : isKept c = true := by
    simp only [endsAuthority, Bool.or_eq_true, beq_iff_eq] at he
    rcases he with (rfl | rfl) | rfl <;> decide
  -- the character that ends the authority is kept, so that less than the user stands before it
  have hshort : ((user.filter isKept).takeWhile fun c => !endsAuthority c).length ≠ (user.filter isKept).length := by
    intro hl
    have heq := (List.takeWhile_prefix (fun c => !endsAuthority c)).eq_of_length hl
    have hall := List.takeWhile_eq_self_iff.1 heq c (List.mem_filter.2 ⟨hc, hkept⟩)
    simp [he] at hall
  rw [authorityWith, List.append_assoc, List.takeWhile_append, if_neg hshort]

/-- A password that does not end the authority stands in it as a whole. -/
theorem authorityWith_of_password (hu : ∀ c ∈ user, endsAuthority c = false)
    (hp : ∀ c ∈ password, endsAuthority c = false) : authorityWith user password rest =
      user.filter isKept ++ ':' :: password.filter isKept ++
        '@' :: (rest.filter isKept).takeWhile fun c => !endsAuthority c := by
  have hall : ∀ c ∈ user.filter isKept ++ ':' :: password.filter isKept ++ ['@'], (!endsAuthority c) = true := by
    intro c hc
    simp only [List.mem_append, List.mem_cons, List.not_mem_nil, or_false] at hc
    rcases hc with (hc | rfl | hc) | rfl
    · simp [hu c (List.mem_filter.1 hc).1]
    · decide
    · simp [hp c (List.mem_filter.1 hc).1]
    · decide
  have hsplit : user.filter isKept ++ ':' :: password.filter isKept ++ '@' :: rest.filter isKept =
      user.filter isKept ++ ':' :: password.filter isKept ++ ['@'] ++ rest.filter isKept := by
    simp
  rw [authorityWith, hsplit, List.takeWhile_append_of_pos hall]
  simp

/-- A password that the checks on the authority do not see: either the user ends the authority before it,
or it has no delimiter of the authority and of addresses, and no character is a delimiter in disguise. -/
def Unseen (user password rest : List Char) : Prop :=
  (∃ c ∈ user, endsAuthority c = true) ∨
    (∀ c ∈ password, c ∉ ['/', '?', '#', '[', ']']) ∧
      ∀ c ∈ user ++ password ++ rest, isDisguisedDelimiter c = false

/-- The checks on an authority are the same as without the password in it, if the password has no bracket
and no character of the authority is a delimiter in disguise. -/
theorem checkAuthority_congr {place : List Char} (hplain : ∀ c ∈ password, c ∉ ['[', ']'])
    (hclear : ∀ c ∈ user ++ password ++ place, isDisguisedDelimiter c = false) :
    checkAuthority (user ++ ':' :: password ++ '@' :: place) = checkAuthority (user ++ ':' :: [] ++ '@' :: place) := by
  -- the brackets, and the place behind the last `@`, are the same for every such password
  have hbracket : ∀ b ∈ ['[', ']'], (user ++ ':' :: password ++ '@' :: place).contains b =
      (user ++ ':' :: [] ++ '@' :: place).contains b := by
    intro b hb
    have hnot : b ∉ password := fun hm => hplain b hm hb
    have hb' : b ≠ ':' ∧ b ≠ '@' := by
      simp only [List.mem_cons, List.not_mem_nil, or_false] at hb
      rcases hb with rfl | rfl <;> decide
    simp [hnot, hb'.1, hb'.2]
  have hhost : hostPort (user ++ ':' :: password ++ '@' :: place) = hostPort (user ++ ':' :: [] ++ '@' :: place) :=
    afterLast_append.trans afterLast_append.symm
  have hdisguise : ∀ s : List Char, (∀ c ∈ s, c ∈ password) →
      checkDisguise (user ++ ':' :: s ++ '@' :: place) = .ok () := by
    intro s hs
    refine checkDisguise_eq_ok fun c hc => ?_
    simp only [List.mem_append, List.mem_cons] at hc
    rcases hc with (hc | rfl | hc) | rfl | hc
    · exact hclear c (by simp [hc])
    · decide
    · exact hclear c (by simp [hs c hc])
    · decide
    · exact hclear c (by simp [hc])
  unfold checkAuthority
  rw [checkBrackets_congr hhost (hbracket '[' (by decide)) (hbracket ']' (by decide)), portOf_congr hhost,
    hdisguise password fun c hc => hc, hdisguise [] (by simp)]

/-- The checks on the authority are the same as without the password, if they do not see it. -/
theorem checkAuthority_of_unseen (h : Unseen user password rest) :
    checkAuthority (authorityWith user password rest) = checkAuthority (authorityWith user [] rest) := by
  by_cases hu : ∃ c ∈ user, endsAuthority c = true
  · rw [authorityWith_of_user hu, authorityWith_of_user hu]
  · obtain ⟨hplain, hclear⟩ := h.resolve_left hu
    have hnone : ∀ c ∈ user, endsAuthority c = false := fun c hc => by
      simpa using fun he => hu ⟨c, hc, he⟩
    have hends : ∀ c ∈ password, endsAuthority c = false := fun c hc =>
      endsAuthority_eq_false (List.sublist_append_left ['/', '?', '#'] ['[', ']']).subset (hplain c hc)
    rw [authorityWith_of_password hnone hends, authorityWith_of_password hnone (by simp)]
    apply checkAuthority_congr
    · intro c hc hb
      exact hplain c (List.mem_filter.1 hc).1 (List.mem_append_right ['/', '?', '#'] hb)
    · intro c hc
      simp only [List.mem_append] at hc
      rcases hc with (hc | hc) | hc
      · exact hclear c (by simp [(List.mem_filter.1 hc).1])
      · exact hclear c (by simp [(List.mem_filter.1 hc).1])
      · have hrest := (List.mem_filter.1 (List.takeWhile_subset _ hc)).1
        exact hclear c (by simp [hrest])

/-! ## Accepted URIs -/

/-- The URIs are the same, or agree in all their parts but the password. -/
def SameButPassword (u v : List Char) : Prop :=
  u = v ∨ ∃ scheme user p q place path, ':' ∉ user ∧ '@' ∉ place ∧
    partsOf u = ⟨scheme, user ++ ':' :: p ++ '@' :: place, path⟩ ∧
    partsOf v = ⟨scheme, user ++ ':' :: q ++ '@' :: place, path⟩

end JmsNaming.Uri

namespace JmsNaming.Endpoint

open Uri Text

/-- The settings of accepted URIs that agree but for the password agree but for the password. -/
theorem read_of_sameButPassword {u v : List Char} {e e' : Endpoint} (h : SameButPassword u v)
    (hu : read u = .ok e) (hv : read v = .ok e') : { e with password := "" } = { e' with password := "" } := by
  rcases h with rfl | ⟨scheme, user, p, q, place, path, hcolon, hat, hpu, hpv⟩
  · rw [hu] at hv
    rw [Except.ok.inj hv]
  · obtain ⟨port, hc, rfl⟩ := exists_check_of_read hu
    have hport := (Parts.check_eq_ok_iff.1 hc).2.2.1
    obtain ⟨port', hc', rfl⟩ := exists_check_of_read hv
    have hport' := (Parts.check_eq_ok_iff.1 hc').2.2.1
    rw [hpu] at hport ⊢
    rw [hpv] at hport' ⊢
    have hplace : ∀ s : List Char, hostPort (user ++ ':' :: s ++ '@' :: place) = place := fun s => by
      rw [hostPort, afterLast_append, afterLast_eq_self hat]
    have huser : ∀ s : List Char, userOf (user ++ ':' :: s ++ '@' :: place) = (some user, some s) := fun s => by
      simp only [userOf, cutLast?_append hat, cut?_append hcolon]
    -- the port is read from the place behind the last `@` alone
    have hsame : port = port' := by
      rw [portOf_congr ((hplace p).trans (hplace q).symm), hport'] at hport
      exact (Except.ok.inj hport).symm
    simp only [ofParts, hostOf, hplace, huser, hsame]

end JmsNaming.Endpoint
