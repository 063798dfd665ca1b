import JmsNaming.Proofs.Uri.Parts

/-
The components of a text as the general syntax of URIs has them: a scheme before a colon, an authority behind two
slashes, a path up to the first question mark or hash sign, and the rest. Every text has components, they put
together give the text, and the parts that the split finds are these.
-/
namespace JmsNaming.Uri

open Text

/-- The components of a text, with the delimiters of the query and the fragment in the tail. -/
structure Components where
  scheme : Option (List Char)
  authority : Option (List Char)
  path : List Char
  tail : List Char

namespace Components

/-- What stands behind the scheme. -/
def hierarchy (u : Components) : List Char :=
  match u.authority with
  | some a => '/' :: '/' :: a ++ (u.path ++ u.tail)
  | none => u.path ++ u.tail

/-- The components put together. -/
def text (u : Components) : List Char :=
  match u.scheme with
  | some s => s ++ ':' :: u.hierarchy
  | none => u.hierarchy

/-- Behind the scheme, each component ends where its delimiter stands first, and there is an authority if two slashes
stand there. -/
structure Placed (u : Components) : Prop where
  authority : ∀ a, u.authority = some a → ∀ c ∈ a, endsAuthority c = false
  bounded : ∀ a, u.authority = some a → ∀ c ∈ (u.path ++ u.tail).head?, endsAuthority c = true
  unplaced : u.authority = none → ¬['/', '/'] <+: u.path ++ u.tail
  path : '?' ∉ u.path ∧ '#' ∉ u.path
  tail : ∀ c ∈ u.tail.head?, c = '?' ∨ c = '#'

/-- There is a scheme if the text can be read with one. -/
structure Proper (u : Components) : Prop extends Placed u where
  scheme : ∀ s, u.scheme = some s → isScheme s = true
  unschemed : u.scheme = none → ∀ s rest, isScheme s = true → u.text ≠ s ++ ':' :: rest

variable {u : Components}

/-! ## The split finds the components -/

theorem splitScheme_text (h : u.Proper) :
    splitScheme u.text = ((u.scheme.getD []).map Char.toLower, u.hierarchy) := by
  cases hs : u.scheme with
  | some s =>
    have ht : u.text = s ++ ':' :: u.hierarchy := by simp [text, hs]
    rw [ht, splitScheme, cut?_append (not_mem_colon_of_isScheme (h.scheme s hs))]
    simp [h.scheme s hs]
  | none =>
    have ht : u.text = u.hierarchy := by simp [text, hs]
    rw [ht, splitScheme]
    cases hc : cut? ':' u.hierarchy with
    | none => rfl
    | some p =>
      have hno : ¬isScheme p.1 = true := fun hp => h.unschemed hs p.1 p.2 hp (ht.trans (eq_of_cut? hc))
      simp [hno]

theorem splitAuthority_hierarchy (h : u.Placed) :
    splitAuthority u.hierarchy = (u.authority.getD [], u.path ++ u.tail) := by
  cases ha : u.authority with
  | some a =>
    have hh : u.hierarchy = '/' :: '/' :: (a ++ (u.path ++ u.tail)) := by simp [hierarchy, ha]
    have hin : ∀ c ∈ a, (!endsAuthority c) = true := fun c hc => by simp [h.authority a ha c hc]
    rw [hh, splitAuthority, List.takeWhile_append_of_pos hin, List.dropWhile_append_of_pos hin]
    cases hrest : u.path ++ u.tail with
    | nil => simp
    | cons c rest =>
      have hc : endsAuthority c = true := h.bounded a ha c (by rw [hrest]; rfl)
      simp [hc]
  | none =>
    have hh : u.hierarchy = u.path ++ u.tail := by simp [hierarchy, ha]
    rw [hh]
    unfold splitAuthority
    split
    · rename_i rest hrest
      exact absurd ⟨rest, hrest.symm⟩ (h.unplaced ha)
    · rfl

theorem pathOf_append (h : u.Placed) : pathOf (u.path ++ u.tail) = u.path := by
  have htail : before '?' (before '#' u.tail) = [] := by
    cases ht : u.tail with
    | nil => rfl
    | cons c rest =>
      rcases h.tail c (by rw [ht]; rfl) with rfl | rfl <;> rfl
  rw [pathOf, before_append_of_not_mem h.path.2, before_append_of_not_mem h.path.1, htail, List.append_nil]

/-- The parts of a text are its components. -/
theorem partsOf_eq {uri : List Char} (h : u.Proper) (htext : clean uri = u.text) :
    partsOf uri = { scheme := (u.scheme.getD []).map Char.toLower
                    authority := u.authority.getD []
                    path := u.path } := by
  simp only [partsOf, htext, splitScheme_text h, splitAuthority_hierarchy h.toPlaced,
    pathOf_append h.toPlaced]

/-- Behind an authority stands no path, or one with a slash in front. -/
theorem Placed.head_path (h : u.Placed) {a : List Char} (ha : u.authority = some a) : ∀ c ∈ u.path.head?, c = '/' := by
  intro c hc
  obtain ⟨rest, hp⟩ : ∃ rest, u.path = c :: rest := by
    cases hp : u.path with
    | nil =>
      rw [hp] at hc
      cases hc
    | cons d rest =>
      rw [hp] at hc
      cases hc
      exact ⟨rest, rfl⟩
  have hends : endsAuthority c = true := h.bounded a ha c (by rw [hp]; rfl)
  have hmem : c ∈ u.path := by rw [hp]; exact List.mem_cons_self
  have hq : c ≠ '?' := fun he => h.path.1 (he ▸ hmem)
  have hh : c ≠ '#' := fun he => h.path.2 (he ▸ hmem)
  simpa [endsAuthority, hq, hh] using hends

/-! ## Every text has components -/

/-- A text is cut before the first character of a kind. -/
theorem exists_cut (p : Char → Bool) (s : List Char) :
    ∃ a b, s = a ++ b ∧ (∀ c ∈ a, p c = false) ∧ ∀ c ∈ b.head?, p c = true := by
  induction s with
  | nil => exact ⟨[], [], rfl, nofun, nofun⟩
  | cons x s ih =>
    cases hx : p x with
    | true => exact ⟨[], x :: s, rfl, nofun, fun c hc => Option.some.inj hc ▸ hx⟩
    | false =>
      obtain ⟨a, b, rfl, ha, hb⟩ := ih
      exact ⟨x :: a, b, rfl, List.forall_mem_cons.2 ⟨hx, ha⟩, hb⟩

theorem exists_path (s : List Char) : ∃ path tail, s = path ++ tail ∧ ('?' ∉ path ∧ '#' ∉ path) ∧
    ∀ c ∈ tail.head?, c = '?' ∨ c = '#' := by
  obtain ⟨path, tail, rfl, hpath, htail⟩ := exists_cut (fun c => c == '?' || c == '#') s
  refine ⟨path, tail, rfl, ⟨fun hm => ?_, fun hm => ?_⟩, fun c hc => ?_⟩
  · exact absurd (hpath _ hm) (by decide)
  · exact absurd (hpath _ hm) (by decide)
  · simpa using htail c hc

theorem exists_placed (s : List Char) (scheme : Option (List Char)) :
    ∃ u : Components, u.Placed ∧ u.scheme = scheme ∧ u.hierarchy = s := by
  by_cases hslashes : ['/', '/'] <+: s
  · obtain ⟨rest, rfl⟩ := hslashes
    obtain ⟨authority, rest, rfl, hauthority, hrest⟩ := exists_cut endsAuthority rest
    obtain ⟨path, tail, rfl, hpath, htail⟩ := exists_path rest
    refine ⟨⟨scheme, some authority, path, tail⟩, ⟨?_, fun a _ => hrest, nofun, hpath, htail⟩, rfl, rfl⟩
    rintro a ⟨⟩
    exact hauthority
  · obtain ⟨path, tail, rfl, hpath, htail⟩ := exists_path s
    exact ⟨⟨scheme, none, path, tail⟩, ⟨nofun, nofun, fun _ => hslashes, hpath, htail⟩, rfl, rfl⟩

/-- Every text is put together from components. -/
theorem exists_proper (s : List Char) : ∃ u : Components, u.Proper ∧ u.text = s := by
  by_cases hscheme : ∃ a rest, isScheme a = true ∧ s = a ++ ':' :: rest
  · obtain ⟨a, rest, ha, rfl⟩ := hscheme
    obtain ⟨u, hu, hs, hrest⟩ := exists_placed rest (some a)
    refine ⟨u, ⟨hu, fun b hb => ?_, fun hnone => ?_⟩, by simp [text, hs, hrest]⟩
    · rw [hs] at hb
      exact Option.some.inj hb ▸ ha
    · rw [hs] at hnone
      cases hnone
  · obtain ⟨u, hu, hs, hrest⟩ := exists_placed s none
    have ht : u.text = s := by simp [text, hs, hrest]
    refine ⟨u, ⟨hu, fun b hb => ?_, fun _ a rest ha he => hscheme ⟨a, rest, ha, ht ▸ he⟩⟩, ht⟩
    rw [hs] at hb
    cases hb

end Components

end JmsNaming.Uri
