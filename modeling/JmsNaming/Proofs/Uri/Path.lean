import JmsNaming.Proofs.Uri.Components

/-
The path of an AMQP URI: one segment, the virtual host. The reading drops the first character of the path as the slash
that an authority puts in front of it. Without an authority there need not be one, and then it drops another.
-/
namespace JmsNaming

open Text Uri

namespace Uri

/-! ## Without an authority -/

namespace Parts

variable {p : Parts}

/-- Where there is no authority, only the scheme and the path can be wrong. -/
theorem exists_check_iff_of_unplaced (h : p.authority = []) : (∃ port, p.check = .ok port) ↔
    (p.scheme = ['a', 'm', 'q', 'p'] ∨ p.scheme = ['a', 'm', 'q', 'p', 's']) ∧ '/' ∉ p.path.drop 1 := by
  have hbrackets : checkBrackets [] = .ok () := rfl
  have hdisguise : checkDisguise [] = .ok () := rfl
  have hport : portOf [] = .ok none := rfl
  simp [check_eq_ok_iff, h, hbrackets, hdisguise, hport]

end Parts

namespace Components

variable {u : Components}

/-- The scheme is one of the two of AMQP, in letters of either case. -/
def IsAmqp (u : Components) : Prop :=
  ∃ s, u.scheme = some s ∧ (s.map Char.toLower = ['a', 'm', 'q', 'p'] ∨ s.map Char.toLower = ['a', 'm', 'q', 'p', 's'])

theorem isAmqp_iff : u.IsAmqp ↔ (u.scheme.getD []).map Char.toLower = ['a', 'm', 'q', 'p'] ∨
    (u.scheme.getD []).map Char.toLower = ['a', 'm', 'q', 'p', 's'] := by
  unfold IsAmqp
  cases u.scheme <;> simp

/-- The virtual host is all of the path behind a slash, or the default one where there is no path. -/
def Keeps (u : Components) (virtualHost : String) : Prop :=
  u.path = [] ∧ virtualHost = "/" ∨
    ∃ segment, u.path = '/' :: segment ∧ '/' ∉ segment ∧ virtualHost = String.ofList (percentDecode segment)

/-- The path is empty or begins with a slash. -/
def IsRooted (u : Components) : Prop :=
  u.path = [] ∨ u.path.head? = some '/'

theorem Placed.isRooted (h : u.Placed) (ha : u.authority ≠ none) : u.IsRooted := by
  obtain ⟨a, ha⟩ := Option.ne_none_iff_exists'.1 ha
  cases hp : u.path with
  | nil => exact Or.inl hp
  | cons c segment =>
    have hc : c = '/' := h.head_path ha c (by rw [hp]; rfl)
    exact Or.inr (by rw [hp, hc]; rfl)

end Components

end Uri

namespace Endpoint

variable {uri : List Char} {u : Components} {e : Endpoint}

/-! ## The virtual host -/

/-- The virtual host is the default one without a path, and else the path without its first character, decoded. -/
theorem virtualHost_of_read (h : read uri = .ok e) (hu : u.Proper) (htext : clean uri = u.text) :
    (u.path = [] → e.virtualHost = "/") ∧
      ∀ c segment, u.path = c :: segment → '/' ∉ segment ∧ e.virtualHost = String.ofList (percentDecode segment) := by
  obtain ⟨port, hcheck, rfl⟩ := exists_check_of_read h
  obtain ⟨-, -, -, -, hsegments⟩ := Parts.check_eq_ok_iff.1 hcheck
  have hpath : (partsOf uri).path = u.path := by rw [Components.partsOf_eq hu htext]
  rw [hpath] at hsegments
  refine ⟨fun hnil => ?_, fun c segment hcons => ?_⟩
  · simp [ofParts, hpath, hnil]
  · rw [hcons, List.drop_one, List.tail_cons] at hsegments
    exact ⟨hsegments, by simp [ofParts, hpath, hcons]⟩

/-- Nothing of the path is lost exactly if it is empty or begins with a slash. -/
theorem keeps_iff_of_read (h : read uri = .ok e) (hu : u.Proper) (htext : clean uri = u.text) :
    u.Keeps e.virtualHost ↔ u.IsRooted := by
  obtain ⟨hnil, hcons⟩ := virtualHost_of_read h hu htext
  constructor
  · rintro (⟨hp, -⟩ | ⟨segment, hp, -⟩)
    · exact Or.inl hp
    · exact Or.inr (by rw [hp]; rfl)
  · rintro (hp | hp)
    · exact Or.inl ⟨hp, hnil hp⟩
    · obtain ⟨segment, hp⟩ := List.head?_eq_some_iff.1 hp
      exact Or.inr ⟨segment, hp, hcons _ _ hp⟩

/-- A text without an authority is read if its scheme is one of AMQP and a slash stands at most at the head of its
path. -/
theorem exists_read_iff_of_unplaced (hu : u.Proper) (htext : clean uri = u.text) (h : u.authority = none) :
    (∃ e, read uri = .ok e) ↔ u.IsAmqp ∧ '/' ∉ u.path.drop 1 := by
  have hparts := Components.partsOf_eq hu htext
  have hcheck := Parts.exists_check_iff_of_unplaced (p := partsOf uri) (by rw [hparts, h]; rfl)
  rw [hparts, ← Components.isAmqp_iff] at hcheck
  rw [read_eq, hparts, ← hcheck]
  simp only [map_eq_ok_iff]
  constructor
  · rintro ⟨_, port, hport, -⟩
    exact ⟨port, hport⟩
  · rintro ⟨port, hport⟩
    exact ⟨_, port, hport, rfl⟩

end Endpoint

end JmsNaming
