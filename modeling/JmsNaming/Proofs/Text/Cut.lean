import JmsNaming.Text.Cut
import Mathlib.Data.List.TakeWhile

/-
Cutting at a delimiter undoes putting a text together with it: what stands before the first
occurrence, or after the last one, does not depend on the other side.
-/
namespace JmsNaming.Text

variable {c : Char} {a b s : List Char}

/-! ## The first occurrence -/

theorem cut?_cons (c x : Char) (s : List Char) :
    cut? c (x :: s) = if x = c then some ([], s) else (cut? c s).map fun p => (x :: p.1, p.2) :=
  rfl

theorem cut?_append (h : c ∉ a) : cut? c (a ++ c :: b) = some (a, b) := by
  induction a with
  | nil => simp [cut?_cons]
  | cons x a ih =>
    obtain ⟨hx, ha⟩ := List.ne_and_not_mem_of_not_mem_cons h
    simp [cut?_cons, Ne.symm hx, ih ha]

theorem cut?_cons_self : cut? c (c :: s) = some ([], s) :=
  cut?_append (a := []) List.not_mem_nil

theorem cut?_eq_none (h : c ∉ s) : cut? c s = none := by
  induction s with
  | nil => rfl
  | cons x s ih =>
    obtain ⟨hx, hs⟩ := List.ne_and_not_mem_of_not_mem_cons h
    simp [cut?_cons, Ne.symm hx, ih hs]

/-- The two sides of a cut with the delimiter between them are the text. -/
theorem eq_of_cut? {p : List Char × List Char} (h : cut? c s = some p) : s = p.1 ++ c :: p.2 := by
  induction s generalizing p with
  | nil => cases h
  | cons x s ih =>
    rw [cut?_cons] at h
    split at h
    · rename_i hx
      cases h
      rw [hx]
      rfl
    · obtain ⟨q, hq, rfl⟩ := Option.map_eq_some_iff.1 h
      rw [ih hq]
      rfl

/-- What stands before the first `c` of a text without one goes on into the text behind it. -/
theorem before_append_of_not_mem (h : c ∉ a) : before c (a ++ b) = a ++ before c b := by
  have ha : ∀ x ∈ a, (x != c) = true := fun x hx => by simpa using ne_of_mem_of_not_mem hx h
  unfold before
  rw [List.takeWhile_append_of_pos ha]

theorem before_append (h : c ∉ a) : before c (a ++ c :: b) = a := by
  rw [before_append_of_not_mem h]
  simp [before]

theorem before_eq_self (h : c ∉ s) : before c s = s := by
  simpa [before] using before_append_of_not_mem (b := []) h

theorem not_mem_before : c ∉ before c s := fun h => by
  simpa using List.mem_takeWhile_imp h

theorem before_subset : before c s ⊆ s :=
  List.takeWhile_subset _

/-- What stands behind the first `c` does not depend on a text in front that has none. -/
theorem after_append_of_not_mem (h : c ∉ a) : after c (a ++ b) = after c b := by
  have ha : ∀ x ∈ a, (x != c) = true := fun x hx => by simpa using ne_of_mem_of_not_mem hx h
  unfold after
  rw [List.dropWhile_append_of_pos ha]

theorem after_append (h : c ∉ a) : after c (a ++ c :: b) = b := by
  rw [after_append_of_not_mem h]
  simp [after]

theorem after_cons_self : after c (c :: s) = s :=
  after_append (a := []) List.not_mem_nil

theorem mem_before_or_after {x : Char} (h : x ∈ s) : x ∈ before c s ∨ x = c ∨ x ∈ after c s := by
  rw [← List.takeWhile_append_dropWhile (p := (· != c)) (l := s), List.mem_append] at h
  refine h.imp_right fun h => ?_
  cases hd : s.dropWhile (· != c) with
  | nil =>
    rw [hd] at h
    cases h
  | cons y rest =>
    have hy : y = c := by simpa [hd] using List.head_dropWhile_not (· != c) (l := s) (by simp [hd])
    rw [hd, hy] at h
    rw [after, hd]
    exact List.mem_cons.1 h

theorem after_eq_nil (h : c ∉ s) : after c s = [] := by
  have hs : (s.dropWhile (· != c)) = [] := List.dropWhile_eq_nil_iff.2 fun x hx => by
    simpa using ne_of_mem_of_not_mem hx h
  rw [after, hs]
  rfl

/-! ## The last occurrence -/

theorem cutLast?_cons_some {p : List Char × List Char} (x : Char) (h : cutLast? c s = some p) :
    cutLast? c (x :: s) = some (x :: p.1, p.2) := by
  rw [cutLast?, h]

theorem cutLast?_cons_none (x : Char) (h : cutLast? c s = none) :
    cutLast? c (x :: s) = if x = c then some ([], s) else none := by
  rw [cutLast?, h]

theorem cutLast?_eq_none (h : c ∉ s) : cutLast? c s = none := by
  induction s with
  | nil => rfl
  | cons x s ih =>
    obtain ⟨hx, hs⟩ := List.ne_and_not_mem_of_not_mem_cons h
    rw [cutLast?_cons_none x (ih hs), if_neg (Ne.symm hx)]

theorem not_mem_of_cutLast? (h : cutLast? c s = none) : c ∉ s := by
  induction s with
  | nil => exact List.not_mem_nil
  | cons x s ih =>
    cases hs : cutLast? c s with
    | some p =>
      rw [cutLast?_cons_some x hs] at h
      cases h
    | none =>
      rw [cutLast?_cons_none x hs] at h
      split at h
      · cases h
      · rename_i hx
        exact List.not_mem_cons_of_ne_of_not_mem (Ne.symm hx) (ih hs)

/-- The two sides of a cut with the delimiter between them are the text, and the delimiter is not on the right. -/
theorem eq_of_cutLast? {p : List Char × List Char} (h : cutLast? c s = some p) :
    s = p.1 ++ c :: p.2 ∧ c ∉ p.2 := by
  induction s generalizing p with
  | nil => cases h
  | cons x s ih =>
    cases hs : cutLast? c s with
    | some q =>
      rw [cutLast?_cons_some x hs] at h
      cases h
      obtain ⟨hq, hc⟩ := ih hs
      exact ⟨congrArg (x :: ·) hq, hc⟩
    | none =>
      rw [cutLast?_cons_none x hs] at h
      split at h
      · rename_i hx
        cases h
        exact ⟨by rw [hx]; rfl, not_mem_of_cutLast? hs⟩
      · cases h

theorem cutLast?_append_some {p : List Char × List Char} (h : cutLast? c b = some p) :
    cutLast? c (a ++ b) = some (a ++ p.1, p.2) := by
  induction a with
  | nil => simp [h]
  | cons x a ih => exact cutLast?_cons_some x ih

theorem cutLast?_append (h : c ∉ b) : cutLast? c (a ++ c :: b) = some (a, b) := by
  have hc : cutLast? c (c :: b) = some ([], b) := by rw [cutLast?_cons_none c (cutLast?_eq_none h), if_pos rfl]
  simpa using cutLast?_append_some (a := a) hc

/-- What stands after the last `c` does not depend on what stands before any of them. -/
theorem afterLast_append : afterLast c (a ++ c :: b) = afterLast c b := by
  unfold afterLast
  cases hb : cutLast? c b with
  | none =>
    have hc : cutLast? c (c :: b) = some ([], b) := by rw [cutLast?_cons_none c hb, if_pos rfl]
    rw [cutLast?_append_some hc]
  | some p =>
    rw [cutLast?_append_some (cutLast?_cons_some c hb)]

theorem not_mem_afterLast : c ∉ afterLast c s := by
  unfold afterLast
  cases h : cutLast? c s with
  | none => exact not_mem_of_cutLast? h
  | some p => exact (eq_of_cutLast? h).2

theorem afterLast_subset : afterLast c s ⊆ s := by
  unfold afterLast
  cases h : cutLast? c s with
  | none => exact List.Subset.refl s
  | some p =>
    intro x hx
    rw [(eq_of_cutLast? h).1]
    exact List.mem_append_right _ (List.mem_cons_of_mem _ hx)

theorem afterLast_eq_self (h : c ∉ s) : afterLast c s = s := by
  simp [afterLast, cutLast?_eq_none h]

/-! ## Every occurrence -/

theorem pieces_cons_self (c : Char) (s : List Char) : pieces c (c :: s) = [] :: pieces c s := by
  rw [pieces, if_pos rfl]

theorem pieces_cons_of_ne {x : Char} {p : List Char} {ps : List (List Char)} (hx : x ≠ c)
    (h : pieces c s = p :: ps) : pieces c (x :: s) = (x :: p) :: ps := by
  rw [pieces, if_neg hx, h]

theorem pieces_ne_nil (c : Char) (s : List Char) : pieces c s ≠ [] := by
  induction s with
  | nil => exact List.cons_ne_nil _ _
  | cons x s ih =>
    obtain ⟨p, ps, hp⟩ := List.exists_cons_of_ne_nil ih
    by_cases hx : x = c
    · rw [hx, pieces_cons_self]
      exact List.cons_ne_nil _ _
    · rw [pieces_cons_of_ne hx hp]
      exact List.cons_ne_nil _ _

theorem pieces_eq_self (h : c ∉ s) : pieces c s = [s] := by
  induction s with
  | nil => rfl
  | cons x s ih =>
    obtain ⟨hx, hs⟩ := List.ne_and_not_mem_of_not_mem_cons h
    exact pieces_cons_of_ne (Ne.symm hx) (ih hs)

/-- The pieces on the two sides of a delimiter are the pieces of the whole. -/
theorem pieces_append (c : Char) (a b : List Char) : pieces c (a ++ c :: b) = pieces c a ++ pieces c b := by
  induction a with
  | nil => exact pieces_cons_self c b
  | cons x a ih =>
    obtain ⟨p, ps, hp⟩ := List.exists_cons_of_ne_nil (pieces_ne_nil c a)
    by_cases hx : x = c
    · rw [hx, List.cons_append, pieces_cons_self, ih, pieces_cons_self]
      rfl
    · rw [hp] at ih
      rw [List.cons_append, pieces_cons_of_ne hx ih, pieces_cons_of_ne hx hp]
      rfl

theorem not_mem_of_mem_pieces {p : List Char} (hp : p ∈ pieces c s) : c ∉ p := by
  induction s generalizing p with
  | nil =>
    rw [List.mem_singleton.1 hp]
    exact List.not_mem_nil
  | cons x s ih =>
    obtain ⟨q, qs, hs⟩ := List.exists_cons_of_ne_nil (pieces_ne_nil c s)
    rw [hs] at ih
    by_cases hx : x = c
    · rw [hx, pieces_cons_self, hs] at hp
      rcases List.mem_cons.1 hp with rfl | hp
      · exact List.not_mem_nil
      · exact ih hp
    · rw [pieces_cons_of_ne hx hs] at hp
      rcases List.mem_cons.1 hp with rfl | hp
      · exact List.not_mem_cons_of_ne_of_not_mem (Ne.symm hx) (ih List.mem_cons_self)
      · exact ih (List.mem_cons_of_mem _ hp)

/-- Putting the pieces together again gives the text. -/
theorem intercalate_pieces (c : Char) (s : List Char) : [c].intercalate (pieces c s) = s := by
  induction s with
  | nil => rfl
  | cons x s ih =>
    obtain ⟨p, ps, hs⟩ := List.exists_cons_of_ne_nil (pieces_ne_nil c s)
    rw [hs] at ih
    by_cases hx : x = c
    · rw [hx, pieces_cons_self, hs, List.intercalate_cons_cons, ih]
      rfl
    · rw [pieces_cons_of_ne hx hs]
      cases ps with
      | nil => simpa using ih
      | cons q ps =>
        rw [List.intercalate_cons_cons] at ih ⊢
        rw [← ih]
        rfl

/-- Texts without the delimiter are the pieces of what they are put together to. -/
theorem pieces_intercalate {ps : List (List Char)} (hne : ps ≠ []) (h : ∀ p ∈ ps, c ∉ p) :
    pieces c ([c].intercalate ps) = ps := by
  induction ps with
  | nil => exact absurd rfl hne
  | cons p ps ih =>
    obtain ⟨hp, hps⟩ := List.forall_mem_cons.1 h
    cases ps with
    | nil => simpa using pieces_eq_self hp
    | cons q ps =>
      rw [List.intercalate_cons_cons, List.append_assoc, List.singleton_append, pieces_append, pieces_eq_self hp,
        ih (List.cons_ne_nil q ps) hps]
      rfl

theorem segments_append (key : String) {name : String} (h : '.' ∉ name.toList) :
    segments (key ++ "." ++ name) = segments key ++ [name] := by
  have htext : (key ++ "." ++ name).toList = key.toList ++ '.' :: name.toList := by simp
  rw [segments, htext, pieces_append, pieces_eq_self h]
  simp [segments]

/-- A character of a text is a delimiter or stands in a piece. -/
theorem mem_pieces {x : Char} (h : x ∈ s) : x = c ∨ ∃ p ∈ pieces c s, x ∈ p := by
  induction s with
  | nil => cases h
  | cons y s ih =>
    obtain ⟨p, ps, hs⟩ := List.exists_cons_of_ne_nil (pieces_ne_nil c s)
    rw [hs] at ih
    by_cases hy : y = c
    · rw [hy, pieces_cons_self, hs]
      rcases List.mem_cons.1 h with rfl | h
      · exact .inl hy
      · exact (ih h).imp_right fun ⟨q, hq, hx⟩ => ⟨q, List.mem_cons_of_mem _ hq, hx⟩
    · rw [pieces_cons_of_ne hy hs]
      rcases List.mem_cons.1 h with rfl | h
      · exact .inr ⟨x :: p, List.mem_cons_self, List.mem_cons_self⟩
      · refine (ih h).imp_right fun ⟨q, hq, hx⟩ => ?_
        rcases List.mem_cons.1 hq with rfl | hq
        · exact ⟨y :: q, List.mem_cons_self, List.mem_cons_of_mem _ hx⟩
        · exact ⟨q, List.mem_cons_of_mem _ hq, hx⟩

/-! ## Keys -/

/-- The key is written with the names: they have dots between them and none in them. -/
structure Dotted (names : List String) (key : String) : Prop where
  ne_nil : names ≠ []
  not_mem : ∀ name ∈ names, '.' ∉ name.toList
  eq : ".".intercalate names = key

theorem dotted_segments (key : String) : Dotted (segments key) key := by
  refine ⟨by simpa [segments] using pieces_ne_nil '.' key.toList, ?_, ?_⟩
  · rintro name hname
    obtain ⟨p, hp, rfl⟩ := List.mem_map.1 hname
    rw [String.toList_ofList]
    exact not_mem_of_mem_pieces hp
  · rw [← String.toList_inj, String.toList_intercalate]
    have hnames : (segments key).map String.toList = pieces '.' key.toList := by
      simp [segments, Function.comp_def]
    rw [hnames]
    exact intercalate_pieces '.' key.toList

theorem Dotted.segments_eq {names : List String} {key : String} (h : Dotted names key) : segments key = names := by
  have hpieces : pieces '.' (['.'].intercalate (names.map String.toList)) = names.map String.toList := by
    refine pieces_intercalate (by simpa using h.ne_nil) ?_
    rintro p hp
    obtain ⟨name, hname, rfl⟩ := List.mem_map.1 hp
    exact h.not_mem name hname
  have hkey : key.toList = ['.'].intercalate (names.map String.toList) := by
    rw [← h.eq, String.toList_intercalate]
    rfl
  rw [segments, hkey, hpieces]
  simp [Function.comp_def]

end JmsNaming.Text
