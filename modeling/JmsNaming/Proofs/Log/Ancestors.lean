import JmsNaming.Proofs.Log.Loggers
import Mathlib.Data.List.MinMax
import Mathlib.Data.List.Nodup

/-
Names above a name. Where no segment is empty, they are what stands before the dots of the name, the longest first. The
nearest level of a map from names to levels is that of the longest such name with one, so that the order of the map
makes no difference to it.
-/
namespace JmsNaming.Log

open Text

/-! ## Names of segments -/

/-- A name of segments with dots between them, none of which is empty. -/
def WellFormed (name : List Char) : Prop :=
  ∀ segment ∈ pieces '.' name, segment ≠ []

instance (name : List Char) : Decidable (WellFormed name) :=
  inferInstanceAs (Decidable (∀ segment ∈ _, segment ≠ []))

/-- The name is the other one, or stands before one of its dots. -/
def Heads (p name : List Char) : Prop :=
  p = name ∨ p ++ ['.'] <+: name

instance (p name : List Char) : Decidable (Heads p name) :=
  inferInstanceAs (Decidable (_ ∨ _))

variable {name p q : List Char}

theorem WellFormed.ne_nil (h : WellFormed name) : name ≠ [] := by
  rintro rfl
  exact h [] List.mem_cons_self rfl

theorem WellFormed.front (h : WellFormed (p ++ '.' :: q)) : WellFormed p := by
  intro segment hs
  refine h segment ?_
  rw [pieces_append]
  exact List.mem_append_left _ hs

theorem WellFormed.getLast?_ne (h : WellFormed name) : name.getLast? ≠ some '.' := by
  intro hlast
  obtain ⟨front, rfl⟩ : ∃ front, name = front ++ ['.'] := List.getLast?_eq_some_iff.1 hlast
  refine h [] ?_ rfl
  rw [pieces_append]
  exact List.mem_append_right _ List.mem_cons_self

/-- The names above a name of segments: none above a single segment, and otherwise the name without its last segment and
those above that one. -/
theorem WellFormed.namesAbove_cases (h : WellFormed name) : '.' ∉ name ∧ namesAbove name = [] ∨
    ∃ p q, name = p ++ '.' :: q ∧ '.' ∉ q ∧ WellFormed p ∧ namesAbove name = p :: namesAbove p := by
  cases hcut : cutLast? '.' name with
  | none =>
    have hdot := not_mem_of_cutLast? hcut
    exact .inl ⟨hdot, namesAbove_of_no_dot hdot⟩
  | some r =>
    obtain ⟨heq, hdot⟩ := eq_of_cutLast? hcut
    have hp : WellFormed r.1 := (heq ▸ h).front
    refine .inr ⟨r.1, r.2, heq, hdot, hp, ?_⟩
    rw [namesAbove_of_cutLast? hcut, namesAbove_dropLast hp.getLast?_ne, if_neg]
    simpa using hp.ne_nil

/-- What holds of single segments, and of a name with one more segment, holds of all names. -/
@[elab_as_elim]
theorem WellFormed.induct {motive : ∀ name, WellFormed name → Prop}
    (single : ∀ name (h : WellFormed name), '.' ∉ name → namesAbove name = [] → motive name h)
    (more : ∀ p q (h : WellFormed (p ++ '.' :: q)), '.' ∉ q → namesAbove (p ++ '.' :: q) = p :: namesAbove p →
      motive p h.front → motive (p ++ '.' :: q) h) (name : List Char) (h : WellFormed name) : motive name h := by
  induction hn : name.length using Nat.strong_induction_on generalizing name with
  | _ n ih =>
    rcases h.namesAbove_cases with ⟨hdot, habove⟩ | ⟨p, q, rfl, hq, hp, habove⟩
    · exact single name h hdot habove
    · exact more p q h hq habove (ih p.length (by rw [← hn]; simp) p hp rfl)

theorem mem_namesAbove_iff (h : WellFormed name) : p ∈ namesAbove name ↔ p ++ ['.'] <+: name := by
  induction name, h using WellFormed.induct with
  | single name _ hdot habove =>
    rw [habove]
    refine iff_of_false List.not_mem_nil fun hpre => hdot ?_
    exact hpre.subset (List.mem_append_right _ List.mem_cons_self)
  | more front last _ hlast habove ih =>
    rw [habove, List.mem_cons, ih]
    constructor
    · rintro (rfl | ⟨rest, hrest⟩)
      · exact ⟨last, by simp⟩
      · exact ⟨rest ++ '.' :: last, by rw [← hrest]; simp⟩
    · -- the dot behind `p` is the one behind `front`, or stands in it
      rintro ⟨rest, hrest⟩
      rw [List.append_assoc, List.singleton_append] at hrest
      rcases List.append_eq_append_iff.1 hrest with ⟨mid, rfl, hmid⟩ | ⟨mid, rfl, hmid⟩
      · cases mid with
        | nil => exact Or.inl (List.append_nil p).symm
        | cons c mid =>
          obtain ⟨rfl, -⟩ := List.cons.inj hmid
          exact Or.inr ⟨mid, by simp⟩
      · cases mid with
        | nil => exact Or.inl (List.append_nil front)
        | cons c mid =>
          obtain ⟨-, rfl⟩ := List.cons.inj hmid
          exact absurd (List.mem_append_right mid List.mem_cons_self) hlast

theorem heads_iff (h : WellFormed name) : Heads p name ↔ p ∈ name :: namesAbove name := by
  rw [Heads, List.mem_cons, mem_namesAbove_iff h]

/-- The names above a name get shorter. -/
theorem pairwise_length_namesAbove (h : WellFormed name) :
    (name :: namesAbove name).Pairwise fun a b => b.length < a.length := by
  induction name, h using WellFormed.induct with
  | single name _ _ habove =>
    rw [habove]
    exact List.pairwise_singleton _ _
  | more p q _ _ habove ih =>
    refine List.pairwise_cons.2 ⟨fun r hr => length_of_mem_namesAbove hr, ?_⟩
    rw [habove]
    exact ih

/-- A name that begins the root's is a single segment. -/
theorem namesAbove_of_isPrefixOf (h : p.isPrefixOf LoggerName.rootName = true) : namesAbove p = [] := by
  refine namesAbove_of_no_dot fun hdot => ?_
  exact absurd ((List.isPrefixOf_iff_prefix.1 h).subset hdot) (by decide)

/-! ## The nearest level of a map -/

section Nearest

/-- In a map no two entries have the same key, so that every entry is found under its key. -/
theorem lookup_eq_some_iff_mem {α β : Type} [BEq α] [LawfulBEq α] {entries : List (α × β)} {key : α} {value : β}
    (hnodup : (entries.map Prod.fst).Nodup) : entries.lookup key = some value ↔ (key, value) ∈ entries := by
  rw [List.lookup_eq_some_iff]
  constructor
  · rintro ⟨front, rest, rfl, -⟩
    exact List.mem_append_right _ List.mem_cons_self
  · intro hmem
    obtain ⟨front, rest, rfl⟩ := List.append_of_mem hmem
    rw [List.map_append, List.nodup_append] at hnodup
    refine ⟨front, rest, rfl, fun e he => ?_⟩
    rw [bne_iff_ne]
    exact (hnodup.2.2 e.1 (List.mem_map_of_mem he) key List.mem_cons_self).symm

variable {levels : List (List Char × Nat)} {e : List Char × Nat}

/-- The entry of the longest name that is the other one or above it and has a level. -/
def nearest? (levels : List (List Char × Nat)) (name : List Char) : Option (List Char × Nat) :=
  (levels.filter fun e => Heads e.1 name ∧ e.2 ≠ unsetLevel).argmax fun e => e.1.length

theorem Heads.isPrefix (h : Heads p name) : p <+: name := by
  rcases h with rfl | ⟨rest, hrest⟩
  · exact List.prefix_rfl
  · exact ⟨'.' :: rest, by rw [← hrest]; simp⟩

theorem Heads.eq_of_length (hp : Heads p name) (hq : Heads q name) (h : p.length = q.length) : p = q :=
  (List.prefix_of_prefix_length_le hp.isPrefix hq.isPrefix h.le).eq_of_length h

theorem nearest?_eq_none_iff : nearest? levels name = none ↔ ∀ e ∈ levels, Heads e.1 name → e.2 = unsetLevel := by
  simp [nearest?, List.filter_eq_nil_iff]

/-- No two entries of a map have the same name, so that the nearest one does not depend on their order. -/
theorem nearest?_eq_some_iff (hnodup : (levels.map Prod.fst).Nodup) : nearest? levels name = some e ↔
    (e ∈ levels ∧ Heads e.1 name ∧ e.2 ≠ unsetLevel) ∧
      ∀ d ∈ levels, Heads d.1 name → d.2 ≠ unsetLevel → d.1.length ≤ e.1.length := by
  rw [nearest?, List.argmax_eq_some_iff]
  simp only [List.mem_filter, decide_eq_true_eq, and_imp]
  refine and_congr_right fun ⟨he, hhead, _⟩ => and_iff_left_of_imp fun hle d hd hdhead hdset hed => ?_
  have hname : d.1 = e.1 := hdhead.eq_of_length hhead (Nat.le_antisymm (hle d hd hdhead hdset) hed)
  rw [List.inj_on_of_nodup_map hnodup hd he hname]

theorem nearest?_perm {levels' : List (List Char × Nat)} (hnodup : (levels.map Prod.fst).Nodup)
    (h : levels'.Perm levels) (name : List Char) : nearest? levels' name = nearest? levels name := by
  have hnodup' : (levels'.map Prod.fst).Nodup := (h.map Prod.fst).nodup_iff.2 hnodup
  refine Option.ext fun e => ?_
  rw [nearest?_eq_some_iff hnodup', nearest?_eq_some_iff hnodup]
  simp only [h.mem_iff]

/-- The nearest level above a name is that of a name which begins the root's, and of the names between the two the
topmost stands before it in the map. -/
def CutOff (levels : List (List Char × Nat)) (name : List Char) : Prop :=
  ∃ top ∈ nearest? levels name, top.1 <+: LoggerName.rootName ∧
    ∃ child ∈ levels.map Prod.fst, (Heads child name ∧ child ≠ top.1) ∧
      (∀ q ∈ levels.map Prod.fst, Heads q name → q ≠ top.1 → child.length ≤ q.length) ∧
      (levels.map Prod.fst).idxOf child < (levels.map Prod.fst).idxOf top.1

instance (levels : List (List Char × Nat)) (name : List Char) : Decidable (CutOff levels name) :=
  inferInstanceAs (Decidable (∃ top ∈ nearest? levels name, top.1 <+: LoggerName.rootName ∧ ∃ child ∈ _, _))

end Nearest

end JmsNaming.Log
