import JmsNaming.Settings.Tree

/-
Walks through the maps of a tree. One step goes on with what stands under a name, where null counts as nothing; walks
to a value and to a section are compared step by step, with each other and with the relation between the ends of a path.
-/
namespace JmsNaming

theorem Value.eq_null_of_isNull {v : Value} (h : v.isNull = true) : v = .null := by
  unfold isNull at h
  split at h
  · rfl
  · cases h

theorem Value.isNull_eq_false_iff {v : Value} : v.isNull = false ↔ v ≠ .null := by
  rw [← Bool.not_eq_true]
  refine not_congr ⟨eq_null_of_isNull, ?_⟩
  rintro rfl
  rfl

/-! ## One step -/

namespace Tree

/-- What stands under a name of a map for a walk to go on from. Null counts as nothing. -/
def next? (t : Table) (name : String) : Option Value :=
  (t.get? name).filter (!·.isNull)

variable {t : Table} {name : String} {path : List String}

theorem next?_eq_some_iff {w : Value} : next? t name = some w ↔ t.get? name = some w ∧ w ≠ .null := by
  simp only [next?, Option.filter_eq_some_iff, Bool.not_eq_true', Value.isNull_eq_false_iff]

theorem valueAt?_map_cons : valueAt? (.map t) (name :: path) = (next? t name).bind (valueAt? · path) := by
  rw [valueAt?, next?]
  cases Table.get? t name with
  | none => rfl
  | some w => cases hw : w.isNull <;> simp [hw, Option.filter]

theorem sectionAt_empty (path : List String) : sectionAt (.map []) path = [] := by
  induction path with
  | nil => rfl
  | cons name path ih => exact ih

theorem sectionAt_null (path : List String) : sectionAt .null path = [] := by
  cases path <;> rfl

/-- A walk to a section goes on as one to a value, as nothing stands under null either. -/
theorem sectionAt_map_cons :
    sectionAt (.map t) (name :: path) = ((next? t name).map (sectionAt · path)).getD [] := by
  rw [sectionAt, next?]
  cases Table.get? t name with
  | none => exact sectionAt_empty path
  | some w =>
    cases hw : w.isNull with
    | false => simp [hw, Option.filter]
    | true =>
      obtain rfl := Value.eq_null_of_isNull hw
      exact sectionAt_null path

/-! ## Longer paths and sections -/

/-- A longer path leads on from the section at its beginning. -/
theorem valueAt?_append (v : Value) (path : List String) {names : List String} (h : names ≠ []) :
    valueAt? v (path ++ names) = valueAt? (.map (sectionAt v path)) names := by
  obtain ⟨name, names, rfl⟩ := List.exists_cons_of_ne_nil h
  induction path generalizing v with
  | nil => cases v <;> rfl
  | cons first path ih =>
    cases v with
    | scalar s => rfl
    | list items => rfl
    | map t =>
      rw [List.cons_append, valueAt?_map_cons, sectionAt_map_cons]
      cases next? t first with
      | none => rfl
      | some w => exact ih w

/-- A path leads to what the section above holds under the last name, unless that is null. -/
theorem valueAt?_concat (v : Value) (path : List String) (name : String) :
    valueAt? v (path ++ [name]) = (Table.get? (sectionAt v path) name).filter (!·.isNull) := by
  rw [valueAt?_append v path (List.cons_ne_nil name []), valueAt?_map_cons]
  show _ = next? (sectionAt v path) name
  cases next? (sectionAt v path) name <;> rfl

/-- A section is the map that its path leads to, and empty where there is none. -/
theorem sectionAt_eq (v : Value) (path : List String) : sectionAt v path =
    match valueAt? v path with
    | some (.map t) => t
    | _ => [] := by
  induction path generalizing v with
  | nil => cases v <;> rfl
  | cons name path ih =>
    cases v with
    | scalar s => rfl
    | list items => rfl
    | map t =>
      rw [sectionAt_map_cons, valueAt?_map_cons]
      cases next? t name with
      | none => rfl
      | some w => exact ih w

/-! ## Where paths lead -/

/-- The path leads from the first value to the second, through maps. Each name on it is there, and not null. -/
inductive LeadsTo : Value → List String → Value → Prop
  | here (v : Value) : LeadsTo v [] v
  | step {t : Table} {name : String} {path : List String} {w v : Value} (hw : t.get? name = some w)
    (hnull : w ≠ .null) (h : LeadsTo w path v) : LeadsTo (.map t) (name :: path) v

theorem valueAt?_eq_some_iff {v w : Value} {path : List String} : valueAt? v path = some w ↔ LeadsTo v path w := by
  induction path generalizing v with
  | nil =>
    constructor
    · rintro ⟨⟩
      exact .here _
    · rintro ⟨⟩
      rfl
  | cons name path ih =>
    constructor
    · intro h
      cases v with
      | scalar a => cases h
      | list items => cases h
      | map t =>
        rw [valueAt?_map_cons, Option.bind_eq_some_iff] at h
        obtain ⟨u, hu, h⟩ := h
        obtain ⟨hget, hnull⟩ := next?_eq_some_iff.1 hu
        exact .step hget hnull (ih.1 h)
    · rintro (_ | ⟨hget, hnull, h⟩)
      rw [valueAt?_map_cons, next?_eq_some_iff.2 ⟨hget, hnull⟩]
      exact ih.2 h

end Tree

end JmsNaming
