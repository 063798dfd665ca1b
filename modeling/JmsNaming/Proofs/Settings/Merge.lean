import JmsNaming.Proofs.Value.Table
import JmsNaming.Settings.Tree
import Mathlib.Data.List.Infix

/-
Merging of trees, seen at their paths: at a path that the overlay covers, by what it has there or on the way, the merged
tree is as the overlay, and elsewhere as the base. So a leaf of the merged tree is the one of the last tree that has it
and is not covered there by a later one.
-/
namespace JmsNaming

/-! ## Leaves -/

namespace Value

/-- The value at a path of keys through maps. -/
def find? (v : Value) : List Scalar → Option Value
  | [] => some v
  | k :: path =>
    match v with
    | .map t => (Table.find? t k).bind (find? · path)
    | _ => none

/-- The value is no map. -/
def IsLeaf (v : Value) : Prop :=
  v.entries? = none

/-- The leaf is at the path. -/
def LeafAt (v : Value) (path : List Scalar) (leaf : Value) : Prop :=
  v.find? path = some leaf ∧ leaf.IsLeaf

/-- Nothing that lies below the value can be seen at the path: it has a value there, or a leaf on the way. -/
def Covers (v : Value) (path : List Scalar) : Prop :=
  ∃ place, place <+: path ∧ ∃ w, v.find? place = some w ∧ (place = path ∨ w.IsLeaf)

/-- What is seen of a value without looking into it: the leaf that it is, or that it is a map. -/
def shape : Value → Value
  | .map _ => .map []
  | leaf => leaf

/-- What stands at a path: a leaf, a map, or nothing. -/
def shapeAt? (v : Value) (path : List Scalar) : Option Value :=
  (v.find? path).map shape

variable {v leaf : Value} {t : Table} {k : Scalar} {path : List Scalar}

theorem not_isLeaf_map : ¬IsLeaf (.map t) := by
  simp [IsLeaf, entries?]

theorem isLeaf_or_map (v : Value) : v.IsLeaf ∨ ∃ t, v = .map t := by
  cases v with
  | scalar s => exact .inl rfl
  | list items => exact .inl rfl
  | map t => exact .inr ⟨t, rfl⟩

theorem find?_map_cons : (Value.map t).find? (k :: path) = (t.find? k).bind (find? · path) := rfl

theorem find?_of_isLeaf (h : v.IsLeaf) : v.find? (k :: path) = none := by
  cases v with
  | scalar s => rfl
  | list items => rfl
  | map t => exact absurd h not_isLeaf_map

theorem not_leafAt_map_nil : ¬LeafAt (.map t) [] leaf := by
  rintro ⟨hfind, hleaf⟩
  cases hfind
  exact not_isLeaf_map hleaf

theorem leafAt_map_cons : LeafAt (.map t) (k :: path) leaf ↔ ∃ w, t.find? k = some w ∧ LeafAt w path leaf := by
  unfold LeafAt
  rw [find?_map_cons, Option.bind_eq_some_iff]
  grind

theorem covers_nil : Covers v [] :=
  ⟨[], List.prefix_rfl, v, rfl, .inl rfl⟩

theorem covers_of_isLeaf (h : v.IsLeaf) : Covers v path :=
  ⟨[], List.nil_prefix, v, rfl, .inr h⟩

theorem covers_map_cons : Covers (.map t) (k :: path) ↔ ∃ w, t.find? k = some w ∧ Covers w path := by
  constructor
  · rintro ⟨place, hplace, w, hfind, hw⟩
    cases place with
    | nil =>
      cases hfind
      rcases hw with hw | hw
      · cases hw
      · exact absurd hw not_isLeaf_map
    | cons k' place =>
      obtain ⟨rfl, hrest⟩ := List.cons_prefix_cons.1 hplace
      rw [find?_map_cons, Option.bind_eq_some_iff] at hfind
      obtain ⟨u, hu, hfind⟩ := hfind
      exact ⟨u, hu, place, hrest, w, hfind, hw.imp_left fun h => (List.cons.inj h).2⟩
  · rintro ⟨u, hu, place, hplace, w, hfind, hw⟩
    refine ⟨k :: place, List.cons_prefix_cons.2 ⟨rfl, hplace⟩, w, ?_, hw.imp_left (congrArg _)⟩
    rw [find?_map_cons, hu]
    exact hfind

theorem shape_eq_iff_of_isLeaf (h : leaf.IsLeaf) : v.shape = leaf ↔ v = leaf := by
  cases v with
  | map t =>
    constructor
    · rintro rfl
      exact absurd h not_isLeaf_map
    · rintro rfl
      exact absurd h not_isLeaf_map
  | _ => rfl

theorem leafAt_iff : LeafAt v path leaf ↔ v.shapeAt? path = some leaf ∧ leaf.IsLeaf := by
  refine and_congr_left fun hleaf => ?_
  simp [shapeAt?, shape_eq_iff_of_isLeaf hleaf]

theorem shapeAt?_map_cons : (Value.map t).shapeAt? (k :: path) = (t.find? k).bind (shapeAt? · path) := by
  rw [shapeAt?, find?_map_cons, Option.map_bind]
  rfl

theorem shapeAt?_of_isLeaf (h : v.IsLeaf) : v.shapeAt? (k :: path) = none := by
  rw [shapeAt?, find?_of_isLeaf h, Option.map_none]

/-- A value has nothing at a path that it does not cover. -/
theorem shapeAt?_of_not_covers (h : ¬Covers v path) : v.shapeAt? path = none := by
  rw [shapeAt?, Option.map_eq_none_iff, Option.eq_none_iff_forall_ne_some]
  exact fun w hw => h ⟨path, List.prefix_rfl, w, hw, .inl rfl⟩

end Value

/-! ## Two trees -/

namespace Tree

open Value

variable {leaf : Value} {base top : Table} {path : List Scalar}

theorem overlay_of_isLeaf {v : Value} (h : v.IsLeaf) (below : Option Value) : overlay below v = v := by
  cases v with
  | scalar s => rfl
  | list items => rfl
  | map t => exact absurd h not_isLeaf_map

/-- The entry under a key of the merged table: the overlay's, on top of what the base has there, or else the
base's. -/
theorem find?_merge (h : top.Distinct) (k : Scalar) :
    (merge base top).find? k =
      match top.find? k with
      | some v => some (overlay (base.find? k) v)
      | none => base.find? k := by
  induction top generalizing base with
  | nil => rfl
  | cons e top ih =>
    obtain ⟨hnew, htop⟩ := Table.distinct_cons.1 h
    obtain ⟨key, v⟩ := e
    rw [merge, ih htop, Table.find?_cons, Table.find?_put]
    dsimp only at hnew ⊢
    by_cases hk : key.sameKey k = true
    · have hnone : Table.find? top k = none := Table.find?_eq_none fun d hd => by
        rw [Scalar.sameKey_comm, ← Scalar.sameKey_congr hk]
        exact hnew d hd
      simp only [if_pos hk, hnone, Table.find?_congr hk]
    · simp only [if_neg hk]

theorem overlay_of_no_map {below : Option Value} (h : ∀ base, below ≠ some (.map base)) :
    overlay below (.map top) = .map top := by
  unfold overlay
  split
  · exact absurd rfl (h _)
  · rfl

/-- What a value on top of another covers is as it has it, and the rest is as below. -/
theorem shapeAt?_overlay {v : Value} (h : v.Distinct) (below : Option Value) :
    (Covers v path → (overlay below v).shapeAt? path = v.shapeAt? path) ∧
      (¬Covers v path → (overlay below v).shapeAt? path = below.bind (shapeAt? · path)) := by
  induction path generalizing v below with
  | nil =>
    refine ⟨fun _ => ?_, fun hno => absurd covers_nil hno⟩
    cases v with
    | map top =>
      obtain ⟨t, ht⟩ : ∃ t, overlay below (.map top) = .map t := by
        unfold overlay
        split <;> exact ⟨_, rfl⟩
      rw [ht]
      rfl
    | _ => rfl
  | cons k path ih =>
    rcases isLeaf_or_map v with hv | ⟨top, rfl⟩
    · rw [overlay_of_isLeaf hv]
      exact ⟨fun _ => rfl, fun hno => absurd (covers_of_isLeaf hv) hno⟩
    · by_cases hbelow : ∃ base, below = some (.map base)
      · obtain ⟨base, rfl⟩ := hbelow
        have hmap : overlay (some (.map base)) (.map top) = .map (merge base top) := rfl
        simp only [hmap, covers_map_cons, shapeAt?_map_cons, find?_merge h.keys, Option.bind_some]
        cases htop : Table.find? top k with
        | none => simp
        | some w => simpa using ih (h.of_find? htop) (Table.find? base k)
      · rw [overlay_of_no_map fun base hb => hbelow ⟨base, hb⟩]
        refine ⟨fun _ => rfl, fun hno => ?_⟩
        -- below is no map, and so it has nothing at a longer path either
        rw [shapeAt?_of_not_covers hno]
        cases below with
        | none => rfl
        | some b =>
          have hb : b.IsLeaf := (isLeaf_or_map b).resolve_right fun ⟨base, hb⟩ => hbelow ⟨base, congrArg some hb⟩
          exact (shapeAt?_of_isLeaf hb).symm

/-- At a path that the overlay covers, the merged tree is as the overlay; elsewhere it is as the base. -/
theorem shapeAt?_merge (h : (Value.map top).Distinct) (base : Table) (path : List Scalar) :
    (Covers (.map top) path → (Value.map (merge base top)).shapeAt? path = (Value.map top).shapeAt? path) ∧
      (¬Covers (.map top) path → (Value.map (merge base top)).shapeAt? path = (Value.map base).shapeAt? path) :=
  shapeAt?_overlay h (some (.map base))

/-- A leaf of the merged tree is one of the overlay, or one of the base that the overlay does not cover. -/
theorem leafAt_merge (h : (Value.map top).Distinct) :
    LeafAt (.map (merge base top)) path leaf ↔
      LeafAt (.map top) path leaf ∨ LeafAt (.map base) path leaf ∧ ¬Covers (.map top) path := by
  obtain ⟨hcovered, hrest⟩ := shapeAt?_merge h base path
  by_cases htop : Covers (.map top) path
  · simp [leafAt_iff, htop, hcovered htop]
  · simp [leafAt_iff, htop, hrest htop, shapeAt?_of_not_covers htop]

mutual

theorem distinct_overlay : ∀ (v : Value) (below : Option Value), v.Distinct → (∀ w ∈ below, w.Distinct) →
    (overlay below v).Distinct
  | .scalar s, _, _, _ => .scalar s
  | .list items, _, _, _ => .list items
  | .map top, below, h, hbelow => by
    cases below with
    | none => exact h
    | some w =>
      cases w with
      | map base => exact distinct_merge top base (fun e he => h.values he) (hbelow _ rfl)
      | _ => exact h

theorem distinct_merge : ∀ (top : List (Scalar × Value)) (base : Table), (∀ e ∈ top, e.2.Distinct) →
    (Value.map base).Distinct → (Value.map (merge base top)).Distinct
  | [], _, _, hbase => hbase
  | (k, v) :: rest, base, h, hbase => by
    obtain ⟨hv, hrest⟩ := List.forall_mem_cons.1 h
    exact distinct_merge rest _ hrest (hbase.put (distinct_overlay v _ hv fun w hw => hbase.of_find? hw) k)

end

/-! ## All trees -/

theorem mergeAll_concat (trees : List Table) (top : Table) :
    mergeAll (trees ++ [top]) = merge (mergeAll trees) top := by
  simp [mergeAll]

/-- Merging trees one after the other leaves each leaf of one of them that no later one covers, and no others. -/
theorem leafAt_mergeAll {trees : List Table} (h : ∀ t ∈ trees, (Value.map t).Distinct) :
    LeafAt (.map (mergeAll trees)) path leaf ↔
      ∃ pre t post, trees = pre ++ t :: post ∧ LeafAt (.map t) path leaf ∧
        ∀ later ∈ post, ¬Covers (.map later) path := by
  induction trees using List.reverseRecOn with
  | nil =>
    refine iff_of_false ?_ (by simp)
    cases path with
    | nil => exact not_leafAt_map_nil
    | cons k path => simp [mergeAll, leafAt_map_cons]
  | append_singleton trees top ih =>
    obtain ⟨htrees, htop⟩ := List.forall_mem_append.1 h
    rw [mergeAll_concat, leafAt_merge (htop top (List.mem_singleton_self top)), ih htrees]
    constructor
    · rintro (hleaf | ⟨⟨pre, t, post, rfl, hleaf, hpost⟩, htop⟩)
      · exact ⟨trees, top, [], rfl, hleaf, by simp⟩
      · refine ⟨pre, t, post ++ [top], by simp, hleaf, ?_⟩
        simpa [or_imp, forall_and] using ⟨hpost, htop⟩
    · rintro ⟨pre, t, post, heq, hleaf, hpost⟩
      -- The last tree is the one with the leaf, or it is one of those that do not cover it.
      rcases post.eq_nil_or_concat' with rfl | ⟨post, last, rfl⟩
      · obtain ⟨rfl, htail⟩ := List.append_inj' heq rfl
        obtain ⟨rfl, -⟩ := List.cons.inj htail
        exact .inl hleaf
      · have hsplit : trees ++ [top] = (pre ++ t :: post) ++ [last] := by simpa using heq
        obtain ⟨rfl, htail⟩ := List.append_inj' hsplit rfl
        obtain ⟨rfl, -⟩ := List.cons.inj htail
        obtain ⟨hpost, hlast⟩ := List.forall_mem_append.1 hpost
        exact .inr ⟨⟨pre, t, post, rfl, hleaf, hpost⟩, hlast top (List.mem_singleton_self top)⟩

end Tree

end JmsNaming
