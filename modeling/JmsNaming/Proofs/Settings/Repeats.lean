import JmsNaming.Proofs.Settings.Layers
import JmsNaming.Proofs.Value.Decidable
import Mathlib.Data.List.Dedup

/-
Overlays that are merged more than once: only the last time counts. At each path the last overlay decides that covers it,
and of an overlay that comes again, the later one covers all that the earlier does.
-/
namespace JmsNaming

/-! ## Trees that are equal but for the order of their entries -/

namespace Value

/-- The values are equal as maps: at every path of keys both have the same leaf, or both a map, or both nothing. The
order of the entries makes no difference, and what stands under a key that equals no key is at no path. -/
def Alike (v w : Value) : Prop :=
  ∀ path, v.shapeAt? path = w.shapeAt? path

variable {u v w : Value}

theorem Alike.refl (v : Value) : Alike v v :=
  fun _ => rfl

theorem Alike.trans (h : Alike u v) (h' : Alike v w) : Alike u w :=
  fun path => (h path).trans (h' path)

/-- Two maps are alike exactly if each key names values in them that are alike, or nothing in either. -/
theorem alike_map_iff {t t' : Table} :
    Alike (.map t) (.map t') ↔ ∀ k, Option.Rel Alike (t.find? k) (t'.find? k) := by
  constructor
  · intro h k
    have hpath : ∀ path, (t.find? k).bind (shapeAt? · path) = (t'.find? k).bind (shapeAt? · path) := by
      intro path
      rw [← shapeAt?_map_cons, ← shapeAt?_map_cons, h]
    generalize t.find? k = found at hpath
    generalize t'.find? k = found' at hpath
    cases found with
    | none =>
      cases found' with
      | none => exact .none
      | some w => cases hpath []
    | some v =>
      cases found' with
      | none => cases hpath []
      | some w => exact .some hpath
  · intro h path
    cases path with
    | nil => rfl
    | cons k path =>
      rw [shapeAt?_map_cons, shapeAt?_map_cons]
      have hk := h k
      generalize t.find? k = found at hk
      generalize t'.find? k = found' at hk
      cases hk with
      | none => rfl
      | some hvw => exact hvw path

theorem mem_keys_of_alike {t t' : Table} (h : Alike (.map t) (.map t')) {e : Scalar × Value} (he : e ∈ t)
    (hself : e.1.sameKey e.1 = true) : ∃ d ∈ t', d.1.key = e.1.key := by
  have hfound : (t.find? e.1).isSome = true := by
    rw [Table.find?, Option.isSome_map, List.find?_isSome]
    exact ⟨e, he, hself⟩
  have hrel := alike_map_iff.1 h e.1
  obtain ⟨v, hv⟩ := Option.isSome_iff_exists.1 hfound
  rw [hv] at hrel
  cases hw : t'.find? e.1 with
  | none =>
    rw [hw] at hrel
    cases hrel
  | some w =>
    obtain ⟨d, hd, hkey, -⟩ := Table.exists_of_find? hw
    exact ⟨d, hd, (Scalar.sameKey_iff.1 hkey).1⟩

/-- Maps that are alike have the same keys up to their order, where the keys are unique and each equals itself. -/
theorem Alike.perm_keys {t t' : Table} (h : Alike (.map t) (.map t')) (ht : t.Distinct) (ht' : t'.Distinct)
    (hself : ∀ e ∈ t, e.1.sameKey e.1 = true) (hself' : ∀ e ∈ t', e.1.sameKey e.1 = true) :
    (t.map (·.1.key)).Perm (t'.map (·.1.key)) := by
  have hnodup : ∀ {t : Table}, t.Distinct → (∀ e ∈ t, e.1.sameKey e.1 = true) → (t.map (·.1.key)).Nodup := by
    intro t ht hself
    rw [List.Nodup, List.pairwise_map]
    refine (List.pairwise_map.1 ht).imp_of_mem fun {a b} ha _ hne heq => ?_
    have hsame : a.1.sameKey b.1 = true := Scalar.sameKey_iff.2 ⟨heq, (Scalar.sameKey_iff.1 (hself a ha)).2⟩
    rw [hne] at hsame
    cases hsame
  refine (List.perm_ext_iff_of_nodup (hnodup ht hself) (hnodup ht' hself')).2 fun key => ?_
  simp only [List.mem_map]
  constructor
  · rintro ⟨e, he, rfl⟩
    exact mem_keys_of_alike h he (hself e he)
  · rintro ⟨e, he, rfl⟩
    exact mem_keys_of_alike (fun path => (h path).symm) he (hself' e he)

end Value

/-! ## Merging an overlay again -/

namespace Tree

open Value

variable {base base' p : Table} {overlays later : List Table}

/-- What overlays leave at a path depends on the base only where none of them covers the path, and then only on what the
base has there. -/
theorem shapeAt?_foldl_merge {path : List Scalar} (h : ∀ t ∈ overlays, (Value.map t).Distinct)
    (hbase : (Value.map base).shapeAt? path = (Value.map base').shapeAt? path ∨
      ∃ t ∈ overlays, Covers (.map t) path) :
    (Value.map (overlays.foldl merge base)).shapeAt? path = (Value.map (overlays.foldl merge base')).shapeAt? path := by
  induction overlays generalizing base base' with
  | nil => exact hbase.resolve_right (by simp)
  | cons t overlays ih =>
    obtain ⟨ht, hoverlays⟩ := List.forall_mem_cons.1 h
    obtain ⟨hcovered, hrest⟩ := shapeAt?_merge ht base path
    obtain ⟨hcovered', hrest'⟩ := shapeAt?_merge ht base' path
    refine ih hoverlays ?_
    by_cases hcovers : Covers (.map t) path
    · exact .inl ((hcovered hcovers).trans (hcovered' hcovers).symm)
    · rw [hrest hcovers, hrest' hcovers]
      refine hbase.imp_right ?_
      rintro ⟨u, hu, hpath⟩
      rcases List.mem_cons.1 hu with rfl | hu
      · exact absurd hpath hcovers
      · exact ⟨u, hu, hpath⟩

/-- An overlay makes no difference if it comes again later. -/
theorem alike_foldl_merge_of_mem (h : ∀ t ∈ later, (Value.map t).Distinct) (hp : p ∈ later) (base : Table) :
    Alike (.map (later.foldl merge (merge base p))) (.map (later.foldl merge base)) := by
  intro path
  refine shapeAt?_foldl_merge h ?_
  by_cases hcovers : Covers (.map p) path
  · exact .inr ⟨p, hp, hcovers⟩
  · exact .inl ((shapeAt?_merge (h p hp) base path).2 hcovers)

theorem alike_foldl_merge_dedup (h : ∀ t ∈ overlays, (Value.map t).Distinct) (base : Table) :
    Alike (.map (overlays.foldl merge base)) (.map (overlays.dedup.foldl merge base)) := by
  induction overlays generalizing base with
  | nil => exact .refl _
  | cons p overlays ih =>
    have hoverlays : ∀ t ∈ overlays, (Value.map t).Distinct := (List.forall_mem_cons.1 h).2
    by_cases hp : p ∈ overlays
    · rw [List.dedup_cons_of_mem hp]
      exact (alike_foldl_merge_of_mem hoverlays hp base).trans (ih hoverlays base)
    · rw [List.dedup_cons_of_notMem hp]
      exact ih hoverlays (merge base p)

/-- Of overlays with unique keys that are merged one after the other, each may be left out wherever it comes again later:
the tree is the same map. So merging an overlay twice is merging it once, whatever is merged in between. -/
theorem alike_merge_dedup (base : Table) (hp : (Value.map p).Distinct)
    (h : ∀ t ∈ overlays, (Value.map t).Distinct) :
    Alike (.map (overlays.foldl merge base)) (.map (overlays.dedup.foldl merge base)) ∧
      Alike (.map (merge (merge base p) p)) (.map (merge base p)) ∧
      Alike (.map (merge (overlays.foldl merge (merge base p)) p)) (.map (merge (overlays.foldl merge base) p)) := by
  have hlast : ∀ t ∈ overlays ++ [p], (Value.map t).Distinct :=
    List.forall_mem_append.2 ⟨h, by simpa using hp⟩
  refine ⟨alike_foldl_merge_dedup h base, ?_, ?_⟩
  · have hsingle : ∀ t ∈ [p], (Value.map t).Distinct := by simpa using hp
    exact alike_foldl_merge_of_mem hsingle (List.mem_singleton_self p) base
  · have hagain := alike_foldl_merge_of_mem hlast (List.mem_append_right _ (List.mem_singleton_self p)) base
    simpa only [List.foldl_append, List.foldl_cons, List.foldl_nil] using hagain

/-- An overlay comes twice, with a null between that takes away the map of the base, and with an empty map. -/
theorem alike_merge_dedup_revived :
    let base : Table := [(.text "a", .map [(.text "b", .int 1)]), (.bool true, .int 2)]
    let p : Table := [(.text "a", .map [(.text "c", .int 3)]), (.int 1, .map [])]
    let q : Table := [(.text "a", .null), (.text "d", .list [.int 4])]
    (∀ t ∈ [p, q, p], (Value.map t).Distinct) ∧ [p, q, p].dedup = [q, p] ∧
      Alike (.map ([p, q, p].foldl merge base)) (.map ([q, p].foldl merge base)) ∧
      Alike (.map (merge (merge base p) p)) (.map (merge base p)) ∧
      (Value.map ([p, q, p].foldl merge base)).shapeAt? [.text "a", .text "b"] = none := by
  intro base p q
  have hp : (Value.map p).Distinct := by
    refine .map (by unfold Table.Distinct; decide) ?_
    simp only [p, List.forall_mem_cons, List.not_mem_nil, false_implies, implies_true, and_true]
    exact ⟨.map (by unfold Table.Distinct; decide) (by simp [Value.Distinct.scalar]), .empty⟩
  have hq : (Value.map q).Distinct := by
    refine .map (by unfold Table.Distinct; decide) ?_
    simp only [q, List.forall_mem_cons, List.not_mem_nil, false_implies, implies_true, and_true]
    exact ⟨.scalar _, .list _⟩
  have hall : ∀ t ∈ [p, q, p], (Value.map t).Distinct := by
    simpa using ⟨hp, hq, hp⟩
  have hdedup : [p, q, p].dedup = [q, p] := by decide
  obtain ⟨hlast, htwice, -⟩ := alike_merge_dedup base hp hall
  exact ⟨hall, hdedup, hdedup ▸ hlast, htwice, by decide⟩

end Tree

/-! ## Profiles that are named more than once -/

namespace Files

variable {files : Files} {base : FilePath} {profile : String} {profiles : List String} {layers : List (String × Table)}

theorem Overlays.mem_of_holds (h : files.Overlays base profiles layers) (hm : profile ∈ profiles) {t : Table}
    (ht : files.Holds (base.overlay profile) t) : t ∈ layers.map Prod.snd := by
  induction h with
  | nil => cases hm
  | lacks hlacks _ ih =>
    rcases List.mem_cons.1 hm with rfl | hm
    · exact absurd ht hlacks.not_holds
    · exact ih hm
  | holds hholds _ ih =>
    rcases List.mem_cons.1 hm with rfl | hm
    · exact List.mem_map.2 ⟨_, List.mem_cons_self, hholds.unique ht⟩
    · exact List.mem_cons_of_mem _ (ih hm)

/-- The overlays of profiles each of which is named once are merged to the same tree. -/
theorem Overlays.exists_dedup (h : files.Overlays base profiles layers) :
    ∃ layers', files.Overlays base profiles.dedup layers' ∧ ∀ tree,
      Value.Alike (.map ((layers.map Prod.snd).foldl Tree.merge tree))
        (.map ((layers'.map Prod.snd).foldl Tree.merge tree)) := by
  induction h with
  | nil => exact ⟨[], .nil, fun _ => .refl _⟩
  | @lacks profile profiles layers hlacks _ ih =>
    obtain ⟨layers', hlayers, halike⟩ := ih
    by_cases hm : profile ∈ profiles
    · rw [List.dedup_cons_of_mem hm]
      exact ⟨layers', hlayers, halike⟩
    · rw [List.dedup_cons_of_notMem hm]
      exact ⟨layers', .lacks hlacks hlayers, halike⟩
  | @holds profile profiles t layers hholds hs ih =>
    obtain ⟨layers', hlayers, halike⟩ := ih
    by_cases hm : profile ∈ profiles
    · rw [List.dedup_cons_of_mem hm]
      exact ⟨layers', hlayers, fun tree =>
        (Tree.alike_foldl_merge_of_mem hs.distinct (hs.mem_of_holds hm hholds) tree).trans (halike tree)⟩
    · rw [List.dedup_cons_of_notMem hm]
      exact ⟨_, .holds hholds hlayers, fun tree => halike (Tree.merge tree t)⟩

end Files

/-- Naming a profile again changes nothing but its place: the settings are those that are loaded with each profile where
it is named last. -/
theorem Settings.load_dedup {files : Files} {path : String} {profiles : List String} {t : Table}
    (ht : files.Holds (.ofText path) t)
    (hprofiles : ∀ profile ∈ profiles, files.Lacks ((FilePath.ofText path).overlay profile) ∨
      ∃ u, files.Holds ((FilePath.ofText path).overlay profile) u) :
    ∃ s s', load files path profiles = .ok s ∧ load files path profiles.dedup = .ok s' ∧ s.root.Alike s'.root := by
  obtain ⟨layers, hlayers⟩ := Files.exists_overlays hprofiles
  obtain ⟨layers', hlayers', halike⟩ := hlayers.exists_dedup
  exact ⟨_, _, load_eq ht hlayers, load_eq ht hlayers', halike (Tree.merge [] t)⟩

end JmsNaming
