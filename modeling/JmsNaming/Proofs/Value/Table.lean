import JmsNaming.Value.Basic
import Mathlib.Data.List.Pairwise

/-
Tables as finite maps: keys are compared up to equality of the numbers they stand for, an entry that is put
is found under its key and nowhere else, and no table is built that has a key twice.
-/
namespace JmsNaming

/-! ## Keys -/

namespace Scalar

variable {a b : Scalar}

theorem sameKey_iff : a.sameKey b = true ↔ a.key = b.key ∧ a.key ≠ .scalar (float .nan) := by
  simp [sameKey]

/-- Keys that are the same are the same as the same keys. -/
theorem sameKey_congr (h : a.sameKey b = true) (c : Scalar) : a.sameKey c = b.sameKey c := by
  unfold sameKey
  rw [(sameKey_iff.1 h).1]

theorem sameKey_comm (a b : Scalar) : a.sameKey b = b.sameKey a := by
  rw [Bool.eq_iff_iff, sameKey_iff, sameKey_iff]
  constructor
  · rintro ⟨heq, hne⟩
    exact ⟨heq.symm, heq ▸ hne⟩
  · rintro ⟨heq, hne⟩
    exact ⟨heq.symm, heq ▸ hne⟩

theorem sameKey_congr_right (h : a.sameKey b = true) (c : Scalar) : c.sameKey a = c.sameKey b := by
  rw [sameKey_comm c a, sameKey_comm c b, sameKey_congr h]

/-- A name is the same as itself only. -/
theorem sameKey_text_iff {name : String} : a.sameKey (.text name) = true ↔ a = .text name := by
  constructor
  · intro h
    have hkey : a.key = .scalar (.text name) := (sameKey_iff.1 h).1
    unfold key at hkey
    split at hkey
    · cases hkey
    · split at hkey <;> cases hkey
    · split at hkey <;> cases hkey
    · exact Key.scalar.inj hkey
  · rintro rfl
    exact sameKey_iff.2 ⟨rfl, nofun⟩

end Scalar

/-! ## Entries -/

namespace Table

variable {t : Table} {k k' : Scalar} {v w : Value} {e : Scalar × Value}

@[simp] theorem find?_nil : find? [] k = none := rfl

theorem find?_cons : find? (e :: t) k = if e.1.sameKey k then some e.2 else find? t k := by
  unfold find?
  rw [List.find?_cons]
  split <;> simp_all

theorem exists_of_find? (h : t.find? k = some v) : ∃ e ∈ t, e.1.sameKey k = true ∧ e.2 = v := by
  obtain ⟨e, he, rfl⟩ := Option.map_eq_some_iff.1 h
  exact ⟨e, List.mem_of_find?_eq_some he, by simpa using List.find?_some he, rfl⟩

theorem find?_eq_none (h : ∀ e ∈ t, e.1.sameKey k = false) : t.find? k = none := by
  unfold find?
  rw [List.find?_eq_none.2 fun e he => by simp [h e he]]
  rfl

/-- There is nothing under a name exactly if no entry has it. -/
theorem get?_eq_none_iff {name : String} : t.get? name = none ↔ ∀ e ∈ t, e.1 ≠ .text name := by
  constructor
  · intro h e he hname
    have hsome : (List.find? (fun e => e.1.sameKey (.text name)) t).isSome = true :=
      List.find?_isSome.2 ⟨e, he, Scalar.sameKey_text_iff.2 hname⟩
    rw [get?, find?, Option.map_eq_none_iff] at h
    rw [h] at hsome
    cases hsome
  · exact fun h => find?_eq_none fun e he => Bool.eq_false_iff.2 fun hk => h e he (Scalar.sameKey_text_iff.1 hk)

/-- The same keys name the same entry. -/
theorem find?_congr (h : k.sameKey k' = true) : t.find? k = t.find? k' := by
  unfold find?
  simp only [Scalar.sameKey_congr_right h]

/-- What is left out under other keys is not missed. -/
theorem find?_filter {p : Scalar × Value → Bool} (h : ∀ e ∈ t, e.1.sameKey k = true → p e = true) :
    find? (t.filter p) k = t.find? k := by
  induction t with
  | nil => rfl
  | cons e t ih =>
    obtain ⟨he, ht⟩ := List.forall_mem_cons.1 h
    rw [List.filter_cons, find?_cons]
    by_cases hk : e.1.sameKey k = true
    · rw [if_pos (he hk), find?_cons, if_pos hk, if_pos hk]
    · rw [if_neg hk, ← ih ht]
      split
      · rw [find?_cons, if_neg hk]
      · rfl

theorem find?_put (t : Table) (k : Scalar) (v : Value) (k' : Scalar) :
    (t.put k v).find? k' = if k.sameKey k' then some v else t.find? k' := by
  induction t with
  | nil => rw [put, find?_cons]
  | cons e t ih =>
    rw [put]
    by_cases hk : e.1.sameKey k = true
    · rw [if_pos hk, find?_cons, find?_cons, Scalar.sameKey_congr hk]
      split <;> rfl
    · rw [if_neg hk, find?_cons, find?_cons, ih]
      by_cases hk' : k.sameKey k' = true
      · rw [Scalar.sameKey_congr_right hk'] at hk
        simp only [if_pos hk', if_neg hk]
      · simp only [if_neg hk']

theorem mem_put (h : e ∈ t.put k v) : e ∈ t ∨ e.2 = v := by
  induction t with
  | nil => exact .inr (by rw [List.mem_singleton.1 h])
  | cons d t ih =>
    rw [put] at h
    split at h
    · rcases List.mem_cons.1 h with rfl | h
      · exact .inr rfl
      · exact .inl (List.mem_cons_of_mem _ h)
    · rcases List.mem_cons.1 h with rfl | h
      · exact .inl List.mem_cons_self
      · exact (ih h).imp_left (List.mem_cons_of_mem _)

/-- An entry that is put keeps the keys as they are, or adds one that is new. -/
theorem keys_put (t : Table) (k : Scalar) (v : Value) : (t.put k v).map Prod.fst = t.map Prod.fst ∨
    (t.put k v).map Prod.fst = t.map Prod.fst ++ [k] ∧ ∀ k' ∈ t.map Prod.fst, k'.sameKey k = false := by
  induction t with
  | nil => exact .inr ⟨rfl, by simp⟩
  | cons e t ih =>
    rw [put]
    by_cases hk : e.1.sameKey k = true
    · rw [if_pos hk]
      exact .inl rfl
    · rw [if_neg hk]
      rcases ih with ih | ⟨ih, hnew⟩
      · exact .inl (congrArg (e.1 :: ·) ih)
      · refine .inr ⟨congrArg (e.1 :: ·) ih, ?_⟩
        simp only [List.map_cons, List.forall_mem_cons]
        exact ⟨Bool.eq_false_iff.2 hk, hnew⟩

/-- No key is there twice. -/
def Distinct (t : Table) : Prop :=
  (t.map Prod.fst).Pairwise fun k k' => k.sameKey k' = false

theorem Distinct.put (h : t.Distinct) (k : Scalar) (v : Value) : (t.put k v).Distinct := by
  unfold Distinct
  rcases keys_put t k v with hkeys | ⟨hkeys, hnew⟩
  · rw [hkeys]
    exact h
  · rw [hkeys, List.pairwise_append]
    exact ⟨h, List.pairwise_singleton _ _, fun k' hk' _ hk => List.mem_singleton.1 hk ▸ hnew k' hk'⟩

theorem distinct_cons : Distinct (e :: t) ↔ (∀ d ∈ t, e.1.sameKey d.1 = false) ∧ t.Distinct := by
  simp [Distinct]

/-! ## Tables of entries -/

/-- Where no key is there twice, each entry is the one that its key names. -/
theorem find?_of_mem (h : t.Distinct) (he : e ∈ t) (hk : e.1.sameKey k = true) : t.find? k = some e.2 := by
  induction t with
  | nil => cases he
  | cons d t ih =>
    obtain ⟨hd, ht⟩ := distinct_cons.1 h
    rw [find?_cons]
    rcases List.mem_cons.1 he with rfl | he
    · rw [if_pos hk]
    · rw [if_neg (by rw [← Scalar.sameKey_congr_right hk, hd e he]; decide), ih ht he]

theorem put_of_new (h : ∀ e ∈ t, e.1.sameKey k = false) : t.put k v = t ++ [(k, v)] := by
  induction t with
  | nil => rfl
  | cons e t ih =>
    obtain ⟨he, ht⟩ := List.forall_mem_cons.1 h
    rw [put, if_neg (by simp [he]), ih ht, List.cons_append]

/-- Entries with different keys are a table as they are. -/
theorem ofEntries_of_distinct (h : t.Distinct) : ofEntries t = t := by
  suffices hall : ∀ first : Table, Distinct (first ++ t) → t.foldl (fun t e => t.put e.1 e.2) first = first ++ t from
    hall [] h
  clear h
  induction t with
  | nil => intro first _; rw [List.append_nil, List.foldl_nil]
  | cons e t ih =>
    intro first h
    have hnew : ∀ d ∈ first, d.1.sameKey e.1 = false := by
      intro d hd
      rw [Distinct, List.map_append, List.pairwise_append] at h
      exact h.2.2 d.1 (List.mem_map_of_mem hd) e.1 (by simp)
    rw [List.foldl_cons, put_of_new hnew, ih]
    · simp
    · simpa using h

/-- What holds of all keys and of all values of some entries holds of those of their table. -/
theorem forall_mem_ofEntries {P : Scalar → Prop} {Q : Value → Prop} {entries : List (Scalar × Value)}
    (h : ∀ e ∈ entries, P e.1 ∧ Q e.2) : ∀ e ∈ ofEntries entries, P e.1 ∧ Q e.2 := by
  suffices hall : ∀ t : Table, (∀ e ∈ t, P e.1 ∧ Q e.2) →
      ∀ e ∈ entries.foldl (fun t e => t.put e.1 e.2) t, P e.1 ∧ Q e.2 from
    hall [] (by simp)
  induction entries with
  | nil => exact fun t ht => ht
  | cons d entries ih =>
    obtain ⟨hd, hentries⟩ := List.forall_mem_cons.1 h
    refine fun t ht => ih hentries (t.put d.1 d.2) fun e he => ⟨?_, ?_⟩
    · have hkey : e.1 ∈ (t.put d.1 d.2).map Prod.fst := List.mem_map_of_mem he
      have hkeys : ∀ k ∈ t.map Prod.fst, P k := List.forall_mem_map.2 fun e he => (ht e he).1
      rcases keys_put t d.1 d.2 with hput | ⟨hput, -⟩
      · exact hkeys _ (hput ▸ hkey)
      · rw [hput, List.mem_append, List.mem_singleton] at hkey
        rcases hkey with hkey | hkey
        · exact hkeys _ hkey
        · exact hkey ▸ hd.1
    · rcases mem_put he with he | he
      · exact (ht e he).2
      · exact he ▸ hd.2

end Table

/-! ## Values -/

namespace Value

/-- No map that is reached through maps has a key twice. -/
inductive Distinct : Value → Prop
  | scalar (s : Scalar) : Distinct (.scalar s)
  | list (items : List Value) : Distinct (.list items)
  | map {t : Table} (keys : t.Distinct) (values : ∀ e ∈ t, Distinct e.2) : Distinct (.map t)

namespace Distinct

variable {t : Table} {k : Scalar} {v : Value}

theorem keys (h : Distinct (.map t)) : t.Distinct := by
  cases h with
  | map keys _ => exact keys

theorem values (h : Distinct (.map t)) {e : Scalar × Value} (he : e ∈ t) : e.2.Distinct := by
  cases h with
  | map _ values => exact values e he

theorem empty : Distinct (.map []) :=
  .map List.Pairwise.nil (by simp)

theorem of_find? (h : Distinct (.map t)) (hv : t.find? k = some v) : v.Distinct := by
  obtain ⟨e, he, -, rfl⟩ := Table.exists_of_find? hv
  exact h.values he

theorem put (h : Distinct (.map t)) (hv : v.Distinct) (k : Scalar) : Distinct (.map (t.put k v)) := by
  refine .map (h.keys.put k v) fun e he => ?_
  rcases Table.mem_put he with he | rfl
  · exact h.values he
  · exact hv

end Distinct

theorem haveWritable_iff {t : Table} :
    haveWritable t = true ↔ ∀ e ∈ t, e.1.isWritable = true ∧ e.2.isWritable = true := by
  induction t with
  | nil => simp [haveWritable]
  | cons e t ih => simp [haveWritable, ih]

theorem isWritable_of_find? {t : Table} {k : Scalar} {v : Value} (h : haveWritable t = true)
    (hv : t.find? k = some v) : v.isWritable = true := by
  obtain ⟨e, he, -, rfl⟩ := Table.exists_of_find? hv
  exact (haveWritable_iff.1 h e he).2

end Value

end JmsNaming
