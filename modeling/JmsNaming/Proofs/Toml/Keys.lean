import JmsNaming.Proofs.Outcome
import JmsNaming.Proofs.Value.Table
import JmsNaming.Toml.Document

/-
No table that is read from a TOML document has a key twice.
-/
namespace JmsNaming.Toml

/-! ## Changes of a table -/

/-- The change leaves no key twice where none was. -/
def KeepsDistinct (change : Table → Option Table) : Prop :=
  ∀ t u, (Value.map t).Distinct → change t = some u → (Value.map u).Distinct

variable {t u : Table} {name : String} {v : Value} {path : Path} {intoLists : Bool}
  {change : Table → Option Table}

theorem keepsDistinct_changeAt (hchange : KeepsDistinct change) : KeepsDistinct (changeAt intoLists change path) := by
  induction path with
  | nil => exact hchange
  | cons name path ih =>
    intro t u ht h
    rw [changeAt] at h
    split at h
    · obtain ⟨below, hbelow, rfl⟩ := Option.map_eq_some_iff.1 h
      exact ht.put (ih [] below .empty hbelow) _
    · rename_i below hget
      obtain ⟨below', hbelow, rfl⟩ := Option.map_eq_some_iff.1 h
      exact ht.put (ih below below' (ht.of_find? hget) hbelow) _
    · split at h
      · cases h
      · split at h
        · obtain ⟨below, -, rfl⟩ := Option.map_eq_some_iff.1 h
          exact ht.put (.list _) _
        · cases h
    · cases h

theorem keepsDistinct_addNew (hv : v.Distinct) : KeepsDistinct (addNew name v) := by
  intro t u ht h
  unfold addNew at h
  split at h
  · cases h
  · cases h
    exact ht.put hv _

theorem keepsDistinct_addTable : KeepsDistinct (addTable name) := by
  intro t u ht h
  unfold addTable at h
  split at h
  · cases h
    exact ht.put (.list _) _
  · cases h
  · cases h
    exact ht.put (.list _) _

theorem required_eq_ok {α : Type} {x : Option α} {a : α} (h : required x = .ok a) : x = some a := by
  cases x with
  | none => cases h
  | some b => rw [Except.ok.inj h]

/-! ## Values -/

variable {fuel : Nat} {s rest : List Char}

theorem distinct_items {seen : List Value} (h : items fuel seen s = .ok (v, rest)) : v.Distinct := by
  induction fuel generalizing seen s with
  | zero =>
    rw [items] at h
    cases h
  | succ fuel ih =>
    rw [items] at h
    obtain ⟨s', -, h⟩ := bind_eq_ok_iff.1 h
    split at h
    · cases h
      exact .list _
    · obtain ⟨⟨w, left⟩, -, h⟩ := bind_eq_ok_iff.1 h
      obtain ⟨behind, -, h⟩ := bind_eq_ok_iff.1 h
      split at h
      · cases h
        exact .list _
      · exact ih h
      · cases h

theorem distinct_value_and_entries (fuel : Nat) :
    (∀ {s rest v}, value fuel s = .ok (v, rest) → v.Distinct) ∧
      ∀ {marks t s rest v}, (Value.map t).Distinct → entries fuel marks t s = .ok (v, rest) → v.Distinct := by
  induction fuel with
  | zero =>
    constructor
    · intro s rest v h
      rw [value] at h
      cases h
    · intro marks t s rest v _ h
      rw [entries] at h
      cases h
  | succ fuel ih =>
    obtain ⟨hvalue, hentries⟩ := ih
    constructor
    · intro s rest v h
      unfold value at h
      split at h
      case h_7 => exact distinct_items h
      case h_8 =>
        split at h
        · cases h
          exact .empty
        · exact hentries .empty h
      case h_5 | h_6 =>
        cases h
        exact .scalar _
      all_goals
        obtain ⟨p, -, heq⟩ := map_eq_ok_iff.1 h
        cases heq
        exact .scalar _
    · intro marks t s rest v ht h
      rw [entries] at h
      obtain ⟨⟨path, s'⟩, -, h⟩ := bind_eq_ok_iff.1 h
      dsimp only at h
      split at h
      · obtain ⟨⟨w, s''⟩, hw, h⟩ := bind_eq_ok_iff.1 h
        dsimp only at h
        split at h
        · cases h
        · obtain ⟨t', ht', h⟩ := bind_eq_ok_iff.1 h
          have hdistinct := keepsDistinct_changeAt (keepsDistinct_addNew (hvalue hw)) t t' ht (required_eq_ok ht')
          split at h
          · cases h
            exact hdistinct
          · exact hentries hdistinct h
          · cases h
      · cases h

theorem distinct_value (h : value fuel s = .ok (v, rest)) : v.Distinct :=
  (distinct_value_and_entries fuel).1 h

/-! ## Statements -/

variable {d d' : Draft}

theorem distinct_tableHeader (hd : (Value.map d.tree).Distinct) (h : tableHeader d s = .ok (d', rest)) :
    (Value.map d'.tree).Distinct := by
  obtain ⟨⟨path, s'⟩, -, h⟩ := bind_eq_ok_iff.1 h
  dsimp only at h
  split at h
  · cases h
  · obtain ⟨tree, htree, h⟩ := bind_eq_ok_iff.1 h
    split at h
    · cases h
      refine keepsDistinct_changeAt (fun t u ht heq => ?_) _ _ hd (required_eq_ok htree)
      rwa [← Option.some.inj heq]
    · cases h

theorem distinct_listHeader (hd : (Value.map d.tree).Distinct) (h : listHeader d s = .ok (d', rest)) :
    (Value.map d'.tree).Distinct := by
  obtain ⟨⟨path, s'⟩, -, h⟩ := bind_eq_ok_iff.1 h
  dsimp only at h
  split at h
  · cases h
  · obtain ⟨tree, htree, h⟩ := bind_eq_ok_iff.1 h
    split at h
    · cases h
      exact keepsDistinct_changeAt keepsDistinct_addTable _ _ hd (required_eq_ok htree)
    · cases h

theorem distinct_keyValue (hd : (Value.map d.tree).Distinct) (h : keyValue d s = .ok (d', rest)) :
    (Value.map d'.tree).Distinct := by
  obtain ⟨⟨path, s'⟩, -, h⟩ := bind_eq_ok_iff.1 h
  dsimp only at h
  split at h
  · obtain ⟨⟨v, s''⟩, hv, h⟩ := bind_eq_ok_iff.1 h
    dsimp only at h
    split at h
    · cases h
    · obtain ⟨tree, htree, h⟩ := bind_eq_ok_iff.1 h
      cases h
      exact keepsDistinct_changeAt (keepsDistinct_addNew (distinct_value hv)) _ _ hd (required_eq_ok htree)
  · cases h

theorem distinct_statements (hd : (Value.map d.tree).Distinct) (h : statements fuel d s = .ok t) :
    (Value.map t).Distinct := by
  induction fuel generalizing d s with
  | zero => cases h
  | succ fuel ih =>
    rw [statements] at h
    split at h
    · cases h
      exact hd
    · exact ih hd h
    · extract_lets lineEnd at h
      -- What follows a statement: the end of its line, and then the other statements.
      have hrest : ∀ {p : Draft × List Char}, (Value.map p.1.tree).Distinct → lineEnd p = .ok t →
          (Value.map t).Distinct := by
        intro p hp h
        obtain ⟨rest, -, h⟩ := bind_eq_ok_iff.1 h
        split at h
        · cases h
          exact hp
        · exact ih hp h
        · cases h
      split at h
      · split at h
        · obtain ⟨p, hline, h⟩ := bind_eq_ok_iff.1 h
          exact hrest (distinct_listHeader hd hline) h
        · obtain ⟨p, hline, h⟩ := bind_eq_ok_iff.1 h
          exact hrest (distinct_tableHeader hd hline) h
      · split at h
        · obtain ⟨p, hline, h⟩ := bind_eq_ok_iff.1 h
          exact hrest (distinct_keyValue hd hline) h
        · split at h
          · obtain ⟨p, hsame, h⟩ := bind_eq_ok_iff.1 h
            cases hsame
            exact hrest (p := (d, _)) hd h
          · cases h

theorem distinct_document {text : List Char} (h : document text = .ok v) : v.Distinct := by
  obtain ⟨t, ht, h⟩ := bind_eq_ok_iff.1 h
  cases h
  exact distinct_statements .empty ht

end JmsNaming.Toml
