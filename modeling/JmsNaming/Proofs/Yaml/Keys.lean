import JmsNaming.Proofs.Outcome
import JmsNaming.Proofs.Value.Table
import JmsNaming.Yaml.Document

/-
No map that is read from a YAML document has a key twice: a repeated key takes its last value.
-/
namespace JmsNaming.Yaml

theorem distinct_putEntry {t u : Table} {key v : Value} (ht : (Value.map t).Distinct) (hv : v.Distinct)
    (h : putEntry t key v = .ok u) : (Value.map u).Distinct := by
  cases key with
  | scalar k =>
    cases h
    exact ht.put hv k
  | list items => cases h
  | map entries => cases h

/-- The value of a node has no map with a key twice, on the way through maps. -/
theorem distinct_valueOf {fuel : Nat} {node : Node} {v : Value} (h : valueOf fuel node = .ok v) : v.Distinct := by
  induction fuel generalizing node v with
  | zero => cases h
  | succ fuel ih =>
    cases node with
    | scalar kind text =>
      rw [valueOf, map_eq_ok_iff] at h
      obtain ⟨s, -, rfl⟩ := h
      exact .scalar s
    | sequence kind items =>
      rw [valueOf] at h
      split at h
      · obtain ⟨vs, -, rfl⟩ := map_eq_ok_iff.1 h
        exact .list vs
      · cases h
    | mapping kind entries =>
      rw [valueOf] at h
      split at h
      · cases h
      · obtain ⟨⟨taken, own⟩, -, h⟩ := bind_eq_ok_iff.1 h
        obtain ⟨t, hfold, h⟩ := bind_eq_ok_iff.1 h
        cases h
        refine foldlM_preserves (motive := fun t => (Value.map t).Distinct) (fun t e u ht hstep => ?_) .empty hfold
        obtain ⟨key, -, hstep⟩ := bind_eq_ok_iff.1 hstep
        obtain ⟨w, hw, hstep⟩ := bind_eq_ok_iff.1 hstep
        exact distinct_putEntry ht (ih hw) hstep

theorem distinct_document {text : List Char} {v : Value} (h : document text = .ok v) : v.Distinct := by
  obtain ⟨tokens, -, h⟩ := bind_eq_ok_iff.1 h
  obtain ⟨node, -, h⟩ := bind_eq_ok_iff.1 h
  exact distinct_valueOf h

end JmsNaming.Yaml
