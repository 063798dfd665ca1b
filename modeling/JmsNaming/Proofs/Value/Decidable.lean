import JmsNaming.Value.Basic
import Mathlib.Tactic.Common

/-
Equality of values can be decided: two values are identical if they have the same shape and the same
scalars at the same places. This is finer than the equality of the language, under which a number may
be equal to a truth value.
-/
namespace JmsNaming.Value

mutual

/-- The values have the same shape and the same scalars. -/
def identical : Value → Value → Bool
  | .scalar a, .scalar b => decide (a = b)
  | .list xs, .list ys => identicalItems xs ys
  | .map xs, .map ys => identicalEntries xs ys
  | _, _ => false

/-- The items are identical one by one. -/
def identicalItems : List Value → List Value → Bool
  | [], [] => true
  | x :: xs, y :: ys => identical x y && identicalItems xs ys
  | _, _ => false

/-- The entries have the same keys and identical values, in the same order. -/
def identicalEntries : List (Scalar × Value) → List (Scalar × Value) → Bool
  | [], [] => true
  | (k, x) :: xs, (l, y) :: ys => decide (k = l) && identical x y && identicalEntries xs ys
  | _, _ => false

end

mutual

theorem identical_self : ∀ v : Value, identical v v = true
  | .scalar a => by simp [identical]
  | .list xs => by simp [identical, identicalItems_self xs]
  | .map xs => by simp [identical, identicalEntries_self xs]

theorem identicalItems_self : ∀ xs : List Value, identicalItems xs xs = true
  | [] => rfl
  | x :: xs => by simp [identicalItems, identical_self x, identicalItems_self xs]

theorem identicalEntries_self : ∀ xs : List (Scalar × Value), identicalEntries xs xs = true
  | [] => rfl
  | (k, x) :: xs => by simp [identicalEntries, identical_self x, identicalEntries_self xs]

end

mutual

theorem eq_of_identical : ∀ {v w : Value}, identical v w = true → v = w
  | .scalar a, .scalar b, h => by rw [of_decide_eq_true h]
  | .list xs, .list ys, h => by rw [eq_of_identicalItems h]
  | .map xs, .map ys, h => by rw [eq_of_identicalEntries h]

theorem eq_of_identicalItems : ∀ {xs ys : List Value}, identicalItems xs ys = true → xs = ys
  | [], [], _ => rfl
  | x :: xs, y :: ys, h => by
    obtain ⟨hx, hxs⟩ := Bool.and_eq_true_iff.1 h
    rw [eq_of_identical hx, eq_of_identicalItems hxs]

theorem eq_of_identicalEntries : ∀ {xs ys : List (Scalar × Value)}, identicalEntries xs ys = true → xs = ys
  | [], [], _ => rfl
  | (k, x) :: xs, (l, y) :: ys, h => by
    obtain ⟨hk, hxs⟩ := Bool.and_eq_true_iff.1 h
    obtain ⟨hk, hx⟩ := Bool.and_eq_true_iff.1 hk
    rw [of_decide_eq_true hk, eq_of_identical hx, eq_of_identicalEntries hxs]

end

instance : DecidableEq Value := fun v w =>
  decidable_of_iff (identical v w = true)
    ⟨eq_of_identical, fun h => h ▸ identical_self v⟩

end JmsNaming.Value
