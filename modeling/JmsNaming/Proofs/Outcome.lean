import Mathlib.Data.List.Forall2

/-
Outcomes of steps one after the other: what follows a step that succeeded, and what a success as a
whole says of each step.
-/
namespace JmsNaming

variable {ε α β : Type}

@[simp] theorem ok_bind (a : α) (f : α → Except ε β) : (Except.ok a >>= f) = f a := rfl

@[simp] theorem error_bind (e : ε) (f : α → Except ε β) : (Except.error e >>= f) = .error e := rfl

@[simp] theorem pure_eq_ok (a : α) : (pure a : Except ε α) = .ok a := rfl

@[simp] theorem throw_eq_error (e : ε) : (throw e : Except ε α) = .error e := rfl

@[simp] theorem mapError_ok {ε' : Type} (a : α) (f : ε → ε') : (Except.ok a : Except ε α).mapError f = .ok a := rfl

theorem bind_eq_ok_iff {x : Except ε α} {f : α → Except ε β} {b : β} :
    x >>= f = .ok b ↔ ∃ a, x = .ok a ∧ f a = .ok b := by
  cases x <;> simp

theorem map_eq_ok_iff {x : Except ε α} {f : α → β} {b : β} : x.map f = .ok b ↔ ∃ a, x = .ok a ∧ f a = b := by
  cases x <;> simp [Except.map]

theorem map_eq_error_iff {x : Except ε α} {f : α → β} {e : ε} : x.map f = .error e ↔ x = .error e := by
  cases x <;> simp [Except.map]

theorem mapError_eq_ok_iff {ε' : Type} {x : Except ε α} {f : ε → ε'} {a : α} : x.mapError f = .ok a ↔ x = .ok a := by
  cases x with
  | error e => exact iff_of_false nofun nofun
  | ok b => rw [mapError_ok, Except.ok.injEq, Except.ok.injEq]

/-- What every step of a loop preserves holds after the loop, if it succeeds. -/
theorem foldlM_preserves {motive : β → Prop} {step : β → α → Except ε β}
    (hstep : ∀ b a b', motive b → step b a = .ok b' → motive b') {items : List α} {b b' : β} (hb : motive b)
    (h : items.foldlM step b = .ok b') : motive b' := by
  induction items generalizing b with
  | nil =>
    cases h
    exact hb
  | cons a items ih =>
    rw [List.foldlM_cons, bind_eq_ok_iff] at h
    obtain ⟨c, hc, h⟩ := h
    exact ih (hstep b a c hb hc) h

/-- There are partners for all items exactly if there is one for each. -/
theorem exists_forall₂_iff {R : α → β → Prop} {items : List α} :
    (∃ others, List.Forall₂ R items others) ↔ ∀ a ∈ items, ∃ b, R a b := by
  induction items with
  | nil => exact iff_of_true ⟨[], .nil⟩ nofun
  | cons a items ih =>
    rw [List.forall_mem_cons, ← ih]
    constructor
    · rintro ⟨_, _ | ⟨hhead, hrest⟩⟩
      exact ⟨⟨_, hhead⟩, _, hrest⟩
    · rintro ⟨⟨b, hhead⟩, others, hrest⟩
      exact ⟨b :: others, .cons hhead hrest⟩

/-- A step over all items succeeds exactly if it does for each. -/
theorem mapM_eq_ok_iff {f : α → Except ε β} {items : List α} {others : List β} :
    items.mapM f = .ok others ↔ List.Forall₂ (fun a b => f a = .ok b) items others := by
  induction items generalizing others with
  | nil => simp [eq_comm]
  | cons a items ih =>
    simp only [List.mapM_cons, bind_eq_ok_iff, List.forall₂_cons_left_iff, ← ih, pure_eq_ok, Except.ok.injEq]
    constructor
    · rintro ⟨b, hhead, bs, hrest, rfl⟩
      exact ⟨b, bs, hhead, hrest, rfl⟩
    · rintro ⟨b, bs, hhead, hrest, rfl⟩
      exact ⟨b, hhead, bs, hrest, rfl⟩

theorem exists_mapM_eq_ok_iff {f : α → Except ε β} {items : List α} :
    (∃ others, items.mapM f = .ok others) ↔ ∀ a ∈ items, ∃ b, f a = .ok b := by
  simp only [mapM_eq_ok_iff, exists_forall₂_iff]

/-- Every failure of an outcome is of one sort. -/
def FailsWith (p : ε → Prop) (x : Except ε α) : Prop :=
  ∀ e, x = .error e → p e

theorem failsWith_ok {p : ε → Prop} (a : α) : FailsWith p (Except.ok a : Except ε α) :=
  nofun

theorem failsWith_error {p : ε → Prop} {e : ε} (h : p e) : FailsWith p (Except.error e : Except ε α) := by
  rintro _ ⟨⟩
  exact h

theorem FailsWith.bind {p : ε → Prop} {x : Except ε α} {f : α → Except ε β} (hx : FailsWith p x)
    (hf : ∀ a, FailsWith p (f a)) : FailsWith p (x >>= f) := by
  cases x with
  | error e => exact failsWith_error (hx e rfl)
  | ok a => exact hf a

theorem FailsWith.ite {p : ε → Prop} {c : Prop} [Decidable c] {x y : Except ε α} (hx : FailsWith p x)
    (hy : FailsWith p y) : FailsWith p (if c then x else y) := by
  split
  · exact hx
  · exact hy

theorem FailsWith.map {p : ε → Prop} {x : Except ε α} (hx : FailsWith p x) (f : α → β) : FailsWith p (x.map f) := by
  cases x with
  | error e => exact failsWith_error (hx e rfl)
  | ok a => exact failsWith_ok (f a)

theorem eq_ok_of_toOption {x : Except ε α} {a : α} (h : x.toOption = some a) : x = .ok a := by
  cases x with
  | error e => cases h
  | ok b => rw [Option.some.inj h]

end JmsNaming
