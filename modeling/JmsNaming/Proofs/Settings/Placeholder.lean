import JmsNaming.Settings.Template
import Mathlib.Data.List.Infix
import Mathlib.Data.List.TakeWhile

/-
Where the placeholders of a text are: they are found from left to right, and what follows one is looked
at only behind its closing brace.
-/
namespace JmsNaming.Template

/-- The text begins with a placeholder: a dollar sign, an opening brace, a name that is not empty and has no
closing brace in it, and a closing brace. -/
structure Leads (inner rest text : List Char) : Prop where
  eq : text = '$' :: '\x7b' :: inner ++ closing :: rest
  ne_nil : inner ≠ []
  not_mem : closing ∉ inner

/-- The pieces of a text: a placeholder wherever the text that is left begins with one, and otherwise a
character. -/
inductive Scan : List Char → List Piece → Prop
  | nil : Scan [] []
  | placeholder {inner rest text : List Char} {ps : List Piece} (h : Leads inner rest text) (hs : Scan rest ps) :
    Scan text (.placeholder inner :: ps)
  | char {c : Char} {text : List Char} {ps : List Piece} (h : ∀ inner rest, ¬Leads inner rest (c :: text))
    (hs : Scan text ps) : Scan (c :: text) (.char c :: ps)

variable {text rest inner : List Char} {ps qs : List Piece}

/-! ## The first placeholder -/

theorem takeWhile_of_leads (h : Leads inner rest ('$' :: '\x7b' :: text)) :
    text.takeWhile (· != closing) = inner ∧ text.dropWhile (· != closing) = closing :: rest := by
  obtain ⟨heq, -, hnot⟩ := h
  simp only [List.cons_append, List.cons.injEq, true_and] at heq
  have hinner : ∀ c ∈ inner, (c != closing) = true := fun c hc => by simpa using ne_of_mem_of_not_mem hc hnot
  rw [heq, List.takeWhile_append_of_pos hinner, List.dropWhile_append_of_pos hinner]
  simp

theorem leads_of_dropWhile (ht : text.takeWhile (· != closing) ≠ []) (hd : text.dropWhile (· != closing) ≠ []) :
    Leads (text.takeWhile (· != closing)) ((text.dropWhile (· != closing)).drop 1) ('$' :: '\x7b' :: text) := by
  obtain ⟨c, tail, hc⟩ := List.exists_cons_of_ne_nil hd
  have hhead : c = closing := by
    have := List.head_dropWhile_not (· != closing) hd
    simpa [hc] using this
  refine ⟨?_, ht, fun hm => by simpa using List.mem_takeWhile_imp hm⟩
  conv_lhs => rw [← List.takeWhile_append_dropWhile (p := (· != closing)) (l := text), hc, hhead]
  simp [hc]

/-! ## All placeholders -/

theorem scan_pieces (text : List Char) : Scan text (pieces text) := by
  fun_induction pieces text with
  | case1 => exact .nil
  | case2 rest hnone ih =>
    refine .char (fun inner tail hl => ?_) ih
    obtain ⟨ht, hd⟩ := takeWhile_of_leads hl
    simp [ht, hd, hl.ne_nil] at hnone
  | case3 rest hsome ih =>
    simp only [Bool.or_eq_true, List.isEmpty_iff, not_or] at hsome
    exact .placeholder (leads_of_dropWhile hsome.1 hsome.2) ih
  | case4 c rest hno ih =>
    refine .char (fun inner tail hl => ?_) ih
    have heq := hl.eq
    simp only [List.cons_append, List.cons.injEq] at heq
    exact hno _ heq.1 heq.2

theorem leads_inj {inner' rest' : List Char} (h : Leads inner rest text) (h' : Leads inner' rest' text) :
    inner = inner' ∧ rest = rest' := by
  obtain ⟨tail, rfl⟩ : ∃ tail, text = '$' :: '\x7b' :: tail := ⟨_, h.eq⟩
  obtain ⟨ht, hd⟩ := takeWhile_of_leads h
  obtain ⟨ht', hd'⟩ := takeWhile_of_leads h'
  rw [ht] at ht'
  rw [hd] at hd'
  exact ⟨ht', (List.cons.inj hd').2⟩

theorem Scan.unique (h : Scan text ps) (h' : Scan text qs) : ps = qs := by
  induction h generalizing qs with
  | nil =>
    cases h' with
    | nil => rfl
    | placeholder hl _ => exact absurd hl.eq (by simp)
  | placeholder hl hs ih =>
    cases h' with
    | nil => exact absurd hl.eq (by simp)
    | placeholder hl' hs' =>
      obtain ⟨rfl, rfl⟩ := leads_inj hl hl'
      rw [ih hs']
    | char hno _ => exact absurd hl (hno _ _)
  | char hno hs ih =>
    cases h' with
    | placeholder hl _ => exact absurd hl (hno _ _)
    | char _ hs' => rw [ih hs']

/-- The pieces are those of a scan from left to right, and no others. -/
theorem scan_iff : Scan text ps ↔ ps = pieces text :=
  ⟨fun h => h.unique (scan_pieces text), fun h => h ▸ scan_pieces text⟩

end JmsNaming.Template
