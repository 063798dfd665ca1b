import JmsNaming.Proofs.Terminal.Message

/-
Tables: where all cells can be shown, the title alone decides whether a table can be printed. Escaped text can always be
shown, and so can plain characters.
-/
namespace JmsNaming.Terminal

/-! ## Cells -/

theorem exists_showMarkup_escape (s : List Char) : ∃ text, showMarkup (escape s) = .ok text :=
  exists_showMarkup_of_sound (sound_escape s)

/-- Without an opening bracket there is no tag. -/
theorem sound_of_not_mem {s : List Char} (h : '[' ∉ s) : Sound [] s := by
  induction s using text_induction with
  | slashes n => exact Sound.slashes (by simp) n
  | plain n d rest hd hnone ih => exact (ih fun hrest => h (by simp [hrest])).plain hd hnone
  | tag n t body rest htag ih => exact absurd (by simp) h

theorem exists_showMarkup_of_not_mem {s : List Char} (h : '[' ∉ s) : ∃ text, showMarkup s = .ok text :=
  exists_showMarkup_of_sound (sound_of_not_mem h)

/-- A closing tag closes nothing where no tag is open. -/
theorem exists_afterTag_error (body : List Char) (position : Nat) :
    ∃ fault, afterTag [] ('/' :: body) position = .error fault := by
  obtain ⟨name, parameters, hparts⟩ : ∃ name parameters, tagParts ('/' :: body) = ('/' :: name, parameters) := by
    rw [tagParts, Text.cut?_cons, if_neg (by decide)]
    cases Text.cut? '=' body with
    | none => exact ⟨_, _, rfl⟩
    | some p => exact ⟨_, _, rfl⟩
  rw [afterTag, hparts]
  by_cases hempty : (Text.trim name).isEmpty = true
  · simp only [if_pos hempty]
    exact ⟨_, rfl⟩
  · simp only [if_neg hempty]
    cases Style.normal (Text.trim name) with
    | error fault => exact ⟨_, rfl⟩
    | ok normal => exact ⟨_, rfl⟩

/-- A text whose first tag is a closing one cannot be shown. -/
theorem exists_showMarkup_error {p body rest : List Char} (hp : p.all isPlain = true) (hbody : ∀ c ∈ body, ¬IsBracket c) :
    ∃ fault, showMarkup (p ++ '[' :: '/' :: (body ++ ']' :: rest)) = .error fault := by
  have htag : tag? ('/' :: (body ++ ']' :: rest)) = some ('/' :: body, rest) :=
    tag?_eq_some_iff.2 ⟨⟨rfl, List.forall_mem_cons.2 ⟨by simp [IsBracket], hbody⟩⟩, by simp [beginsTag]⟩
  have hchunks : chunks ('[' :: '/' :: (body ++ ']' :: rest)) = .tag 0 ('/' :: body) :: chunks rest :=
    chunks_tag (n := 0) htag
  have hshow : ∀ position, ∃ fault, showChunks position [] (.tag 0 ('/' :: body) :: chunks rest) = .error fault := by
    intro position
    obtain ⟨fault, hfault⟩ := exists_afterTag_error body (position + 0)
    rw [showChunks, if_neg (by decide), hfault]
    exact ⟨fault, rfl⟩
  rw [showMarkup]
  cases p with
  | nil =>
    obtain ⟨fault, hfault⟩ := hshow 0
    rw [List.nil_append, hchunks, hfault]
    exact ⟨fault, rfl⟩
  | cons c p =>
    obtain ⟨fault, hfault⟩ := hshow (0 + (c :: p).length)
    have hplain : chunks (c :: p ++ '[' :: '/' :: (body ++ ']' :: rest)) =
        .plain (c :: p) :: .tag 0 ('/' :: body) :: chunks rest := by
      rw [chunks_append hp (by simp), hchunks]
      rfl
    rw [hplain, showChunks, hfault]
    exact ⟨fault, rfl⟩

theorem showMarkup_nil : showMarkup [] = .ok [] := by
  have hend : chunks [] = [] := by rw [chunks]
  rw [showMarkup, hend]
  rfl

/-! ## Tables -/

namespace Table

/-- What the cells of a row show. -/
def RowShows (row : String × String) (texts : List Char × List Char) : Prop :=
  showMarkup row.1.toList = .ok texts.1 ∧ showMarkup row.2.toList = .ok texts.2

theorem showRow_eq_ok_iff {row : String × String} {texts : List Char × List Char} :
    showRow row = .ok texts ↔ RowShows row texts := by
  simp only [showRow, bind_eq_ok_iff, pure_eq_ok, Except.ok.injEq, RowShows]
  constructor
  · rintro ⟨a, ha, b, hb, rfl⟩
    exact ⟨ha, hb⟩
  · rintro ⟨ha, hb⟩
    exact ⟨_, ha, _, hb, rfl⟩

variable {t : Table} {header : Option (List Char × List Char)} {rows : List (List Char × List Char)}

/-- With its cells shown, the table is printed under what the title shows. -/
theorem print_of_rows (hheader : t.header.mapM showRow = .ok header) (hrows : t.rows.mapM showRow = .ok rows) :
    t.print = (showMarkup t.title.toList).map fun text =>
      joinLines (Shown.lines { title := if t.title.isEmpty then none else some text, header, rows }) := by
  rw [print, shown, hheader, hrows, ok_bind, ok_bind]
  by_cases hempty : t.title.isEmpty = true
  · have htitle : t.title.toList = [] := by simpa using hempty
    simp only [if_pos hempty, htitle, showMarkup_nil]
    rfl
  · simp only [if_neg hempty]
    cases showMarkup t.title.toList <;> rfl

end Table

end JmsNaming.Terminal
