import JmsNaming.Proofs.Terminal.Message
import Mathlib.Data.List.SplitBy

/-
What is printed begins as the markup shows it: no character with a cell of its own at the beginning of a text is lost
where the text is broken into lines, and no line is put before it.
-/
namespace JmsNaming.Terminal

variable {c : Char} {s : List Char} {lines : List (List Char)} {cells : Nat}

/-! ## Characters that stay first -/

/-- The text begins with the character. -/
def Begins (c : Char) (s : List Char) : Prop :=
  s.head? = some c

/-- The first of some lines begins with the character. -/
def BeginsFirst (c : Char) (lines : List (List Char)) : Prop :=
  ∃ l ∈ lines.head?, Begins c l

/-- The character is printed in one cell and belongs to nothing before it. -/
def isInk (c : Char) : Bool :=
  0x20 < c.toNat && c.toNat < 0x7f

theorem begins_iff : Begins c s ↔ ∃ t, s = c :: t :=
  List.head?_eq_some_iff

theorem Begins.append (h : Begins c s) (t : List Char) : Begins c (s ++ t) := by
  obtain ⟨u, rfl⟩ := begins_iff.1 h
  rfl

theorem Begins.unique {d : Char} (h : Begins c s) (h' : Begins d s) : c = d :=
  Option.some.inj (h.symm.trans h')

theorem Begins.ne_nil (h : Begins c s) : s ≠ [] := by
  rintro rfl
  cases h

theorem beginsFirst_cons (h : Begins c s) : BeginsFirst c (s :: lines) :=
  ⟨s, rfl, h⟩

theorem BeginsFirst.append (h : BeginsFirst c lines) (more : List (List Char)) : BeginsFirst c (lines ++ more) := by
  obtain ⟨l, hl, hbegins⟩ := h
  cases lines with
  | nil => cases hl
  | cons first lines => exact ⟨l, hl, hbegins⟩

theorem BeginsFirst.map (h : BeginsFirst c lines) {f : List Char → List Char} (hf : ∀ l, Begins c l → Begins c (f l)) :
    BeginsFirst c (lines.map f) := by
  obtain ⟨l, hl, hbegins⟩ := h
  cases lines with
  | nil => cases hl
  | cons first lines =>
    cases hl
    exact beginsFirst_cons (hf _ hbegins)

theorem isInk_iff : isInk c = true ↔ 0x20 < c.toNat ∧ c.toNat < 0x7f := by
  simp [isInk]

theorem isBlank_of_isInk (h : isInk c = true) : Text.isBlank c = false := by
  obtain ⟨hmin, hmax⟩ := isInk_iff.1 h
  simp [Text.isBlank]
  omega

theorem charWidth_of_isInk (h : isInk c = true) : charWidth c = 1 := by
  obtain ⟨hmin, hmax⟩ := isInk_iff.1 h
  rw [charWidth, if_pos (by simp; omega)]

theorem ne_of_isInk (h : isInk c = true) {d : Char} (hd : isInk d = false) : c ≠ d := by
  rintro rfl
  rw [h] at hd
  cases hd

/-! ## Lines -/

/-- The piece before a delimiter begins as the text does. -/
theorem begins_pieces {d : Char} (hd : c ≠ d) (h : Begins c s) : BeginsFirst c (Text.pieces d s) := by
  obtain ⟨t, rfl⟩ := begins_iff.1 h
  obtain ⟨p, ps, hp⟩ := List.exists_cons_of_ne_nil (Text.pieces_ne_nil d t)
  rw [Text.pieces_cons_of_ne hd hp]
  exact beginsFirst_cons rfl

theorem begins_expandTabs (hc : isInk c = true) (h : Begins c s) : Begins c (expandTabs s) := by
  obtain ⟨part, hpart, hbegins⟩ := begins_pieces (ne_of_isInk hc (d := '\t') (by decide)) h
  obtain ⟨rest, hrest⟩ := List.head?_eq_some_iff.1 hpart
  rw [expandTabs, hrest]
  cases rest with
  | nil => exact hbegins
  | cons next rest => exact (hbegins.append _).append _

theorem beginsFirst_splitBy (r : Char → Char → Bool) (h : Begins c s) : BeginsFirst c (s.splitBy r) := by
  have hflatten := List.flatten_splitBy r s
  have hnil := List.nil_notMem_splitBy r s
  cases hgroups : s.splitBy r with
  | nil => exact absurd (List.splitBy_eq_nil.1 hgroups) h.ne_nil
  | cons group groups =>
    rw [hgroups] at hflatten hnil
    cases group with
    | nil => exact absurd List.mem_cons_self hnil
    | cons d group =>
      rw [← hflatten] at h
      exact beginsFirst_cons h

theorem begins_wordsWithBlanks (h : Begins c s) : BeginsFirst c (wordsWithBlanks s) := by
  have hfirst := beginsFirst_splitBy (fun a b => !Text.isBlank a || Text.isBlank b) h
  unfold wordsWithBlanks
  split
  · rename_i blanks word rest hgroups
    rw [hgroups] at hfirst
    obtain ⟨_, ⟨⟩, hbegins⟩ := hfirst
    split
    · exact beginsFirst_cons (hbegins.append word)
    · exact beginsFirst_cons hbegins
  · exact hfirst

theorem begins_foldWord {used : Nat} {piece : List Char} (h : Begins c piece) (gs : List Cluster) :
    BeginsFirst c (foldWord cells used piece gs) := by
  induction gs generalizing used piece with
  | nil => exact beginsFirst_cons h
  | cons g gs ih =>
    rw [foldWord]
    split
    · exact beginsFirst_cons h
    · exact ih (h.append g.chars)

/-- The cluster begun keeps its characters, and the emoji selector widens it at most once. -/
theorem exists_clustersAfter (last : Option Char) (begun : Cluster) (s : List Char) :
    ∃ more cells gs, clustersAfter last begun s = ⟨begun.chars ++ more, cells⟩ :: gs ∧
      cells ≤ begun.cells + if last.isSome then 1 else 0 := by
  fun_induction clustersAfter last begun s with
  | case1 last begun => exact ⟨[], begun.cells, [], by simp, by simp⟩
  | case2 last begun => exact ⟨[joiner], begun.cells, [], rfl, by simp⟩
  | case3 last begun d rest ih =>
    obtain ⟨more, cells, gs, heq, hcells⟩ := ih
    exact ⟨joiner :: d :: more, cells, gs, by simp [heq], hcells⟩
  | case4 last begun rest widened hjoiner ih =>
    obtain ⟨more, cells, gs, heq, hcells⟩ := ih
    refine ⟨emojiSelector :: more, cells, gs, by simp [heq], hcells.trans ?_⟩
    cases last with
    | none => simp [widened]
    | some b =>
      simp only [Option.isSome_none, Option.isSome_some]
      split <;> simp
  | case5 last begun d rest hjoiner hselector width hzero ih =>
    obtain ⟨more, cells, gs, heq, hcells⟩ := ih
    exact ⟨d :: more, cells, gs, by simp [heq], hcells⟩
  | case6 last begun d rest hjoiner hselector width hzero ih =>
    exact ⟨[], begun.cells, _, by rw [List.append_nil], by simp⟩

theorem exists_clusters (hc : isInk c = true) (h : Begins c s) :
    ∃ g gs, clusters s = g :: gs ∧ Begins c g.chars ∧ g.cells ≤ 2 := by
  obtain ⟨t, rfl⟩ := begins_iff.1 h
  rw [clusters, charWidth_of_isInk hc, if_neg (by decide)]
  obtain ⟨more, cells, gs, heq, hcells⟩ := exists_clustersAfter (some c) ⟨[c], 1⟩ t
  exact ⟨_, gs, heq, rfl, hcells⟩

theorem begins_fillLines {overflow : Overflow} {line : List Char} (h : Begins c line) (used : Nat)
    (ws : List (List Char)) : BeginsFirst c (fillLines cells overflow line used ws) := by
  -- the line begun is the invariant: words are put behind it, or it is closed as the first line
  induction ws generalizing line used with
  | nil => exact beginsFirst_cons h
  | cons w ws ih =>
    have hclosed : line.isEmpty = false := by simpa using h.ne_nil
    rw [fillLines]
    split
    · exact ih (h.append w) _
    · simp only [hclosed]
      split
      · exact beginsFirst_cons h
      · exact beginsFirst_cons h

/-- The first word of a text begins its first line, also where it is folded. -/
theorem begins_fillLines_nil (hc : isInk c = true) (hcells : 2 ≤ cells) (overflow : Overflow) {ws : List (List Char)}
    (h : BeginsFirst c ws) : BeginsFirst c (fillLines cells overflow [] 0 ws) := by
  obtain ⟨w, hw, hbegins⟩ := h
  obtain ⟨rest, rfl⟩ := List.head?_eq_some_iff.1 hw
  rw [fillLines]
  split
  · exact begins_fillLines hbegins _ rest
  · dsimp only
    split
    · exact begins_fillLines hbegins _ rest
    · -- the word is folded; its first piece is not empty, since its first cluster fits
      obtain ⟨g, gs, hclusters, hg, hwide⟩ := exists_clusters hc hbegins
      have hpieces : BeginsFirst c (foldWord cells 0 [] (clusters w)) := by
        rw [hclusters, foldWord, if_neg (by omega)]
        exact begins_foldWord hg gs
      obtain ⟨piece, hpiece, hbegins⟩ := hpieces
      obtain ⟨pieces, heq⟩ := List.head?_eq_some_iff.1 hpiece
      rw [heq]
      cases pieces with
      | nil => exact begins_fillLines hbegins _ rest
      | cons next pieces => exact beginsFirst_cons hbegins

theorem begins_trimPast (hc : isInk c = true) (length : Nat) (h : Begins c s) : Begins c (trimPast length s) := by
  obtain ⟨t, rfl⟩ := begins_iff.1 h
  have hend : 0 < (trimEnd (c :: t)).length := by
    refine List.length_pos_iff.2 fun hnil => ?_
    rw [trimEnd, List.reverse_eq_nil_iff, List.dropWhile_eq_nil_iff] at hnil
    have := hnil c (by simp)
    rw [isBlank_of_isInk hc] at this
    cases this
  obtain ⟨n, hn⟩ : ∃ n, (c :: t).length - min ((c :: t).length - (trimEnd (c :: t)).length)
      ((c :: t).length - length) = n + 1 := by
    refine ⟨_, (Nat.succ_pred_eq_of_pos ?_).symm⟩
    rw [List.length_cons]
    omega
  rw [trimPast]
  simp only [hn]
  rfl

theorem begins_clip (hc : isInk c = true) (hcells : 2 ≤ cells) (h : Begins c s) : Begins c (clip cells s) := by
  unfold clip fit
  split
  · exact h
  · rw [if_neg (by omega)]
    obtain ⟨g, gs, hclusters, hg, hwide⟩ := exists_clusters hc h
    rw [hclusters, takeCells, if_pos (by omega)]
    exact hg.append _

theorem begins_wrap (hc : isInk c = true) (hcells : 2 ≤ cells) (overflow : Overflow) (h : Begins c s) :
    BeginsFirst c (wrap cells overflow s) := by
  obtain ⟨line, hline, hbegins⟩ := begins_pieces (ne_of_isInk hc (d := '\n') (by decide)) h
  obtain ⟨rest, hrest⟩ := List.head?_eq_some_iff.1 hline
  have hfirst := begins_fillLines_nil hc hcells overflow (begins_wordsWithBlanks (begins_expandTabs hc hbegins))
  rw [wrap, hrest, List.flatMap_cons]
  exact (hfirst.map fun l => begins_trimPast hc cells).append _

/-! ## Markup -/

theorem isInk_of_isAlpha (h : c.isAlpha = true) : isInk c = true := by
  delta Char.isAlpha Char.isUpper Char.isLower at h
  simp only [Bool.or_eq_true, Bool.and_eq_true, decide_eq_true_eq, ge_iff_le, UInt32.le_iff_toNat_le] at h
  change (65 ≤ c.toNat ∧ c.toNat ≤ 90) ∨ (97 ≤ c.toNat ∧ c.toNat ≤ 122) at h
  rw [isInk_iff]
  omega

theorem isPlain_of_isAlpha (h : c.isAlpha = true) : isPlain c = true := by
  rw [isPlain_iff]
  constructor <;> rintro rfl <;> cases h

/-- A letter stands for itself, before whatever follows it. -/
theorem shown_cons (h : c.isAlpha = true) (s : List Char) : shown (c :: s) = c :: shown s := by
  have hslash : unslash (c :: s) = c :: unslash s := by
    rw [unslash]
    rintro _ rfl
    cases h
  have hcolon : c ≠ ':' := by
    rintro rfl
    cases h
  have hkept : isDropped c = false := by
    obtain ⟨hmin, -⟩ := isInk_iff.1 (isInk_of_isAlpha h)
    simp [isDropped]
    omega
  rw [shown, hslash, withEmoji, if_neg hcolon, List.filter_cons, hkept]
  rfl

/-- What is printed begins with the character that the markup shows first. -/
theorem begins_print (hc : isInk c = true) {markup text : String} {shown : List Char}
    (hshow : showMarkup markup.toList = .ok shown) (h : Begins c shown) (hprint : print markup = .ok text) :
    Begins c text.toList := by
  have hcells : 2 ≤ lineWidth := by decide
  have hlines := (begins_wrap hc hcells .fold h).map fun l => begins_clip hc hcells
  rw [print, hshow] at hprint
  cases hprint
  obtain ⟨line, hline, hbegins⟩ := hlines
  obtain ⟨rest, hrest⟩ := List.head?_eq_some_iff.1 hline
  dsimp only
  rw [joinLines, String.toList_ofList, hrest, List.flatMap_cons]
  exact (hbegins.append _).append _

/-- A letter after the tag of a word is shown first. -/
theorem begins_showMarkup {word : String} (hword : IsTagWord word) (h : c.isAlpha = true) {text : List Char}
    (hshow : showMarkup ('[' :: (word.toList ++ ']' :: c :: s)) = .ok text) : Begins c text := by
  obtain ⟨p, parts, hparts⟩ : ∃ p parts, chunks (c :: s) = .plain (c :: p) :: parts := by
    have hplain := @chunks_append s [c] (by simp [isPlain_of_isAlpha h]) (by simp)
    rw [List.singleton_append] at hplain
    rw [hplain]
    cases chunks s with
    | nil => exact ⟨_, _, rfl⟩
    | cons chunk chunks => cases chunk <;> exact ⟨_, _, rfl⟩
  have hchunks : chunks ('[' :: (word.toList ++ ']' :: c :: s)) = .tag 0 word.toList :: .plain (c :: p) :: parts := by
    rw [← hparts]
    exact chunks_tag (n := 0) hword.tag?_open
  rw [showMarkup, hchunks, bind_eq_ok_iff] at hshow
  obtain ⟨m, hm, hshow⟩ := hshow
  obtain ⟨rest, hrest⟩ : ∃ rest, m.text = shown (c :: p) ++ rest := by
    simp [showChunks, hword.afterTag_open, bind_eq_ok_iff] at hm
    obtain ⟨a, -, rfl⟩ := hm
    exact ⟨a.text, rfl⟩
  obtain ⟨_, -, htext⟩ := bind_eq_ok_iff.1 hshow
  cases htext
  rw [hrest, shown_cons h]
  rfl

/-- A message in the tag of a word is printed from its first letter on. -/
theorem begins_print_tagged {word : String} (hword : IsTagWord word) (h : c.isAlpha = true) {markup text : String}
    (hmarkup : markup.toList = '[' :: (word.toList ++ ']' :: c :: s)) (hprint : print markup = .ok text) :
    Begins c text.toList := by
  obtain ⟨shown, hshow, -⟩ := map_eq_ok_iff.1 hprint
  exact begins_print (isInk_of_isAlpha h) hshow (begins_showMarkup hword h (hmarkup ▸ hshow)) hprint

end JmsNaming.Terminal
