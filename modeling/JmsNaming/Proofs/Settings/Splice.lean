import JmsNaming.Proofs.Settings.Leaves
import JmsNaming.Proofs.Text.Cut

/-
What is put in the place of a placeholder, with any text around it. A placeholder stands in a text where nothing in
front of it is left open; the text is then expanded in three parts, each on its own.
-/
namespace JmsNaming.Template

/-! ## Texts in front of a placeholder -/

/-- No placeholder is left open: a closing brace follows every opening brace behind a dollar sign. -/
def Closed (text : List Char) : Prop :=
  ∀ before after, text = before ++ '$' :: '\x7b' :: after → closing ∈ after

variable {text front back inner rest : List Char} {ps qs : List Piece}

theorem closed_of_no_opening (h : ¬['$', '\x7b'] <:+: text) : Closed text := by
  rintro before after rfl
  exact absurd ⟨before, after, by simp⟩ h

theorem Closed.of_append (front : List Char) (h : Closed (front ++ rest)) : Closed rest := fun before after heq =>
  h (front ++ before) after (by rw [heq, List.append_assoc])

/-- What stands before a closing brace leaves nothing open. -/
theorem Closed.append_closing (h : Closed rest) (front : List Char) : Closed (front ++ closing :: rest) := by
  intro before after heq
  -- the opening brace stands behind the closing one, or in front of it
  rcases List.append_eq_append_iff.1 heq with ⟨more, rfl, hmore⟩ | ⟨more, rfl, hmore⟩
  · rcases more with _ | ⟨c, more⟩
    · cases hmore
    · obtain ⟨-, rfl⟩ := List.cons.inj hmore
      exact h more after rfl
  · rcases more with _ | ⟨c, _ | ⟨d, more⟩⟩
    · cases hmore
    · cases hmore
    · simp only [List.cons_append, List.cons.injEq] at hmore
      rw [hmore.2.2]
      exact List.mem_append_right _ List.mem_cons_self

theorem Closed.of_leads (h : Closed text) (hl : Leads inner rest text) : Closed rest := by
  obtain ⟨rfl, -⟩ := hl
  exact .of_append ('$' :: '\x7b' :: inner ++ [closing]) (by simpa using h)

theorem Leads.append (h : Leads inner rest text) (back : List Char) : Leads inner (rest ++ back) (text ++ back) :=
  ⟨by rw [h.eq]; simp, h.ne_nil, h.not_mem⟩

/-- A closed text that begins with a placeholder when more text follows begins with it alone. -/
theorem Leads.of_append {c : Char} (h : Closed (c :: text)) (hback : back.head? ≠ some '\x7b')
    (hl : Leads inner rest (c :: text ++ back)) : ∃ rest', Leads inner rest' (c :: text) := by
  obtain ⟨heq, hne, hnot⟩ := hl
  simp only [List.cons_append, List.cons.injEq] at heq
  obtain ⟨rfl, heq⟩ := heq
  cases text with
  | nil =>
    rw [List.nil_append] at heq
    exact absurd (by rw [heq]; rfl) hback
  | cons d text =>
    simp only [List.cons_append, List.cons.injEq] at heq
    obtain ⟨rfl, heq⟩ := heq
    have hclosing : closing ∈ text := h [] text rfl
    -- the name ends at the first closing brace, and that stands in the closed text
    rcases List.append_eq_append_iff.1 heq with ⟨more, rfl, -⟩ | ⟨more, rfl, hmore⟩
    · exact absurd (List.mem_append_left _ hclosing) hnot
    · cases more with
      | nil => exact absurd (by simpa using hclosing) hnot
      | cons e more =>
        obtain ⟨rfl, -⟩ := List.cons.inj hmore
        exact ⟨more, by simp, hne, hnot⟩

/-- The pieces of a closed text stay as they are when more text follows. -/
theorem Scan.append (hs : Scan text ps) (h : Closed text) (hs' : Scan back qs) (hback : back.head? ≠ some '\x7b') :
    Scan (text ++ back) (ps ++ qs) := by
  induction hs with
  | nil => exact hs'
  | placeholder hl _ ih =>
    exact .placeholder (hl.append back) (ih (h.of_leads hl))
  | @char c text ps hno _ ih =>
    refine .char (fun inner rest hl => ?_) (ih (h.of_append [c]))
    obtain ⟨rest', hl'⟩ := Leads.of_append h hback hl
    exact hno inner rest' hl'

/-- A text whose pieces stay as they are when a placeholder follows is closed. -/
theorem closed_of_scan (hnot : closing ∉ inner) (hs : Scan text ps)
    (h : Scan (text ++ '$' :: '\x7b' :: inner ++ closing :: back) (ps ++ qs)) : Closed text := by
  rw [List.append_assoc] at h
  -- both scans find the same first piece, and so does the rest of the text in the rest of the whole
  induction hs with
  | nil => exact closed_of_no_opening (by simp)
  | @placeholder inner' rest text ps hl _ ih =>
    generalize hwhole : text ++ ('$' :: '\x7b' :: inner ++ closing :: back) = whole at h
    cases h with
    | placeholder hl' hs' =>
      obtain ⟨-, rfl⟩ := leads_inj hl' (hwhole ▸ hl.append _)
      rw [hl.eq]
      exact (ih hs').append_closing _
  | @char c text ps _ _ ih =>
    cases h with
    | char hno hs' =>
      rintro (_ | ⟨d, before⟩) after heq
      · obtain ⟨rfl, rfl⟩ := List.cons.inj heq
        by_contra hclosing
        -- what is left open would end at the brace that closes the placeholder, and take it in
        refine hno (after ++ '$' :: '\x7b' :: inner) back ⟨by simp, by simp, ?_⟩
        simp only [List.mem_append, List.mem_cons, not_or]
        exact ⟨hclosing, by decide, by decide, hnot⟩
      · obtain ⟨rfl, rfl⟩ := List.cons.inj heq
        exact ih hs' before after rfl

/-- A placeholder with text around it is a placeholder of the whole exactly if the text in front is closed. -/
theorem scan_around_iff (hne : inner ≠ []) (hnot : closing ∉ inner) :
    Scan (front ++ '$' :: '\x7b' :: inner ++ closing :: back) (pieces front ++ .placeholder inner :: pieces back) ↔
      Closed front := by
  refine ⟨closed_of_scan hnot (scan_pieces front), fun h => ?_⟩
  have hplaceholder : Scan ('$' :: '\x7b' :: inner ++ closing :: back) (.placeholder inner :: pieces back) :=
    .placeholder ⟨rfl, hne, hnot⟩ (scan_pieces back)
  rw [List.append_assoc]
  exact (scan_pieces front).append h hplaceholder (by simp)

/-! ## Expansion around a placeholder -/

section Expansion

variable (root : Value) (vars : Variables)

theorem fill_append (replace : List Char → Except Fault String) (ps qs : List Piece) :
    fill replace (ps ++ qs) = do
      let before ← fill replace ps
      let after ← fill replace qs
      return before ++ after := by
  induction ps with
  | nil => cases h : fill replace qs <;> simp [fill, h]
  | cons p ps ih =>
    cases p with
    | char c =>
      rw [List.cons_append, fill, fill, ih]
      cases fill replace ps <;> cases fill replace qs <;> rfl
    | placeholder inner =>
      rw [List.cons_append, fill, fill, ih]
      cases replace inner <;> cases fill replace ps <;> cases fill replace qs <;> simp [Except.map]

/-- Wherever the placeholder stands, and however deep in a chain of references, the outcome is put in its place: the
text in front and the text behind are expanded on their own, and of several faults the first counts. -/
def Gives (inner : String) (outcome : (depth : Nat) → Except Fault String) : Prop :=
  ∀ (depth : Nat) (front back : String), Closed front.toList →
    expandTo root vars (depth + 1) (front ++ "$\x7b" ++ inner ++ "\x7d" ++ back) = do
      let before ← expandTo root vars (depth + 1) front
      let value ← outcome depth
      let after ← expandTo root vars (depth + 1) back
      return before ++ value ++ after

theorem gives_replace {inner : String} (hne : inner ≠ "") (hnot : closing ∉ inner.toList) :
    Gives root vars inner fun depth => replace root vars (expandTo root vars depth) inner.toList := by
  intro depth front back hfront
  have htext : (front ++ "$\x7b" ++ inner ++ "\x7d" ++ back).toList =
      front.toList ++ '$' :: '\x7b' :: inner.toList ++ closing :: back.toList := by
    simp [closing]
  have hpieces : pieces (front ++ "$\x7b" ++ inner ++ "\x7d" ++ back).toList =
      pieces front.toList ++ .placeholder inner.toList :: pieces back.toList := by
    rw [htext]
    exact (scan_iff.1 ((scan_around_iff (by simpa using hne) hnot).2 hfront)).symm
  dsimp only
  rw [expandTo, expandTo, expandTo, hpieces, fill_append, fill]
  generalize replace root vars (expandTo root vars depth) = put
  cases fill put (pieces front.toList) <;> cases put inner.toList <;> cases fill put (pieces back.toList) <;>
    simp [Except.map, String.append_assoc]

end Expansion

end JmsNaming.Template
