import JmsNaming.Proofs.Outcome
import JmsNaming.Terminal.Table
import Mathlib.Data.List.TakeWhile

/-
Markup that is always sound: escaped text, whatever it is, among plain characters and the tags of messages. No tag of
the text gets into force, and no tag comes about where the text meets what follows it.
-/
namespace JmsNaming.Terminal

variable {s t rest body : List Char} {d : Char} {n : Nat} {opened : List OpenTag}

/-! ## Tags -/

/-- The characters that begin and end tags. -/
def IsBracket (c : Char) : Prop :=
  c = '[' ∨ c = ']'

/-- The text closes a tag: a closing bracket stands in it before any opening one. -/
def Closes (body rest s : List Char) : Prop :=
  s = body ++ ']' :: rest ∧ ∀ c ∈ body, ¬IsBracket c

theorem tag?_eq_some_iff : tag? s = some (body, rest) ↔ Closes body rest s ∧ body.head?.any beginsTag = true := by
  have hbracket : ∀ c : Char, (c != '[' && c != ']') = true ↔ ¬IsBracket c := by simp [IsBracket]
  have hsplit := List.takeWhile_append_dropWhile (p := fun c : Char => c != '[' && c != ']') (l := s)
  have hdrop : s.drop (s.takeWhile fun c => c != '[' && c != ']').length =
      s.dropWhile fun c => c != '[' && c != ']' :=
    (congrArg (List.drop _) hsplit.symm).trans List.drop_left
  unfold tag?
  simp only [hdrop]
  constructor
  · intro h
    split at h
    · rename_i tail htail
      split at h
      case isTrue hbegins =>
        simp only [Option.some.injEq, Prod.mk.injEq] at h
        obtain ⟨rfl, rfl⟩ := h
        refine ⟨⟨?_, fun c hc => (hbracket c).1 ?_⟩, hbegins⟩
        · rw [← htail, hsplit]
        · exact List.mem_takeWhile_imp (p := fun c : Char => c != '[' && c != ']') hc
      case isFalse => cases h
    · cases h
  · rintro ⟨⟨rfl, hplain⟩, hbegins⟩
    have hall : ∀ c ∈ body, (c != '[' && c != ']') = true := fun c hc => (hbracket c).2 (hplain c hc)
    rw [List.takeWhile_append_of_pos hall, List.dropWhile_append_of_pos hall]
    simp [hbegins]

/-! ## Parts of a text -/

theorem firstChunk_eq {c : Char} (h : c :: s = List.replicate n '\\' ++ d :: rest) (hd : d ≠ '\\') :
    firstChunk c s = match d :: rest with
      | '[' :: rest =>
        match tag? rest with
        | some (body, rest) => (.tag n body, rest)
        | none => (.plain (List.replicate n '\\' ++ ['[']), rest)
      | d :: rest => (.plain (List.replicate n '\\' ++ [d]), rest)
      | [] => (.plain (List.replicate n '\\'), []) := by
  have hrun : (c :: s).takeWhile (· = '\\') = List.replicate n '\\' := by
    rw [h, List.takeWhile_append_of_pos (by simp), List.takeWhile_cons_of_neg (by simpa using hd), List.append_nil]
  have hdrop : (c :: s).drop (List.replicate n '\\').length = d :: rest := by
    rw [h, List.drop_left]
  rw [firstChunk, hrun, hdrop, List.length_replicate]
  all_goals rfl

/-- A run of backslashes at the end is one part. -/
theorem chunks_slashes (n : Nat) : chunks (List.replicate (n + 1) '\\') = [.plain (List.replicate (n + 1) '\\')] := by
  have hrun : ('\\' :: List.replicate n '\\').takeWhile (· = '\\') = List.replicate (n + 1) '\\' := by
    rw [← List.replicate_succ]
    exact List.takeWhile_eq_self_iff.2 (by simp)
  have hdrop : ('\\' :: List.replicate n '\\').drop (List.replicate (n + 1) '\\').length = [] := by simp
  have hend : chunks [] = [] := by rw [chunks]
  rw [List.replicate_succ, chunks, firstChunk, hrun, hdrop]
  exact congrArg _ hend

/-- A character that begins no tag is a plain part, with the backslashes before it. -/
theorem chunks_plain (hd : d ≠ '\\') (h : d = '[' → tag? rest = none) : chunks (List.replicate n '\\' ++ d :: rest) =
    (Chunk.plain (List.replicate n '\\' ++ [d])).before (chunks rest) := by
  obtain ⟨c, tail, hcons⟩ : ∃ c tail, List.replicate n '\\' ++ d :: rest = c :: tail :=
    List.exists_cons_of_ne_nil (by simp)
  rw [hcons, chunks, firstChunk_eq hcons.symm hd]
  by_cases hb : d = '['
  · subst hb
    simp only [h rfl]
  · simp

theorem chunks_tag (h : tag? t = some (body, rest)) :
    chunks (List.replicate n '\\' ++ '[' :: t) = .tag n body :: chunks rest := by
  obtain ⟨c, tail, hcons⟩ : ∃ c tail, List.replicate n '\\' ++ '[' :: t = c :: tail :=
    List.exists_cons_of_ne_nil (by simp)
  rw [hcons, chunks, firstChunk_eq hcons.symm (by decide)]
  simp only [h]
  rfl

/-- Texts by their parts: backslashes at the end, a character that begins no tag, and a tag. -/
theorem text_induction {motive : List Char → Prop} (slashes : ∀ n, motive (List.replicate n '\\'))
    (plain : ∀ n d rest, d ≠ '\\' → (d = '[' → tag? rest = none) → motive rest →
      motive (List.replicate n '\\' ++ d :: rest))
    (tag : ∀ n t body rest, tag? t = some (body, rest) → motive rest → motive (List.replicate n '\\' ++ '[' :: t))
    (s : List Char) : motive s := by
  induction hlen : s.length using Nat.strong_induction_on generalizing s with
  | _ length ih =>
    have hrun : s.takeWhile (· = '\\') = List.replicate (s.takeWhile (· = '\\')).length '\\' :=
      List.eq_replicate_iff.2 ⟨rfl, fun c hc => by simpa using List.mem_takeWhile_imp hc⟩
    have hsplit := List.takeWhile_append_dropWhile (p := (· = '\\')) (l := s)
    cases hrest : s.dropWhile (· = '\\') with
    | nil =>
      rw [hrest, List.append_nil] at hsplit
      rw [← hsplit, hrun]
      exact slashes _
    | cons d rest =>
      have hd : d ≠ '\\' := by
        have := List.head_dropWhile_not (· = '\\') (l := s) (by simp [hrest])
        simpa [hrest] using this
      rw [hrest, hrun] at hsplit
      have hshort : rest.length < length := by
        rw [← hlen, ← hsplit, List.length_append, List.length_cons]
        omega
      rw [← hsplit]
      by_cases hb : d = '[' ∧ tag? rest ≠ none
      · obtain ⟨rfl, hsome⟩ := hb
        obtain ⟨⟨body, more⟩, htag⟩ := Option.ne_none_iff_exists'.1 hsome
        refine tag _ _ body more htag (ih more.length ?_ more rfl)
        exact Nat.lt_trans (length_of_tag? htag) hshort
      · rw [not_and, not_not] at hb
        exact plain _ d rest hd hb (ih rest.length hshort rest rfl)

/-! ## Escaped text -/

/-- The text with its tags taken out of force. -/
def escapedParts (s : List Char) : List Char :=
  (chunks s).flatMap Chunk.escaped

theorem flatMap_before (c : Chunk) (cs : List Chunk) :
    (c.before cs).flatMap Chunk.escaped = c.escaped ++ cs.flatMap Chunk.escaped := by
  unfold Chunk.before
  split
  · simp [Chunk.escaped]
  · rfl

theorem escapedParts_slashes (n : Nat) : escapedParts (List.replicate n '\\') = List.replicate n '\\' := by
  cases n with
  | zero => rw [escapedParts, List.replicate_zero, chunks]; rfl
  | succ n => simp [escapedParts, chunks_slashes, Chunk.escaped]

theorem escapedParts_plain (hd : d ≠ '\\') (h : d = '[' → tag? rest = none) :
    escapedParts (List.replicate n '\\' ++ d :: rest) = List.replicate n '\\' ++ d :: escapedParts rest := by
  rw [escapedParts, chunks_plain hd h, flatMap_before]
  simp [Chunk.escaped, escapedParts]

theorem escapedParts_tag (h : tag? t = some (body, rest)) : escapedParts (List.replicate n '\\' ++ '[' :: t) =
    List.replicate (2 * n + 1) '\\' ++ '[' :: (body ++ ']' :: escapedParts rest) := by
  rw [escapedParts, chunks_tag h]
  simp [Chunk.escaped, escapedParts]

/-- Escaped text is the text with its tags taken out of force, and maybe a backslash. -/
theorem exists_escape (s : List Char) : ∃ k, escape s = escapedParts s ++ List.replicate k '\\' := by
  unfold escape
  simp only
  split
  · exact ⟨0, by simp [escapedParts]⟩
  · exact ⟨1, rfl⟩
  · exact ⟨0, by simp [escapedParts]⟩

theorem closes_of_append {p u : List Char} (hp : ']' ∉ p) (h : Closes body rest (p ++ u)) :
    (∀ c ∈ p, ¬IsBracket c) ∧ ∃ more, body = p ++ more ∧ Closes more rest u := by
  obtain ⟨heq, hbody⟩ := h
  rcases List.append_eq_append_iff.1 heq with ⟨more, rfl, hu⟩ | ⟨more, hp', hu⟩
  · rw [List.forall_mem_append] at hbody
    exact ⟨hbody.1, more, rfl, hu, hbody.2⟩
  · cases more with
    | nil =>
      rw [List.append_nil] at hp'
      refine ⟨fun c hc => hbody c (hp' ▸ hc), [], by rw [hp', List.append_nil], ?_, by simp⟩
      rw [List.nil_append] at hu
      rw [List.nil_append, ← hu]
    | cons c more =>
      rw [List.cons_append, List.cons.injEq] at hu
      rw [hp', ← hu.1] at hp
      exact absurd (by simp) hp

/-- Where escaped text closes a tag, the text itself does, unless what follows it does. -/
theorem closes_of_escapedParts (ht : ∀ body rest, ¬Closes body rest t) (s : List Char) :
    ∀ {body rest}, Closes body rest (escapedParts s ++ t) → ∃ more, Closes body more s := by
  induction s using text_induction with
  | slashes n =>
    intro body rest h
    rw [escapedParts_slashes] at h
    obtain ⟨-, more, -, hmore⟩ := closes_of_append (by simp [List.mem_replicate]) h
    exact absurd hmore (ht _ _)
  | plain n d u hd hnone ih =>
    intro body rest h
    rw [escapedParts_plain hd hnone, List.append_assoc] at h
    obtain ⟨hn, more, rfl, hmore⟩ := closes_of_append (by simp [List.mem_replicate]) h
    by_cases hb : d = ']'
    · subst hb
      cases more with
      | nil => exact ⟨u, by simp, h.2⟩
      | cons c more =>
        rw [Closes, List.cons_append, List.cons_append, List.cons.injEq] at hmore
        exact absurd (.inr hmore.1.1.symm) (hmore.2 c List.mem_cons_self)
    · have hone : ']' ∉ [d] := by simpa using Ne.symm hb
      rw [List.cons_append, ← List.singleton_append] at hmore
      obtain ⟨-, last, rfl, hlast⟩ := closes_of_append hone hmore
      obtain ⟨tail, htail⟩ := ih hlast
      refine ⟨tail, ?_, h.2⟩
      rw [htail.1]
      simp
  | tag n u tagBody v htag ih =>
    intro body rest h
    have hbracket : ∀ c ∈ List.replicate (2 * n + 1) '\\' ++ ['['], ¬IsBracket c := by
      rw [escapedParts_tag htag, List.append_assoc, List.cons_append, ← List.singleton_append,
        ← List.append_assoc] at h
      exact (closes_of_append (by simp [List.mem_replicate]) h).1
    exact absurd (.inl rfl) (hbracket '[' (by simp))

/-- What is no tag in a text is none in the escaped text. -/
theorem tag?_escapedParts (ht : ∀ body rest, ¬Closes body rest t) (h : tag? s = none) :
    tag? (escapedParts s ++ t) = none := by
  rw [Option.eq_none_iff_forall_ne_some]
  rintro ⟨body, rest⟩ hsome
  obtain ⟨hcloses, hbegins⟩ := tag?_eq_some_iff.1 hsome
  obtain ⟨more, hmore⟩ := closes_of_escapedParts ht s hcloses
  rw [tag?_eq_some_iff.2 ⟨hmore, hbegins⟩] at h
  cases h

/-! ## Sound markup -/

/-- The parts can be shown from anywhere with these tags open, and each tag that sets a style sets one that can be
read. -/
def SoundParts (opened : List OpenTag) (parts : List Chunk) : Prop :=
  ∀ position, ∃ m, showChunks position opened parts = .ok m ∧ ∀ tag ∈ m.tags, tag.checkStyle = .ok ()

/-- The text can be shown as markup with these tags open. -/
def Sound (opened : List OpenTag) (s : List Char) : Prop :=
  SoundParts opened (chunks s)

theorem soundParts_nil (h : ∀ tag ∈ opened, tag.checkStyle = .ok ()) : SoundParts opened [] :=
  fun _ => ⟨_, rfl, h⟩

theorem showChunks_plain {p : List Char} {parts : List Chunk} {position : Nat} {m : Marked}
    (h : showChunks (position + p.length) opened parts = .ok m) :
    showChunks position opened (.plain p :: parts) = .ok { m with text := shown p ++ m.text } := by
  rw [showChunks, h]
  rfl

theorem SoundParts.plain {parts : List Chunk} (h : SoundParts opened parts) (p : List Char) :
    SoundParts opened ((Chunk.plain p).before parts) := by
  intro position
  obtain ⟨m, hm, htags⟩ := h (position + p.length)
  cases parts with
  | nil => exact ⟨_, showChunks_plain hm, htags⟩
  | cons part parts =>
    cases part with
    | plain q =>
      rw [showChunks, bind_eq_ok_iff] at hm
      obtain ⟨m', hm', hm⟩ := hm
      cases hm
      rw [Nat.add_assoc, ← List.length_append] at hm'
      exact ⟨_, showChunks_plain hm', htags⟩
    | tag n body => exact ⟨_, showChunks_plain hm, htags⟩

theorem sound_nil (h : ∀ tag ∈ opened, tag.checkStyle = .ok ()) : Sound opened [] := by
  rw [Sound, chunks]
  exact soundParts_nil h

theorem Sound.plain (h : Sound opened rest) (hd : d ≠ '\\') (hnone : d = '[' → tag? rest = none) :
    Sound opened (List.replicate n '\\' ++ d :: rest) := by
  rw [Sound, chunks_plain hd hnone]
  exact SoundParts.plain h _

/-- A tag that is out of force is shown as it is. -/
theorem Sound.escapedTag (h : Sound opened rest) (htag : tag? t = some (body, rest)) :
    Sound opened (List.replicate (2 * n + 1) '\\' ++ '[' :: t) := by
  rw [Sound, chunks_tag htag]
  intro position
  obtain ⟨m, hm, htags⟩ := h (position + (2 * n + 1) + body.length + 2)
  have hodd : (2 * n + 1) % 2 = 1 := by omega
  refine ⟨{ m with text := List.replicate ((2 * n + 1) / 2) '\\' ++ shown ('[' :: body ++ [']']) ++ m.text }, ?_, htags⟩
  rw [showChunks, if_pos hodd, hm]
  rfl

theorem Sound.slashes (h : ∀ tag ∈ opened, tag.checkStyle = .ok ()) (n : Nat) :
    Sound opened (List.replicate n '\\') := by
  cases n with
  | zero => exact sound_nil h
  | succ n =>
    rw [Sound, chunks_slashes]
    exact SoundParts.plain (soundParts_nil h) _

/-- The character neither begins a tag nor takes one out of force. -/
def isPlain (c : Char) : Bool :=
  c != '[' && c != '\\'

theorem isPlain_iff {c : Char} : isPlain c = true ↔ c ≠ '[' ∧ c ≠ '\\' := by
  simp [isPlain]

/-- Plain characters do no harm. -/
theorem Sound.append (h : Sound opened rest) {p : List Char} (hp : p.all isPlain = true) :
    Sound opened (p ++ rest) := by
  induction p with
  | nil => exact h
  | cons c p ih =>
    rw [List.all_cons, Bool.and_eq_true, isPlain_iff] at hp
    obtain ⟨⟨hbracket, hslash⟩, hp⟩ := hp
    exact Sound.plain (n := 0) (ih hp) hslash fun hb => absurd hb hbracket

/-- Whatever the text is, it can be escaped before sound markup that closes no tag, and that stays sound behind
backslashes. -/
theorem Sound.escaped (h : ∀ n, Sound opened (List.replicate n '\\' ++ t)) (ht : ∀ body rest, ¬Closes body rest t)
    (s : List Char) : Sound opened (escape s ++ t) := by
  obtain ⟨k, hk⟩ := exists_escape s
  have htail : ∀ body rest, ¬Closes body rest (List.replicate k '\\' ++ t) := by
    intro body rest hcloses
    obtain ⟨-, more, -, hmore⟩ := closes_of_append (by simp [List.mem_replicate]) hcloses
    exact ht _ _ hmore
  rw [hk, List.append_assoc]
  clear hk
  induction s using text_induction with
  | slashes n =>
    rw [escapedParts_slashes, ← List.append_assoc, List.replicate_append_replicate]
    exact h _
  | plain n d rest hd hnone ih =>
    rw [escapedParts_plain hd hnone, List.append_assoc, List.cons_append]
    exact ih.plain hd fun hb => tag?_escapedParts htail (hnone hb)
  | tag n u body rest htag ih =>
    rw [escapedParts_tag htag, List.append_assoc, List.cons_append, List.append_assoc, List.cons_append]
    refine ih.escapedTag (tag?_eq_some_iff.2 ⟨⟨rfl, ?_⟩, ?_⟩)
    · exact (tag?_eq_some_iff.1 htag).1.2
    · exact (tag?_eq_some_iff.1 htag).2

/-! ## Tags in force -/

/-- A tag that does not begin with a slash opens itself. -/
theorem afterTag_open {c : Char} {name : List Char} {parameters : Option (List Char)} {normal : String} {position : Nat}
    (h : tagParts body = (c :: name, parameters)) (hc : c ≠ '/') (hn : Style.normal (c :: name) = .ok normal) :
    afterTag opened body position = .ok (none, { name := normal, parameters } :: opened) := by
  have hslash : ∀ tail, c :: name ≠ '/' :: tail := fun tail heq => hc (List.cons.inj heq).1
  rw [afterTag.eq_def, h]
  split
  · rename_i heq
    exact absurd (Prod.mk.inj heq).1 (hslash _)
  · rename_i heq
    cases heq
    rw [hn]
    rfl

/-- A tag that begins with a slash closes the last one that was opened, if it has its name. -/
theorem afterTag_close {name : List Char} {parameters : Option (List Char)} {tag : OpenTag} {position : Nat}
    (h : tagParts body = ('/' :: name, parameters)) (hname : Text.trim name = name) (hne : name ≠ [])
    (hn : Style.normal name = .ok tag.name) : afterTag (tag :: opened) body position = .ok (some tag, opened) := by
  have hempty : ¬name.isEmpty = true := by simpa using hne
  rw [afterTag, h]
  simp only [hname, hn, if_neg hempty]
  simp [closeNamed?]

/-- A tag in force that calls no handler is sound before what is sound with the tags that it leaves open. -/
theorem Sound.tag {closed : Option OpenTag} {next : List OpenTag} (h : Sound next rest)
    (htag : tag? t = some (body, rest)) (hafter : ∀ position, afterTag opened body position = .ok (closed, next))
    (hhandler : closed.filter OpenTag.isHandler = none) (hclosed : ∀ tag ∈ closed, tag.checkStyle = .ok ()) (n : Nat) :
    Sound opened (List.replicate (2 * n) '\\' ++ '[' :: t) := by
  rw [Sound, chunks_tag htag]
  intro position
  obtain ⟨m, hm, htags⟩ := h (position + 2 * n + body.length + 2)
  have heven : ¬2 * n % 2 = 1 := by omega
  refine ⟨{ m with text := List.replicate (2 * n / 2) '\\' ++ m.text, tags := closed.toList ++ m.tags }, ?_, ?_⟩
  · rw [showChunks, if_neg heven, hafter]
    simp only [ok_bind, hm, hhandler]
    rfl
  · intro tag hmem
    rcases List.mem_append.1 hmem with hmem | hmem
    · exact hclosed tag (Option.mem_toList.1 hmem)
    · exact htags tag hmem

end JmsNaming.Terminal
