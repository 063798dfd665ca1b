import JmsNaming.Proofs.Terminal.Markup
import JmsNaming.Proofs.Text.Cut

/-
The messages of the program: words as tags around plain text and escaped text. Each of them can be printed, whatever the
text is that it tells.
-/
namespace JmsNaming.Terminal

variable {opened : List OpenTag} {rest s : List Char}

/-! ## Words as tags -/

/-- A word at the end of a definition that is no attribute is a colour, or there is no style. -/
theorem read?_singleton (style : Style) {word lower : String} {color : Bool}
    (hlower : String.ofList (Text.lower word.toList) = lower) (hattribute : Attribute.ofWord? lower = none)
    (hcolor : isColor lower.toList = .ok color) :
    Style.read? style [word] = .ok (if color then some { style with color := some lower } else none) := by
  rw [Style.read?.eq_def]
  dsimp only
  rw [hlower]
  split
  -- the words that take another word do not stand at the end
  iterate 3
    rename_i heq
    cases heq
  rw [hattribute]
  dsimp only
  rw [hcolor]
  cases color <;> rfl

/-- The tag of a word. -/
def wordTag (word : String) : OpenTag := { name := word, parameters := none }

/-- The word is a tag of small letters that is its own normal form and sets a style that can be read. -/
structure IsTagWord (word : String) : Prop where
  letters : word.toList.all (fun c => 'a' ≤ c && c ≤ 'z') = true
  ne_nil : word.toList ≠ []
  trim : Text.trim word.toList = word.toList
  normal : Style.normal word.toList = .ok word
  style : (wordTag word).checkStyle = .ok ()

namespace IsTagWord

variable {word : String} {c : Char}

theorem letter (hword : IsTagWord word) (hc : c ∈ word.toList) : 'a' ≤ c ∧ c ≤ 'z' := by
  simpa using List.all_eq_true.1 hword.letters c hc

theorem ne_of_lt (hword : IsTagWord word) (hc : c ∈ word.toList) {d : Char} (hd : d < 'a') : c ≠ d := by
  rintro rfl
  exact absurd (hword.letter hc).1 (Char.not_le.2 hd)

theorem not_isBracket (hword : IsTagWord word) (hc : c ∈ word.toList) : ¬IsBracket c := by
  rintro (rfl | rfl)
  · exact hword.ne_of_lt hc (by decide) rfl
  · exact hword.ne_of_lt hc (by decide) rfl

theorem tagParts_eq (hword : IsTagWord word) : tagParts word.toList = (word.toList, none) := by
  have hnone : '=' ∉ word.toList := fun h => hword.ne_of_lt h (by decide) rfl
  rw [tagParts, Text.cut?_eq_none hnone]

theorem tagParts_slash (hword : IsTagWord word) : tagParts ('/' :: word.toList) = ('/' :: word.toList, none) := by
  have hnone : '=' ∉ '/' :: word.toList :=
    List.not_mem_cons_of_ne_of_not_mem (by decide) fun h => hword.ne_of_lt h (by decide) rfl
  rw [tagParts, Text.cut?_eq_none hnone]

/-- A word that is no attribute is a colour, or its own normal form; it may be either. -/
theorem of_ofWord? (hletters : word.toList.all (fun c => 'a' ≤ c && c ≤ 'z') = true) (hne : word.toList ≠ [])
    (htrim : Text.trim word.toList = word.toList) (hlower : String.ofList (Text.lower word.toList) = word)
    (hwords : (words word.toList).map String.ofList = [word]) (hattribute : Attribute.ofWord? word = none)
    (hparts : colorParts? word.toList = none) : IsTagWord word := by
  have hcolor : isColor word.toList = .ok (isPlainColor word.toList) := by
    rw [isColor, hparts]
    cases isPlainColor word.toList <;> rfl
  have hstyle : Style.ofText? word.toList =
      .ok (if isPlainColor word.toList then some { color := some word } else none) := by
    rw [Style.ofText?, hwords, read?_singleton {} hlower hattribute hcolor]
  refine ⟨hletters, hne, htrim, ?_, ?_⟩
  · simp only [Style.normal, hstyle, ok_bind, htrim, hlower]
    cases isPlainColor word.toList with
    | true => rfl
    | false =>
      have hnone : word.toList = "none".toList → "none" = word := fun h => (String.toList_inj.1 h).symm
      simpa using hnone
  · have hdefinition : (wordTag word).definition = word.toList := List.append_nil _
    rw [OpenTag.checkStyle, hdefinition, hstyle]
    rfl

theorem error : IsTagWord "error" := by
  refine of_ofWord? ?_ ?_ ?_ ?_ ?_ ?_ ?_ <;> decide

theorem warning : IsTagWord "warning" := by
  refine of_ofWord? ?_ ?_ ?_ ?_ ?_ ?_ ?_ <;> decide

theorem dim : IsTagWord "dim" := by
  refine ⟨?_, ?_, ?_, ?_, ?_⟩ <;> decide

theorem tag?_open (hword : IsTagWord word) : tag? (word.toList ++ ']' :: rest) = some (word.toList, rest) := by
  obtain ⟨c, name, hcons⟩ := List.exists_cons_of_ne_nil hword.ne_nil
  have hc : 'a' ≤ c ∧ c ≤ 'z' := hword.letter (by simp [hcons])
  exact tag?_eq_some_iff.2 ⟨⟨rfl, fun _ => hword.not_isBracket⟩, by simp [hcons, beginsTag, hc]⟩

theorem tag?_close (hword : IsTagWord word) :
    tag? ('/' :: (word.toList ++ ']' :: rest)) = some ('/' :: word.toList, rest) := by
  refine tag?_eq_some_iff.2 ⟨⟨rfl, ?_⟩, by simp [beginsTag]⟩
  exact List.forall_mem_cons.2 ⟨by simp [IsBracket], fun _ => hword.not_isBracket⟩

theorem afterTag_open (hword : IsTagWord word) (position : Nat) :
    afterTag opened word.toList position = .ok (none, wordTag word :: opened) := by
  obtain ⟨c, name, hcons⟩ := List.exists_cons_of_ne_nil hword.ne_nil
  have hslash : c ≠ '/' := hword.ne_of_lt (by simp [hcons]) (by decide)
  exact Terminal.afterTag_open (hcons ▸ hword.tagParts_eq) hslash (hcons ▸ hword.normal)

theorem afterTag_close (hword : IsTagWord word) (position : Nat) :
    afterTag (wordTag word :: opened) ('/' :: word.toList) position = .ok (some (wordTag word), opened) :=
  Terminal.afterTag_close hword.tagParts_slash hword.trim hword.ne_nil hword.normal

/-- The tag calls no handler. -/
theorem filter_isHandler (hword : IsTagWord word) : (some (wordTag word)).filter OpenTag.isHandler = none := by
  obtain ⟨c, name, hcons⟩ := List.exists_cons_of_ne_nil hword.ne_nil
  have hat : c ≠ '@' := hword.ne_of_lt (by simp [hcons]) (by decide)
  simp [OpenTag.isHandler, wordTag, hcons, hat]

/-- The tag of the word opens itself. -/
theorem openTag (hword : IsTagWord word) (h : Sound (wordTag word :: opened) rest) :
    Sound opened ('[' :: (word.toList ++ ']' :: rest)) :=
  h.tag hword.tag?_open hword.afterTag_open rfl (by simp) 0

/-- The tag with a slash before the word closes it, behind a number of backslashes that is even. -/
theorem closeTag (hword : IsTagWord word) (h : Sound opened rest) (n : Nat) :
    Sound (wordTag word :: opened) (List.replicate (2 * n) '\\' ++ '[' :: '/' :: (word.toList ++ ']' :: rest)) :=
  h.tag hword.tag?_close hword.afterTag_close hword.filter_isHandler (by simpa using hword.style) n

end IsTagWord

/-! ## Messages -/

/-- Sound markup shows a text. -/
theorem exists_showMarkup_of_sound (h : Sound [] s) : ∃ text, showMarkup s = .ok text := by
  obtain ⟨m, hm, htags⟩ := h 0
  have hcheck : m.tags.forM OpenTag.checkStyle = .ok () := by
    generalize m.tags = tags at htags
    induction tags with
    | nil => rfl
    | cons tag tags ih =>
      obtain ⟨htag, htags⟩ := List.forall_mem_cons.1 htags
      rw [List.forM_eq_forM, List.forM_cons, htag]
      exact ih htags
  rw [showMarkup, hm, ok_bind, hcheck]
  exact ⟨_, rfl⟩

/-- Sound markup can be printed. -/
theorem print_of_sound {markup : String} (h : Sound [] markup.toList) : ∃ text, print markup = .ok text := by
  obtain ⟨text, htext⟩ := exists_showMarkup_of_sound h
  rw [print, htext]
  exact ⟨_, rfl⟩

/-- Escaped text is sound by itself. -/
theorem sound_escape (s : List Char) : Sound [] (escape s) := by
  have hslashes : ∀ n, Sound [] (List.replicate n '\\' ++ []) := fun n => by
    rw [List.append_nil]
    exact Sound.slashes (by simp) n
  rw [← List.append_nil (escape s)]
  exact Sound.escaped hslashes (by simp [Closes]) s

/-- A message that begins with a tagged word and tells an escaped text can be printed, whatever the text is. -/
theorem exists_print_tagged (word : String) (hword : word.toList.all isPlain = true) (text : String) :
    ∃ shown, print ("[error]" ++ word ++ ":[/error] " ++ String.ofList (escape text.toList)) = .ok shown := by
  have hclose := IsTagWord.error.closeTag ((sound_escape text.toList).append (p := [' ']) (by decide)) 0
  have hopen := IsTagWord.error.openTag ((hclose.append (p := [':']) (by decide)).append hword)
  refine print_of_sound ?_
  convert hopen using 1
  simp [String.toList_append]

/-- A message with an escaped text in the midst of plain ones can be printed, whatever the text is. -/
theorem exists_print_around (before after : String) (hbefore : before.toList.all isPlain = true)
    (hafter : after.toList.all isPlain = true) (hnot : ']' ∉ after.toList) (hne : after.toList ≠ []) (text : String) :
    ∃ shown, print ("[error]" ++ before ++ String.ofList (escape text.toList) ++ after ++ "[/error]") = .ok shown := by
  have hnil : Sound [] [] := sound_nil (by simp)
  have hend := IsTagWord.error.closeTag hnil 0
  -- a character that is neither stands between the backslashes and the closing tag
  have hslashes : ∀ n, Sound [wordTag "error"] (List.replicate n '\\' ++ (after.toList ++ "[/error]".toList)) := by
    intro n
    obtain ⟨c, tail, hcons⟩ := List.exists_cons_of_ne_nil hne
    rw [hcons, List.all_cons, Bool.and_eq_true, isPlain_iff] at hafter
    obtain ⟨⟨hbracket, hslash⟩, htail⟩ := hafter
    rw [hcons]
    exact (hend.append htail).plain hslash fun hb => absurd hb hbracket
  have hno : ∀ body rest, ¬Closes body rest (after.toList ++ "[/error]".toList) := by
    intro body rest hcloses
    obtain ⟨-, more, -, hmore⟩ := closes_of_append hnot hcloses
    have hbracket := (closes_of_append (p := ['[']) (by simp) hmore).1
    exact hbracket '[' (by simp) (.inl rfl)
  have hopen := IsTagWord.error.openTag ((Sound.escaped hslashes hno text.toList).append hbefore)
  refine print_of_sound ?_
  convert hopen using 1
  simp [String.toList_append]

/-- A message that ends with an escaped text can be printed, whatever the text is: a backslash at its end may take the
closing tag out of force, and then the tag is shown. -/
theorem exists_print_ended {word : String} (hword : IsTagWord word) (before : String)
    (hbefore : before.toList.all isPlain = true) (text : String) : ∃ shown, print
      ("[" ++ word ++ "]" ++ before ++ String.ofList (escape text.toList) ++ ("[/" ++ word ++ "]")) = .ok shown := by
  have hslashes : ∀ n, Sound [wordTag word] (List.replicate n '\\' ++ '[' :: '/' :: (word.toList ++ [']'])) := by
    intro n
    -- behind an even number of backslashes the closing tag is in force, behind an odd one it is shown
    obtain ⟨k, rfl | rfl⟩ : ∃ k, n = 2 * k ∨ n = 2 * k + 1 := ⟨n / 2, by omega⟩
    · exact hword.closeTag (sound_nil (by simp)) k
    · exact Sound.escapedTag (sound_nil (by simpa using hword.style)) hword.tag?_close
  have hno : ∀ body rest, ¬Closes body rest ('[' :: '/' :: (word.toList ++ [']'])) := by
    intro body rest hcloses
    exact (closes_of_append (p := ['[']) (by simp) hcloses).1 '[' (by simp) (.inl rfl)
  have hopen := hword.openTag ((Sound.escaped hslashes hno text.toList).append hbefore)
  refine print_of_sound ?_
  convert hopen using 1
  simp [String.toList_append]

/-- Plain characters are one part. -/
theorem chunks_append {p : List Char} (hp : p.all isPlain = true) (hne : p ≠ []) :
    chunks (p ++ rest) = (Chunk.plain p).before (chunks rest) := by
  induction p with
  | nil => exact absurd rfl hne
  | cons c p ih =>
    rw [List.all_cons, Bool.and_eq_true, isPlain_iff] at hp
    obtain ⟨⟨hbracket, hslash⟩, hp⟩ := hp
    have hchunk : chunks (c :: (p ++ rest)) = (Chunk.plain [c]).before (chunks (p ++ rest)) :=
      chunks_plain (n := 0) hslash fun hb => absurd hb hbracket
    rw [List.cons_append, hchunk]
    cases p with
    | nil => rfl
    | cons d p =>
      rw [ih hp (by simp)]
      cases chunks rest with
      | nil => rfl
      | cons chunk chunks => cases chunk <;> rfl

/-- Plain characters between the tags of a word are shown as they are, but for their emoji. -/
theorem showMarkup_tagged {word : String} (hword : IsTagWord word) {p : List Char} (hp : p.all isPlain = true)
    (hne : p ≠ []) : showMarkup ('[' :: (word.toList ++ ']' :: (p ++ '[' :: '/' :: (word.toList ++ [']'])))) =
      .ok (shown p) := by
  have hend : chunks [] = [] := by rw [chunks]
  have hclose : chunks ('[' :: '/' :: (word.toList ++ [']'])) = [.tag 0 ('/' :: word.toList)] := by
    rw [← hend]
    exact chunks_tag (n := 0) hword.tag?_close
  have hopen : chunks ('[' :: (word.toList ++ ']' :: (p ++ '[' :: '/' :: (word.toList ++ [']'])))) =
      [.tag 0 word.toList, .plain p, .tag 0 ('/' :: word.toList)] := by
    refine (chunks_tag (n := 0) hword.tag?_open).trans ?_
    rw [chunks_append hp hne, hclose]
    rfl
  have hstyles : [wordTag word].forM OpenTag.checkStyle = .ok () := by
    rw [List.forM_eq_forM, List.forM_cons, hword.style]
    rfl
  have hchunks : showChunks 0 [] [.tag 0 word.toList, .plain p, .tag 0 ('/' :: word.toList)] =
      .ok { text := shown p, tags := [wordTag word] } := by
    simp [showChunks, hword.afterTag_open, hword.afterTag_close, hword.filter_isHandler]
  rw [showMarkup, hopen, hchunks, ok_bind, hstyles]
  rfl

theorem print_noResources : print "[warning]No resources defined.[/warning]" = .ok "No resources defined.\n" := by
  have hshow := showMarkup_tagged IsTagWord.warning (p := "No resources defined.".toList) (by decide) (by decide)
  have htext : shown "No resources defined.".toList = "No resources defined.".toList := by decide +kernel
  rw [htext] at hshow
  have hmarkup : "[warning]No resources defined.[/warning]".toList = '[' :: ("warning".toList ++ ']' ::
      ("No resources defined.".toList ++ '[' :: '/' :: ("warning".toList ++ [']']))) := rfl
  rw [print, hmarkup, hshow]
  decide +kernel

end JmsNaming.Terminal
