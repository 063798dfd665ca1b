import JmsNaming.Terminal.EmojiTable
import JmsNaming.Terminal.Width
import JmsNaming.Text.Case
import JmsNaming.Text.Cut

/-
Emoji by name: `:name:` stands for an emoji, and `:name-emoji:` and `:name-text:` for one of its two
forms. What stands between colons and is no name stays as it is.
-/
namespace JmsNaming.Terminal

/-- The words of a text, with blanks between them. -/
def words (s : List Char) : List (List Char) :=
  (s.splitBy fun a b => !Text.isBlank a && !Text.isBlank b).filter fun w => w.any fun c => !Text.isBlank c

/-- The word after `name` where words stand in pairs. -/
def pairedWith? (name : List Char) : List (List Char) → Option (List Char)
  | a :: b :: rest => if a = name then some b else pairedWith? name rest
  | _ => none

/-- The names and emoji of the table in turn. -/
def emojiWords : List (List Char) :=
  words emojiText.toList

/-- The emoji of a name. -/
def emojiNamed? (name : List Char) : Option (List Char) :=
  pairedWith? (Text.lower name) emojiWords

/-- The text without an ending, if it has it. -/
def dropEnd? (ending s : List Char) : Option (List Char) :=
  if ending.isSuffixOf s then some (s.take (s.length - ending.length)) else none

/-- The emoji that the text between two colons stands for. -/
def emojiFor? (code : List Char) : Option (List Char) :=
  match dropEnd? "-emoji".toList code, dropEnd? "-text".toList code with
  | some name, _ => (emojiNamed? name).map (· ++ [emojiSelector])
  | none, some name => (emojiNamed? name).map (· ++ [textSelector])
  | none, none => emojiNamed? code

/-- The text between the colon before `s` and the next colon, and the rest; no blank stands between
the two. -/
def colonCode? (s : List Char) : Option (List Char × List Char) :=
  match Text.cut? ':' s with
  | some (code, rest) => if code.any Text.isBlank then none else some (code, rest)
  | none => none

theorem length_of_cut? {c : Char} {s p q : List Char} (h : Text.cut? c s = some (p, q)) :
    q.length < s.length := by
  induction s generalizing p with
  | nil => simp [Text.cut?] at h
  | cons x xs ih =>
    simp only [Text.cut?] at h
    split at h
    · simp only [Option.some.injEq, Prod.mk.injEq] at h
      simp [h.2]
    · obtain ⟨r, hr, he⟩ := Option.map_eq_some_iff.1 h
      simp only [Prod.mk.injEq] at he
      have := ih (p := r.1) (by rw [hr, ← he.2])
      simp only [List.length_cons]
      omega

theorem length_of_colonCode? {s p q : List Char} (h : colonCode? s = some (p, q)) : q.length < s.length := by
  unfold colonCode? at h
  split at h
  · rename_i hc
    split at h
    · simp at h
    · simp only [Option.some.injEq, Prod.mk.injEq] at h
      rw [← h.2]
      exact length_of_cut? hc
  · simp at h

/-- The text with its emoji codes replaced. -/
def withEmoji : List Char → List Char
  | [] => []
  | c :: cs =>
    if c = ':' then
      match _h : colonCode? cs with
      | some (code, rest) => (emojiFor? code).getD (':' :: code ++ [':']) ++ withEmoji rest
      | none => c :: withEmoji cs
    else c :: withEmoji cs
termination_by s => s.length
decreasing_by
  · have := length_of_colonCode? _h
    simp only [List.length_cons]
    omega
  · simp
  · simp

end JmsNaming.Terminal
