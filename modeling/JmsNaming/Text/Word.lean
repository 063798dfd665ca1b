import JmsNaming.Text.Character
import JmsNaming.Text.WordTable

/-
Words and names: the characters of words of any script, and those that begin or go on a name.
-/
namespace JmsNaming.Text

/-- The character stands in words. -/
def isWordChar (c : Char) : Bool :=
  c.isAlphanum || c = '_' || inRanges letterRanges c.toNat || inRanges numberRanges c.toNat

/-- The character begins names. -/
def isNameStart (c : Char) : Bool :=
  c.isAlpha || c = '_' || inRanges letterRanges c.toNat || inRanges nameSignRanges c.toNat

/-- The character goes on a name. -/
def isNameTail (c : Char) : Bool :=
  isNameStart c || c.isDigit || inRanges nameTailRanges c.toNat

/-- The first character of a text that cannot stand where it stands in a name. -/
def strangeInName? : List Char → Option Char
  | [] => none
  | c :: cs => if isNameStart c then cs.find? fun d => !isNameTail d else some c

end JmsNaming.Text
