import JmsNaming.Number.Reading
import JmsNaming.Terminal.ColorTable
import JmsNaming.Terminal.Emoji

/-
Style definitions: words for attributes and colours. A definition has one normal form, by which an
opening and a closing tag are known to belong together.
-/
namespace JmsNaming.Terminal

/-- The attributes of text, in the order of normal forms. -/
inductive Attribute where
  | bold
  | dim
  | italic
  | underline
  | blink
  | rapidBlink
  | reverse
  | conceal
  | strike
  | doubleUnderline
  | frame
  | encircle
  | overline
  deriving DecidableEq

namespace Attribute

def all : List Attribute :=
  [bold, dim, italic, underline, blink, rapidBlink, reverse, conceal, strike, doubleUnderline, frame, encircle,
    overline]

def text : Attribute → String
  | bold => "bold"
  | dim => "dim"
  | italic => "italic"
  | underline => "underline"
  | blink => "blink"
  | rapidBlink => "blink2"
  | reverse => "reverse"
  | conceal => "conceal"
  | strike => "strike"
  | doubleUnderline => "underline2"
  | frame => "frame"
  | encircle => "encircle"
  | overline => "overline"

/-- The short words for attributes. -/
def shortWords : List (String × Attribute) :=
  [("d", dim), ("b", bold), ("i", italic), ("u", underline), ("r", reverse), ("c", conceal), ("s", strike),
    ("uu", doubleUnderline), ("o", overline)]

/-- The attribute of a word. -/
def ofWord? (word : String) : Option Attribute :=
  match all.find? (·.text == word) with
  | some a => some a
  | none => shortWords.lookup word

end Attribute

/-! ## Colours -/

/-- The text between a lead and an ending. -/
def between? (lead ending s : List Char) : Option (List Char) :=
  if lead.isPrefixOf s then dropEnd? ending (s.drop lead.length) else none

/-- The word is one of the decimal numbers up to 255. -/
def isByte (s : List Char) : Bool :=
  !s.isEmpty && s.all Char.isDigit && Text.natOfDigits 0 s ≤ 255

/-- The colours of the table. -/
def colorWords : List (List Char) :=
  words colorNames.toList

/-- The word names a colour without parts: by a name, by six hexadecimal digits, or by a number. -/
def isPlainColor (word : List Char) : Bool :=
  word = "default".toList || colorWords.contains word ||
    (match word with
      | '#' :: digits => digits.length = 6 && digits.all fun c => c.isDigit || ('a' ≤ c && c ≤ 'f')
      | _ => false) ||
    (match between? "color(".toList ")".toList word with
      | some n => n.length ≤ 3 && isByte n
      | none => false)

/-- The parts of the colour that a word names by parts: decimal digits of any script with commas
between them. -/
def colorParts? (word : List Char) : Option (List (List Char)) :=
  (between? "rgb(".toList ")".toList word).bind fun parts =>
    if !parts.isEmpty && parts.all fun c => c = ',' || (Text.decimalDigit? c).isSome then
      some (Text.pieces ',' parts)
    else none

/-- The word names a colour. Three parts must be numbers, and for a colour none is above 255. -/
def isColor (word : List Char) : Except Number.Fault Bool :=
  if isPlainColor word then .ok true
  else match colorParts? word with
    | some [red, green, blue] => do
      let red ← Number.readWhole (String.ofList red)
      let green ← Number.readWhole (String.ofList green)
      let blue ← Number.readWhole (String.ofList blue)
      return red ≤ 255 && green ≤ 255 && blue ≤ 255
    | _ => .ok false

/-! ## Definitions -/

/-- What a definition says. -/
structure Style where
  attributes : List (Attribute × Bool) := []
  color : Option String := none
  background : Option String := none
  link : Option String := none

namespace Style

/-- Reads the words of a definition. Words that are none give no style. -/
def read? (style : Style) : List String → Except Number.Fault (Option Style)
  | [] => .ok (some style)
  | word :: rest =>
    match String.ofList (Text.lower word.toList), rest with
    | "on", color :: rest => do
      if ← isColor (Text.lower color.toList) then read? { style with background := some color } rest
      else return none
    | "not", word :: rest =>
      match Attribute.ofWord? word with
      | some a => read? { style with attributes := (a, false) :: style.attributes } rest
      | none => .ok none
    | "link", target :: rest => read? { style with link := some target } rest
    | lower, rest =>
      match Attribute.ofWord? lower with
      | some a => read? { style with attributes := (a, true) :: style.attributes } rest
      | none => do
        if ← isColor lower.toList then read? { style with color := some lower } rest
        else return none

/-- The style of a definition, if it has one. -/
def ofText? (definition : List Char) : Except Number.Fault (Option Style) :=
  read? {} ((words definition).map String.ofList)

/-- The words of the attributes that are turned on or off. -/
def attributeWords (style : Style) : List String :=
  Attribute.all.flatMap fun a =>
    match style.attributes.lookup a with
    | some true => [a.text]
    | some false => ["not", a.text]
    | none => []

/-- The normal form. -/
def text (style : Style) : String :=
  let words := style.attributeWords ++ style.color.toList ++
    (match style.background with
      | some c => ["on", String.ofList (Text.lower c.toList)]
      | none => []) ++
    (match style.link with
      | some target => ["link", target]
      | none => [])
  if words.isEmpty then "none" else String.intercalate " " words

/-- The normal form of a definition; what is none is taken in small letters. -/
def normal (definition : List Char) : Except Number.Fault String :=
  return match ← ofText? definition with
    | some style => style.text
    | none =>
      let plain := Text.trim definition
      if plain = "none".toList then "none" else String.ofList (Text.lower plain)

end Style

end JmsNaming.Terminal
