import JmsNaming.Expression.Token

/-
What is wrong with the escapes in quoted texts.
-/
namespace JmsNaming.Expression

/-! ## Escapes of characters -/

/-- The text as escapes are looked for in it: a character beyond ASCII is the escape of its number, and
a backslash before one stands for itself. -/
def spelledOut : List Char → List Char
  | [] => []
  | '\\' :: c :: s =>
    if c.toNat < 128 then '\\' :: c :: spelledOut s
    else "\\u005c\\U".toList ++ Text.hexText c.toNat 8 ++ spelledOut s
  | c :: s => (if c.toNat < 128 then [c] else "\\U".toList ++ Text.hexText c.toNat 8) ++ spelledOut s

/-- How many hexadecimal digits follow the letter of an escape. -/
def escapeDigits? (letter : Char) : Option Nat :=
  if letter = 'x' then some 2 else if letter = 'u' then some 4 else if letter = 'U' then some 8 else none

/-- The characters that names of characters consist of. -/
def isNameChar (c : Char) : Bool :=
  c.isAlphanum || c = ' ' || c = '-'

/-- What is wrong with the first bad escape of a text from a position on. -/
def escapeFault? (position : Nat) : List Char → Option SyntaxFault
  | [] => none
  | '\\' :: c :: s =>
    match escapeDigits? c with
    | some n =>
      let digits := (s.take n).takeWhile fun d => (Text.hexDigit? d).isSome
      let stop := position + 1 + digits.length
      if digits.length < n then some (.badEscape position stop (.short c))
      else if (Text.natOfHex? digits).any (0x10ffff < ·) then some (.badEscape position stop .beyond)
      else escapeFault? (position + 2) s
    | none =>
      if c = 'N' then
        match s with
        | '{' :: t =>
          let name := t.takeWhile (· != '}')
          if name.length = t.length then some (.badEscape position (position + 2 + name.length) .unnamed)
          else if name.isEmpty then some (.badEscape position (position + 2) .unnamed)
          else if !name.all isNameChar then some (.badEscape position (position + 3 + name.length) .unknownName)
          else escapeFault? (position + 2) s
        | _ => some (.badEscape position (position + 1) .unnamed)
      else escapeFault? (position + 2) s
  | _ :: s => escapeFault? (position + 1) s

/-! ## Escapes of bytes -/

/-- What is wrong with the first bad escape of bytes from a position on. -/
def byteEscapeFault? (position : Nat) : List Char → Option SyntaxFault
  | [] => none
  | '\\' :: 'x' :: s =>
    if 2 ≤ ((s.take 2).takeWhile fun d => (Text.hexDigit? d).isSome).length then byteEscapeFault? (position + 2) s
    else some (.badByteEscape position)
  | '\\' :: _ :: s => byteEscapeFault? (position + 2) s
  | _ :: s => byteEscapeFault? (position + 1) s

/-! ## Texts -/

/-- The letters before a quote have one of the letters, small or capital. -/
def hasLetter (c : Char) (letters : List Char) : Bool :=
  letters.any fun d => d.toLower = c

/-- The text is one of bytes. -/
def isBytes (letters : List Char) : Bool :=
  hasLetter 'b' letters

/-- The text holds expressions that are worked out. -/
def isFormatted (letters : List Char) : Bool :=
  hasLetter 'f' letters

/-- What is wrong with a text without expressions by itself. -/
def textFault? (letters body : List Char) : Option SyntaxFault :=
  if isBytes letters then
    if body.any fun c => 128 ≤ c.toNat then some .notAscii
    else if hasLetter 'r' letters then none
    else byteEscapeFault? 0 body
  else if hasLetter 'r' letters then none
  else escapeFault? 0 (spelledOut body)

end JmsNaming.Expression
