import JmsNaming.Text.Character
import JmsNaming.Value.Basic

/-
Reading JSON text. A number with a fraction or an exponent is a floating-point number, any other is
whole. Objects become maps with text keys; a repeated key keeps its first place and takes its last
value.
-/
namespace JmsNaming.Json

/-- The text without the blanks in front. -/
def skipBlanks (s : List Char) : List Char :=
  s.dropWhile fun c => c == ' ' || c == '\n' || c == '\r' || c == '\t'

/-- The number that four hexadecimal digits in front denote, and the rest. -/
def readUnit? : List Char → Option (Nat × List Char)
  | a :: b :: c :: d :: rest => (Text.natOfHex? [a, b, c, d]).map (·, rest)
  | _ => none

/-- The character that stands after a backslash for another. -/
def unescape? : Char → Option Char
  | '"' => some '"'
  | '\\' => some '\\'
  | '/' => some '/'
  | 'b' => some (Char.ofNat 8)
  | 'f' => some (Char.ofNat 12)
  | 'n' => some '\n'
  | 'r' => some '\r'
  | 't' => some '\t'
  | _ => none

/-- The character of one unit, or of a pair of units of which the second follows in the text. -/
def readEscape? (s : List Char) : Option (Char × List Char) := do
  let (high, rest) ← readUnit? s
  if Text.isHighUnit high then
    match rest with
    | '\\' :: 'u' :: more =>
      let (low, after) ← readUnit? more
      if Text.isLowUnit low then return (Text.paired high low, after) else return (Char.ofNat 0xfffd, rest)
    | _ => return (Char.ofNat 0xfffd, rest)
  else if Text.isLowUnit high then return (Char.ofNat 0xfffd, rest)
  else return (Char.ofNat high, rest)

/-- Reads the rest of a string whose characters so far are `seen`, last first. -/
def readText? (seen : List Char) : (fuel : Nat) → List Char → Option (String × List Char)
  | 0, _ => none
  | _ + 1, '"' :: rest => some (String.ofList seen.reverse, rest)
  | fuel + 1, '\\' :: 'u' :: rest => do
    let (c, rest) ← readEscape? rest
    readText? (c :: seen) fuel rest
  | fuel + 1, '\\' :: e :: rest => do
    let c ← unescape? e
    readText? (c :: seen) fuel rest
  | fuel + 1, c :: rest => if c.toNat < 32 || c == '\\' then none else readText? (c :: seen) fuel rest
  | _ + 1, [] => none

/-- A character that a number may have. -/
def isNumberChar (c : Char) : Bool :=
  c.isDigit || c == '-' || c == '+' || c == '.' || c == 'e' || c == 'E'

/-- The whole number that an optional minus and digits denote. -/
def wholeOf? (s : List Char) : Option Int :=
  match s with
  | '-' :: digits => if digits.isEmpty || !digits.all Char.isDigit then none else some (-(Text.natOfDigits 0 digits : Int))
  | digits => if digits.isEmpty || !digits.all Char.isDigit then none else some (Text.natOfDigits 0 digits)

/-- The floating-point number that a text of a number denotes. -/
def floatOf? (s : List Char) : Option Binary64 := do
  let (negative, s) := match s with
    | '-' :: cs => (true, cs)
    | cs => (false, cs)
  let whole := s.takeWhile Char.isDigit
  let rest := s.dropWhile Char.isDigit
  let (fraction, rest) := match rest with
    | '.' :: cs => (cs.takeWhile Char.isDigit, cs.dropWhile Char.isDigit)
    | cs => ([], cs)
  let exponent ← match rest with
    | [] => some 0
    | e :: cs => if e == 'e' || e == 'E' then wholeOf? (if cs.head? == some '+' then cs.drop 1 else cs) else none
  if whole.isEmpty then none
  return Binary64.ofDecimal negative (Text.natOfDigits 0 (whole ++ fraction)) (exponent - fraction.length)

def readNumber? (s : List Char) : Option Scalar :=
  if s.any fun c => c == '.' || c == 'e' || c == 'E' then (floatOf? s).map .float else (wholeOf? s).map .int

/-- The text after `word`, if it begins with it. -/
def readWord? (word s : List Char) : Option (List Char) :=
  if word.isPrefixOf s then some (s.drop word.length) else none

mutual

/-- Reads a value from a text that begins with it. -/
def readValue? : (fuel : Nat) → List Char → Option (Value × List Char)
  | 0, _ => none
  | fuel + 1, s =>
    match skipBlanks s with
    | '"' :: rest => (readText? [] (rest.length + 1) rest).map fun p => (.text p.1, p.2)
    | '[' :: rest =>
      match skipBlanks rest with
      | ']' :: rest => some (.list [], rest)
      | rest => readItems? fuel [] rest
    | '\x7b' :: rest =>
      match skipBlanks rest with
      | '\x7d' :: rest => some (.map [], rest)
      | rest => readEntries? fuel [] rest
    | 'n' :: rest => (readWord? ['u', 'l', 'l'] rest).map (.null, ·)
    | 't' :: rest => (readWord? ['r', 'u', 'e'] rest).map (.bool true, ·)
    | 'f' :: rest => (readWord? ['a', 'l', 's', 'e'] rest).map (.bool false, ·)
    | rest => (readNumber? (rest.takeWhile isNumberChar)).map fun n => (.scalar n, rest.dropWhile isNumberChar)

/-- Reads the items of a list up to its end; `seen` are those before, last first. -/
def readItems? : (fuel : Nat) → (seen : List Value) → List Char → Option (Value × List Char)
  | 0, _, _ => none
  | fuel + 1, seen, s => do
    let (v, rest) ← readValue? fuel s
    match skipBlanks rest with
    | ',' :: rest => readItems? fuel (v :: seen) rest
    | ']' :: rest => some (.list (v :: seen).reverse, rest)
    | _ => none

/-- Reads the entries of an object up to its end; `seen` are those before, last first. -/
def readEntries? : (fuel : Nat) → (seen : List (Scalar × Value)) → List Char → Option (Value × List Char)
  | 0, _, _ => none
  | fuel + 1, seen, s =>
    match skipBlanks s with
    | '"' :: rest => do
      let (key, rest) ← readText? [] (rest.length + 1) rest
      match skipBlanks rest with
      | ':' :: rest =>
        let (v, rest) ← readValue? fuel rest
        match skipBlanks rest with
        | ',' :: rest => readEntries? fuel ((.text key, v) :: seen) rest
        | '\x7d' :: rest => some (.map (Table.ofEntries ((.text key, v) :: seen).reverse), rest)
        | _ => none
      | _ => none
    | _ => none

end

/-- Reads a text that is one JSON value. -/
def read? (text : String) : Option Value :=
  let s := text.toList
  match readValue? (s.length + 1) s with
  | some (v, rest) => if (skipBlanks rest).isEmpty then some v else none
  | none => none

end JmsNaming.Json
