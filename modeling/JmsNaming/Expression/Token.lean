import JmsNaming.Expression.Fault
import JmsNaming.Text.Word

/-
The tokens of an expression: words, numbers, quoted texts, and marks. Inside brackets the ends of
lines count for nothing.
-/
namespace JmsNaming.Expression

/-! ## Tokens -/

inductive Token.Kind where
  /-- A name or a keyword. -/
  | word (s : String)
  /-- A whole number of so many decimal digits; none is counted in other notations. -/
  | whole (digits : Nat)
  | real
  | imaginary
  /-- What stands between quotes, after letters that say how it is read. -/
  | text (letters body : List Char)
  | mark (s : String)
  | lineEnd
  /-- The blanks at the start of an indented line. -/
  | indent
  | finish
  deriving DecidableEq

/-- A token, the line it begins on, and how many brackets are open after it. -/
structure Token where
  kind : Token.Kind
  line : Nat
  depth : Nat

/-- How the tokens end. -/
inductive Ending where
  | complete
  /-- No token follows, for some reason; the last open bracket stands on a line. -/
  | broken (fault : SyntaxFault) (opened : Option (Char × Nat))

/-- The characters after a token must be looked at to know where it ends. -/
def Token.Kind.looksAhead : Token.Kind → Bool
  | text _ body => body.isEmpty
  | mark s => s.length < 3
  | lineEnd => false
  | _ => true

/-- The tokens of a text, in order. -/
structure Source where
  tokens : Array Token
  ending : Ending
  /-- How many of the tokens are known before the end of the text is seen. -/
  early : Nat

/-! ## Numbers -/

/-- The characters that may stand in names or that no other token begins with. -/
def isNameLike (c : Char) : Bool :=
  c.isAlphanum || c = '_' || 128 ≤ c.toNat

/-- The words that may follow a number without a blank. -/
def wordsAfterNumbers : List String :=
  ["and", "else", "for", "or", "not"]

/-- The starts of words that may follow a number without a blank. -/
def wordStartsAfterNumbers : List String :=
  ["if", "in", "is"]

/-- The rest of the text after a number, if the number may end there. -/
def endNumber (form : Notation) (s : List Char) : Except SyntaxFault (List Char) :=
  let word := s.takeWhile isNameLike
  if word.isEmpty || wordsAfterNumbers.contains (String.ofList word) ||
      wordStartsAfterNumbers.contains (String.ofList (word.take 2)) then .ok s
  else .error (.badNumber form)

/-- The digits that a text begins with, without the single underscores between them, and the rest. -/
def decimalDigits : List Char → Except SyntaxFault (List Char × List Char)
  | '_' :: d :: s =>
    if d.isDigit then (decimalDigits s).map fun r => (d :: r.1, r.2) else .error (.badNumber .decimal)
  | ['_'] => .error (.badNumber .decimal)
  | c :: s => if c.isDigit then (decimalDigits s).map fun r => (c :: r.1, r.2) else .ok ([], c :: s)
  | [] => .ok ([], [])

/-- Skips digits of a kind, each of them after at most one underscore: whether one is missing, and the
rest. -/
def skipDigits (isDigit : Char → Bool) (missing underscore : Bool) : List Char → Bool × List Char
  | [] => (missing, [])
  | c :: s =>
    if isDigit c then skipDigits isDigit false true s
    else if c = '_' && underscore then skipDigits isDigit true false s
    else (missing, c :: s)

/-- The rest after the digits of a number that begins with a zero and a letter. -/
def afterRadix (form : Notation) (isDigit : Char → Bool) (s : List Char) : Except SyntaxFault (List Char) :=
  let (missing, rest) := skipDigits isDigit true true s
  match rest.head? with
  | some c =>
    if c.isDigit then .error (.badDigit c form)
    else if missing then .error (.badNumber form)
    else endNumber form rest
  | none => if missing then .error (.badNumber form) else .ok rest

/-- The end of a decimal number after its exponent. -/
def afterExponent (kind : Token.Kind) (s : List Char) : Except SyntaxFault (Token.Kind × List Char) :=
  match s with
  | 'j' :: rest => (endNumber .imaginary rest).map (.imaginary, ·)
  | 'J' :: rest => (endNumber .imaginary rest).map (.imaginary, ·)
  | s => (endNumber .decimal s).map (kind, ·)

/-- The end of a decimal number after its fraction. -/
def afterFraction (kind : Token.Kind) (s : List Char) : Except SyntaxFault (Token.Kind × List Char) :=
  match s with
  | [] => .ok (kind, [])
  | e :: rest =>
    if e = 'e' || e = 'E' then
      match rest with
      | [] => .error (.badNumber .decimal)
      | c :: digits =>
        if c.isDigit then do
          let (_, s) ← decimalDigits rest
          afterExponent .real s
        else if c = '+' || c = '-' then
          if digits.head?.any Char.isDigit then do
            let (_, s) ← decimalDigits digits
            afterExponent .real s
          else .error (.badNumber .decimal)
        else (endNumber .decimal s).map (kind, ·)
    else afterExponent kind s

/-- The end of a decimal number after its point. -/
def afterPoint (s : List Char) : Except SyntaxFault (Token.Kind × List Char) := do
  if s.head?.any Char.isDigit then
    let (_, s) ← decimalDigits s
    afterFraction .real s
  else afterFraction .real s

/-- A decimal number. -/
def decimalNumber (s : List Char) : Except SyntaxFault (Token.Kind × List Char) := do
  let (digits, rest) ← decimalDigits s
  match rest with
  | '.' :: rest => afterPoint rest
  | rest =>
    if digits.head? = some '0' && digits.any (· != '0') && !rest.head?.any (fun c => "eEjJ".toList.contains c) then
      throw .leadingZeros
    afterFraction (.whole (if digits.head? = some '0' then 0 else digits.length)) rest

/-- The number that a text begins with, and the rest. The text begins with a digit. -/
def number (s : List Char) : Except SyntaxFault (Token.Kind × List Char) :=
  let radix (form : Notation) (isDigit : Char → Bool) (s : List Char) :=
    (afterRadix form isDigit s).map (Token.Kind.whole 0, ·)
  let hexadecimal (s : List Char) :=
    let (missing, rest) := skipDigits (fun c => (Text.hexDigit? c).isSome) true true s
    if missing then .error (.badNumber .hexadecimal)
    else (endNumber .hexadecimal rest).map (Token.Kind.whole 0, ·)
  match s with
  | '0' :: 'x' :: s => hexadecimal s
  | '0' :: 'X' :: s => hexadecimal s
  | '0' :: 'o' :: s => radix .octal (fun c => '0' ≤ c && c < '8') s
  | '0' :: 'O' :: s => radix .octal (fun c => '0' ≤ c && c < '8') s
  | '0' :: 'b' :: s => radix .binary (fun c => c = '0' || c = '1') s
  | '0' :: 'B' :: s => radix .binary (fun c => c = '0' || c = '1') s
  | s => decimalNumber s

/-! ## Quoted texts -/

/-- The letters that may stand before a quote. -/
def isQuoteLead (letters : List Char) : Bool :=
  ["b", "r", "u", "f", "br", "rb", "fr", "rf"].contains (String.ofList (letters.map Char.toLower))

/-- The characters of a text up to its closing quote, the line after them, and the rest; `fault` if it
is not closed. -/
def untilQuote (quote : Char) (triple : Bool) (line : Nat) :
    List Char → Except SyntaxFault (List Char × Nat × List Char)
  | [] => .error (.unclosedText triple line)
  | '\\' :: c :: s =>
    (untilQuote quote triple (if c = '\n' then line + 1 else line) s).map fun r => ('\\' :: c :: r.1, r.2)
  | c :: s =>
    if c = quote && !triple then .ok ([], line, s)
    else if c = quote && [quote, quote].isPrefixOf s then .ok ([], line, s.drop 2)
    else if c = '\n' && !triple then .error (.unclosedText triple line)
    else (untilQuote quote triple (if c = '\n' then line + 1 else line) s).map fun r => (c :: r.1, r.2)

/-- The text after an opening quote. -/
def quotedAfter (quote : Char) (line : Nat) (s : List Char) : Except SyntaxFault (List Char × Nat × List Char) :=
  if [quote, quote].isPrefixOf s then untilQuote quote true line (s.drop 2) else untilQuote quote false line s

/-! ## Marks -/

def marks : List (List Char) :=
  ["**=", "//=", ">>=", "<<=", "...", "!=", "%=", "&=", "**", "*=", "+=", "-=", "->", "//", "/=", ":=", "<<", "<=",
    "<>", "==", ">=", ">>", "@=", "^=", "|="].map String.toList

/-- The longest mark of several characters that a text begins with. -/
def longMark? (s : List Char) : Option (List Char) :=
  marks.find? (·.isPrefixOf s)

/-- The bracket that closes one. -/
def closing (c : Char) : Char :=
  if c = '(' then ')' else if c = '[' then ']' else if c = '{' then '}' else c

/-- The greatest number of open brackets. -/
def maxDepth : Nat := 200

/-- The open brackets, each with its line, after another mark. -/
def bracketsAfter (c : Char) (line : Nat) (opened : List (Char × Nat)) : Except SyntaxFault (List (Char × Nat)) :=
  if closing c != c then
    if maxDepth ≤ opened.length then .error .tooNested else .ok ((c, line) :: opened)
  else if [')', ']', '}'].contains c then
    match opened with
    | [] => .error (.unmatched c)
    | (o, at') :: rest =>
      if closing o = c then .ok rest else .error (.mismatched c o (if at' = line then none else some at'))
  else .ok opened

/-! ## Reading -/

/-- Where the reader stands: the line, the open brackets, and whether a line has just begun. -/
structure Place where
  line : Nat := 1
  opened : List (Char × Nat) := []
  fresh : Bool := true

/-- What the reader finds at a place. -/
inductive Find where
  | token (kind : Token.Kind) (next : Place) (rest : List Char)
  | nothing (next : Place) (rest : List Char)
  | stop (ending : Ending)

def Place.broken (p : Place) (fault : SyntaxFault) : Ending :=
  .broken fault p.opened.head?

/-- How the tokens end at the end of a text. -/
def Place.ending (p : Place) : Ending :=
  match p.opened with
  | (c, _) :: _ => p.broken (.unclosed c)
  | [] => .complete

def isSpace (c : Char) : Bool :=
  c = ' ' || c = '\t' || c = Char.ofNat 12

/-- The blanks at the start of a line indent it; a form feed begins the line anew. -/
def indents (blanks : List Char) : Bool :=
  blanks.reverse.head?.any (· != Char.ofNat 12)

/-- What a word is the start of: a quoted text, or itself. -/
def findWord (p : Place) (s : List Char) : Except SyntaxFault Find :=
  let word := s.takeWhile isNameLike
  match s.drop word.length with
  | q :: rest =>
    if (q = '"' || q = '\'') && isQuoteLead word then do
      let (body, line, rest) ← quotedAfter q p.line rest
      return .token (.text word body) { p with line } rest
    else found word (q :: rest)
  | [] => found word []
where
  found (word rest : List Char) : Except SyntaxFault Find :=
    match Text.strangeInName? word with
    | some c => .error (.strangeCharacter c)
    | none => .ok (.token (.word (String.ofList word)) p rest)

/-- What stands at a character that is no blank. -/
def find (p : Place) (c : Char) (s : List Char) : Except SyntaxFault Find :=
  if c = '#' then .ok (.nothing p (s.dropWhile (· != '\n')))
  else if c = '\n' then
    let next := { p with line := p.line + 1, fresh := true }
    .ok (if p.opened.isEmpty && !p.fresh then .token .lineEnd next s else .nothing next s)
  else if c = '\\' then
    match s with
    | ['\n'] => .ok (.stop (match p.ending with
        | .complete => .broken .unexpectedEnd none
        | e => e))
    | '\n' :: s => .ok (.nothing { p with line := p.line + 1 } s)
    | _ => .ok (.stop (p.broken .brokenContinuation))
  else if c.isDigit || (c = '.' && s.head?.any Char.isDigit) then do
    let (kind, rest) ← if c = '.' then afterPoint s else number (c :: s)
    return .token kind p rest
  else if isNameLike c then findWord p (c :: s)
  else if c = '"' || c = '\'' then do
    let (body, line, rest) ← quotedAfter c p.line s
    return .token (.text [] body) { p with line } rest
  else
    match longMark? (c :: s) with
    | some m => .ok (.token (.mark (String.ofList m)) p ((c :: s).drop m.length))
    | none => do
      let opened ← bracketsAfter c p.line p.opened
      if !Text.isPrintable c then throw (.strangeCharacter c)
      return .token (.mark (String.ofList [c])) { p with opened } s

/-- The tokens from a place on. -/
def readFrom (fuel : Nat) (p : Place) (tokens : Array Token) (s : List Char) : Except SyntaxFault Source :=
  match fuel with
  | 0 => .ok { tokens, ending := p.ending, early := tokens.size }
  | fuel + 1 =>
    let blanks := s.takeWhile isSpace
    match s.drop blanks.length with
    | [] =>
      let late := s.isEmpty && tokens.back?.any (·.kind.looksAhead)
      .ok { tokens, ending := p.ending, early := tokens.size - if late then 1 else 0 }
    | c :: rest => do
      let isText := c != '#' && c != '\n'
      let tokens :=
        if p.fresh && isText && p.opened.isEmpty && indents blanks then
          tokens.push { kind := .indent, line := p.line, depth := 0 }
        else tokens
      match ← find { p with fresh := p.fresh && !isText } c rest with
      | .token kind next rest =>
        readFrom fuel next (tokens.push { kind, line := p.line, depth := next.opened.length }) rest
      | .nothing next rest => readFrom fuel next tokens rest
      | .stop ending => .ok { tokens, ending, early := tokens.size }

/-- The text with every line ended by a line feed alone. -/
def plainLines : List Char → List Char
  | '\r' :: '\n' :: s => '\n' :: plainLines s
  | '\r' :: s => '\n' :: plainLines s
  | c :: s => c :: plainLines s
  | [] => []

namespace Source

/-- The tokens of a text that begins on a line. -/
def readAt (line : Nat) (s : List Char) : Except SyntaxFault Source :=
  let s := plainLines s
  readFrom (s.length + 1) { line } #[] s

end Source

end JmsNaming.Expression
