import JmsNaming.Expression.Escape

/-
Texts with expressions between braces, and texts side by side. After an expression may stand an equals
sign, an exclamation mark with the letter of a form, and a colon with a format that may have expressions
of its own. What is wrong with an expression by itself is told by a function of its line and its
characters.
-/
namespace JmsNaming.Expression

/-! ## Between expressions -/

def isBrace (c : Char) : Bool :=
  c = '{' || c = '}'

/-- How many characters the escape at the start of a text takes, with the braces around a name. A
backslash before a brace stands alone. -/
def escapeLength : List Char → Nat
  | '\\' :: 'N' :: '{' :: s => 3 + (s.takeWhile (· != '}')).length + 1
  | '\\' :: 'N' :: _ => 3
  | '\\' :: c :: _ => if isBrace c then 1 else 2
  | _ => 0

/-- What follows the plain characters of a text. -/
inductive Stop where
  | finish
  /-- A brace that is written twice; the first one is plain. -/
  | doubled (rest : List Char)
  /-- A closing brace that closes nothing. -/
  | loneBrace
  /-- An opening brace. -/
  | opening (rest : List Char)
  /-- The brace that closes the expression whose format this is. -/
  | closing (rest : List Char)

/-- The plain characters that a text or a format begins with, and what follows them. -/
def plainPart (raw inFormat : Bool) : List Char → List Char × Stop
  | [] => ([], .finish)
  | c :: rest =>
    let n := if raw then 0 else escapeLength (c :: rest)
    if 0 < n then
      let r := plainPart raw inFormat ((c :: rest).drop n)
      ((c :: rest).take n ++ r.1, r.2)
    else if isBrace c then
      if !inFormat && rest.head? = some c then ([c], .doubled rest.tail)
      else if c = '{' then ([], .opening rest)
      else ([], if inFormat then .closing (c :: rest) else .loneBrace)
    else
      let r := plainPart raw inFormat rest
      (c :: r.1, r.2)
termination_by s => s.length
decreasing_by
  · simp only [List.length_drop, List.length_cons]
    omega
  · simp

/-! ## Expressions -/

/-- The characters that may end an expression where no bracket is open. -/
def endsExpression (c : Char) : Bool :=
  c = '!' || c = ':' || c = '}' || c = '='

/-- An equals sign after the character makes a comparison with it. -/
def startsComparison (c : Char) : Bool :=
  c = '!' || c = '=' || c = '<' || c = '>'

/-- The open quote in an expression, and whether it is a triple one. -/
abbrev Quote := Option (Char × Bool)

/-- The quote after a character, and how many characters were read with it. -/
def quoteAfter (quote : Quote) (c : Char) (s : List Char) : Quote × Nat :=
  let triple := [c, c].isPrefixOf s
  match quote with
  | none => if c = '"' || c = '\'' then (some (c, triple), if triple then 3 else 1) else (none, 1)
  | some (q, true) => if c = q && triple then (none, 3) else (quote, 1)
  | some (q, false) => (if c = q then none else quote, 1)

/-- The open brackets after a character of an expression. -/
def openAfter (c : Char) (opened : List Char) : Except FormatFault (List Char) :=
  if closing c != c then
    if maxDepth ≤ opened.length then .error .tooManyBrackets else .ok (c :: opened)
  else if c = ')' || c = ']' || c = '}' then
    match opened with
    | [] => .error (.unmatched c)
    | o :: rest => if closing o = c then .ok rest else .error (.mismatched c o)
  else .ok opened

/-- The characters of an expression up to the character that ends it, and the rest from there. -/
def expressionPart (quote : Quote) (opened : List Char) : List Char → Except FormatFault (List Char × List Char)
  | [] =>
    match quote, opened with
    | some _, _ => .error .unclosedText
    | none, o :: _ => .error (.unmatched o)
    | none, [] => .ok ([], [])
  | c :: rest =>
    let keep (n : Nat) (r : List Char × List Char) := (c :: rest.take n ++ r.1, r.2)
    if c = '\\' then .error .backslash
    else
      let (next, n) := quoteAfter quote c rest
      if quote.isSome || next.isSome then
        (expressionPart next opened (rest.drop (n - 1))).map (keep (n - 1))
      else if c = '#' then .error .comment
      else if opened.isEmpty && startsComparison c && rest.head? = some '=' then
        (expressionPart none opened rest.tail).map (keep 1)
      else if opened.isEmpty && endsExpression c then .ok ([], c :: rest)
      else do
        let opened ← openAfter c opened
        (expressionPart none opened rest).map (keep 0)
termination_by s => s.length
decreasing_by
  · simp only [List.length_drop, List.length_cons]
    omega
  · simp only [List.length_tail, List.length_cons]
    omega
  · simp

/-- A blank that may stand around an expression. -/
def isBlankInBraces (c : Char) : Bool :=
  c = ' ' || c = '\t' || c = '\n' || c = Char.ofNat 12

/-- A blank that may stand after an equals sign. -/
def isBlankAfterEquals (c : Char) : Bool :=
  isBlankInBraces c || c = Char.ofNat 11 || c = '\r'

/-- The rest after an equals sign and blanks, if there is one. -/
def afterEquals : List Char → List Char
  | '=' :: s => s.dropWhile isBlankAfterEquals
  | s => s

/-- The rest after an exclamation mark and a letter, if there is one. -/
def afterConversion : List Char → Except FormatFault (List Char)
  | ['!'] => .error .unclosed
  | '!' :: c :: s => if c = 's' || c = 'r' || c = 'a' then .ok s else .error .badConversion
  | s => .ok s

/-- The rest after the brace that closes an expression. -/
def afterBrace : List Char → Except FormatFault (List Char)
  | '}' :: s => .ok s
  | _ => .error .unclosed

/-! ## Texts with expressions -/

/-- How deep expressions may stand in formats. -/
def maxFormatDepth : Nat := 2

/-- Reads plain characters and expressions in turn: the rest at the brace that closes a format, or
nothing. -/
def readParts (expression : List Char → Except SyntaxFault (List Char)) (raw inFormat : Bool) :
    (fuel : Nat) → List Char → Except SyntaxFault (List Char)
  | 0, s => .ok s
  | fuel + 1, s => do
    let (plain, stop) := plainPart raw inFormat s
    if let .loneBrace := stop then throw (.format .loneBrace)
    if let some fault := if raw then none else escapeFault? 0 (spelledOut plain) then throw fault
    match stop with
    | .doubled rest => readParts expression raw inFormat fuel rest
    | .opening rest => readParts expression raw inFormat fuel (← expression rest)
    | .closing rest => return rest
    | _ => return []

/-- Reads an expression after its opening brace, with all that belongs to it: the rest after its closing
brace. The line on which a rest of the text begins is told by `line`. -/
def readExpression (fault? : Nat → List Char → Option SyntaxFault) (line : List Char → Nat) (raw : Bool) :
    (depth : Nat) → List Char → Except SyntaxFault (List Char)
  | 0, _ => .error (.format .tooNested)
  | depth + 1, s => do
    let (expression, rest) ← (expressionPart none [] s).mapError .format
    match rest with
    | [] => throw (.format .unclosed)
    | stop :: _ =>
      if expression.all isBlankInBraces then
        throw (.format (if stop = '}' then .empty else .nothingBefore stop))
      if let some fault := fault? (line s) expression then throw fault
      match ← (afterConversion (afterEquals rest)).mapError .format with
      | ':' :: s =>
        let rest ← readParts (readExpression fault? line raw depth) raw true (s.length + 1) s
        (afterBrace rest).mapError .format
      | rest => (afterBrace rest).mapError .format

/-- What is wrong with a text that has expressions. -/
def formatFault? (fault? : Nat → List Char → Option SyntaxFault) (t : Token) (letters body : List Char) :
    Option SyntaxFault :=
  let raw := hasLetter 'r' letters
  let line (rest : List Char) := t.line + (body.take (body.length - rest.length)).count '\n'
  match readParts (readExpression fault? line raw maxFormatDepth) raw false (body.length + 1) body with
  | .error fault => some fault
  | .ok _ => none

/-! ## Texts side by side -/

/-- What is wrong with texts side by side, where the first is one of bytes or not. -/
def textsFault? (fault? : Nat → List Char → Option SyntaxFault) (bytes : Option Bool) : List Token → Option SyntaxFault
  | [] => none
  | t :: ts =>
    match t.kind with
    | .text letters body =>
      let formatted := isFormatted letters
      let plainFault := if formatted then none else textFault? letters body
      let mixed := if bytes.any (· != isBytes letters) then some .mixedTexts else none
      let partFault := if formatted then formatFault? fault? t letters body else none
      (plainFault.or mixed).or (partFault.or (textsFault? fault? (some (isBytes letters)) ts))
    | _ => textsFault? fault? bytes ts

end JmsNaming.Expression
