import JmsNaming.Number.Reading
import JmsNaming.Text.Cut
import JmsNaming.Value.Basic

/-
The scalars of TOML texts: keys, strings in their four forms, numbers, dates and times. Each function
reads what a text begins with and returns the rest of the text.
-/
namespace JmsNaming.Toml

/-- Why a text is no document. -/
inductive Fault where
  /-- The text breaks the rules of the format. -/
  | malformed
  /-- A number has too many digits to be converted. -/
  | number (fault : Number.Fault)

/-! ## Characters -/

def isGap (c : Char) : Bool :=
  c == ' ' || c == '\t'

def skipGaps (s : List Char) : List Char :=
  s.dropWhile isGap

/-- A control character that no string on one line and no comment may have. -/
def isIllegal (c : Char) : Bool :=
  (c.toNat < 32 && c != '\t') || c.toNat == 127

/-- The text after a comment, if one begins here. -/
def skipComment (s : List Char) : Except Fault (List Char) :=
  match s with
  | '#' :: rest =>
    if (rest.takeWhile (· != '\n')).any isIllegal then .error .malformed else .ok (rest.dropWhile (· != '\n'))
  | _ => .ok s

/-- The text after gaps, line ends and comments. -/
def skipSpace (fuel : Nat) (s : List Char) : Except Fault (List Char) :=
  match fuel with
  | 0 => .ok s
  | fuel + 1 => do
    let rest ← skipComment (s.dropWhile fun c => isGap c || c == '\n')
    if rest.length == s.length then return s else skipSpace fuel rest

/-! ## Strings -/

/-- A character given by its code point in `n` hexadecimal digits. -/
def hexChar (n : Nat) (s : List Char) : Except Fault (Char × List Char) :=
  let digits := s.take n
  match Text.natOfHex? digits with
  | some code =>
    if digits.length == n && (code < 0xd800 || (0xe000 ≤ code && code < 0x110000)) then .ok (Char.ofNat code, s.drop n)
    else .error .malformed
  | none => .error .malformed

/-- The text after an escaped line end, with the blanks around it. -/
def skipLineEnd (s : List Char) : Except Fault (List Char) :=
  match s with
  | '\n' :: rest => .ok (rest.dropWhile fun c => isGap c || c == '\n')
  | _ =>
    match skipGaps s with
    | [] => .ok []
    | '\n' :: rest => .ok (rest.dropWhile fun c => isGap c || c == '\n')
    | _ => .error .malformed

/-- What follows a backslash: the character it stands for, or none for an escaped line end. -/
def escape (multiline : Bool) (s : List Char) : Except Fault (List Char × List Char) :=
  match s with
  | c :: rest =>
    if multiline && (isGap c || c == '\n') then (skipLineEnd s).map ([], ·)
    else
      match c with
      | 'u' => (hexChar 4 rest).map fun p => ([p.1], p.2)
      | 'U' => (hexChar 8 rest).map fun p => ([p.1], p.2)
      | 'b' => .ok ([Char.ofNat 8], rest)
      | 't' => .ok (['\t'], rest)
      | 'n' => .ok (['\n'], rest)
      | 'f' => .ok ([Char.ofNat 12], rest)
      | 'r' => .ok (['\r'], rest)
      | '"' => .ok (['"'], rest)
      | '\\' => .ok (['\\'], rest)
      | _ => .error .malformed
  | [] => .error .malformed

/-- Reads a string with escapes after its opening; `seen` are the characters so far, last first. -/
def basic (fuel : Nat) (multiline : Bool) (seen : List Char) (s : List Char) : Except Fault (List Char × List Char) :=
  match fuel with
  | 0 => .error .malformed
  | fuel + 1 =>
    match s with
    | [] => .error .malformed
    | '"' :: rest =>
      if !multiline then .ok (seen.reverse, rest)
      else if rest.take 2 == ['"', '"'] then .ok (seen.reverse, rest.drop 2)
      else basic fuel multiline ('"' :: seen) rest
    | '\\' :: rest =>
      match escape multiline rest with
      | .ok (chars, rest) => basic fuel multiline (chars.reverse ++ seen) rest
      | .error fault => .error fault
    | c :: rest =>
      if isIllegal c && !(multiline && c == '\n') then .error .malformed else basic fuel multiline (c :: seen) rest

/-- Reads a string without escapes after its opening apostrophe. -/
def literal (s : List Char) : Except Fault (List Char × List Char) :=
  match Text.cut? '\'' s with
  | some (text, rest) => if text.any isIllegal then .error .malformed else .ok (text, rest)
  | none => .error .malformed

/-- Reads up to three apostrophes. -/
def literalLines (seen : List Char) : List Char → Except Fault (List Char × List Char)
  | '\'' :: '\'' :: '\'' :: rest => .ok (seen.reverse, rest)
  | c :: rest => if isIllegal c && c != '\n' then .error .malformed else literalLines (c :: seen) rest
  | [] => .error .malformed

/-- Up to two quotes right after the closing ones belong to the text. -/
def closingQuotes (quote : Char) (text rest : List Char) : List Char × List Char :=
  match rest with
  | a :: b :: more =>
    if a == quote then if b == quote then (text ++ [quote, quote], more) else (text ++ [quote], b :: more)
    else (text, rest)
  | [a] => if a == quote then (text ++ [quote], []) else (text, rest)
  | [] => (text, [])

/-- Reads a string over several lines after its opening; a line end right there is left out. -/
def lines (quote : Char) (s : List Char) : Except Fault (List Char × List Char) := do
  let s := match s with
    | '\n' :: rest => rest
    | s => s
  let (text, rest) ← if quote == '\'' then literalLines [] s else basic (s.length + 1) true [] s
  return closingQuotes quote text rest

/-! ## Keys -/

def isBareKeyChar (c : Char) : Bool :=
  c.isAlphanum || c == '-' || c == '_'

/-- One part of a key: a bare word or a quoted text. -/
def keyPart (s : List Char) : Except Fault (String × List Char) :=
  match s with
  | '"' :: rest => (basic (rest.length + 1) false [] rest).map fun p => (String.ofList p.1, p.2)
  | '\'' :: rest => (literal rest).map fun p => (String.ofList p.1, p.2)
  | _ =>
    let word := s.takeWhile isBareKeyChar
    if word.isEmpty then .error .malformed else .ok (String.ofList word, s.dropWhile isBareKeyChar)

/-- The parts of a dotted key, and the text after the gaps behind it. -/
def key (fuel : Nat) (s : List Char) : Except Fault (List String × List Char) :=
  match fuel with
  | 0 => .error .malformed
  | fuel + 1 => do
    let (part, rest) ← keyPart s
    match skipGaps rest with
    | '.' :: rest =>
      let (parts, rest) ← key fuel (skipGaps rest)
      return (part :: parts, rest)
    | rest => return ([part], rest)

/-! ## Numbers -/

/-- Digits in front, in which an underscore may stand between two; with the underscores. -/
def digitRun (isDigit : Char → Bool) : List Char → List Char × List Char
  | [] => ([], [])
  | '_' :: c :: rest =>
    if isDigit c then
      let p := digitRun isDigit rest
      ('_' :: c :: p.1, p.2)
    else ([], '_' :: c :: rest)
  | c :: rest =>
    if isDigit c then
      let p := digitRun isDigit rest
      (c :: p.1, p.2)
    else ([], c :: rest)

/-- Digits in front that begin with a digit. -/
def digits (isDigit : Char → Bool) (s : List Char) : List Char × List Char :=
  if s.head? == some '_' then ([], s) else digitRun isDigit s

/-- The digits of a base after its letter. -/
def baseOf? : Char → Option (Nat × (Char → Bool))
  | 'x' => some (16, fun c => (Text.hexDigit? c).isSome)
  | 'b' => some (2, fun c => c == '0' || c == '1')
  | 'o' => some (8, fun c => '0' ≤ c && c ≤ '7')
  | _ => none

/-- A number in another base than ten. -/
def based? (s : List Char) : Option (Int × List Char) :=
  match s with
  | '0' :: letter :: rest =>
    match baseOf? letter with
    | some (base, isDigit) =>
      let (run, rest) := digits isDigit rest
      if run.isEmpty then none
      else some ((run.foldl (fun n c => if c == '_' then n else n * base + (Text.hexDigit? c).getD 0) 0 : Nat), rest)
    | none => none
  | _ => none

/-- The whole part of a decimal: zero, or digits that do not begin with zero. -/
def wholePart (s : List Char) : List Char × List Char :=
  match s with
  | '0' :: rest => (['0'], rest)
  | _ => digits Char.isDigit s

/-- A point and digits, if they are there. -/
def fractionPart (s : List Char) : List Char × List Char :=
  match s with
  | '.' :: rest =>
    let (run, after) := digits Char.isDigit rest
    if run.isEmpty then ([], s) else ('.' :: run, after)
  | _ => ([], s)

/-- An exponent, if it is there. -/
def exponentPart (s : List Char) : List Char × List Char :=
  match s with
  | e :: rest =>
    if e != 'e' && e != 'E' then ([], s)
    else
      let (sign, rest) := match rest with
        | '+' :: cs => (['+'], cs)
        | '-' :: cs => (['-'], cs)
        | cs => ([], cs)
      let (run, after) := digits Char.isDigit rest
      if run.isEmpty then ([], s) else (e :: sign ++ run, after)
  | [] => ([], s)

/-- Reads a decimal, whole or not. -/
def decimal (s : List Char) : Except Fault (Scalar × List Char) := do
  let (sign, body) := match s with
    | '+' :: cs => (['+'], cs)
    | '-' :: cs => (['-'], cs)
    | cs => ([], cs)
  let (whole, rest) := wholePart body
  if whole.isEmpty then throw .malformed
  let (fraction, rest) := fractionPart rest
  let (exponent, rest) := exponentPart rest
  let text := String.ofList (sign ++ whole ++ fraction ++ exponent)
  if fraction.isEmpty && exponent.isEmpty then
    return (.int (← (Number.readWhole text).mapError .number), rest)
  else return (.float (← (Number.readFloat text).mapError .number), rest)

/-- The words for numbers that have no digits. -/
def specialFloats : List (List Char × Binary64) :=
  [("inf".toList, .infinite false), ("nan".toList, .nan), ("-inf".toList, .infinite true),
    ("+inf".toList, .infinite false), ("-nan".toList, .nan), ("+nan".toList, .nan)]

/-! ## Dates and times -/

/-- A number of exactly `n` digits. -/
def fixed? (n : Nat) (s : List Char) : Option (Nat × List Char) :=
  let run := s.take n
  if run.length == n && run.all Char.isDigit then some (Text.natOfDigits 0 run, s.drop n) else none

/-- The text after `c`. -/
def expect? (c : Char) : List Char → Option (List Char)
  | d :: rest => if c = d then some rest else none
  | [] => none

/-- A time of day with two digits each, and a fraction of which six digits count. -/
def time? (s : List Char) : Option (TimeOfDay × List Char) := do
  let (hour, s) ← fixed? 2 s
  let (minute, s) ← fixed? 2 (← expect? ':' s)
  let (second, s) ← fixed? 2 (← expect? ':' s)
  if 23 < hour || 59 < minute || 59 < second then none
  match s with
  | '.' :: rest =>
    let run := rest.takeWhile Char.isDigit
    if run.isEmpty then return (⟨hour, minute, second, 0⟩, s)
    else
      let shown := run.take 6
      return (⟨hour, minute, second, Text.natOfDigits 0 (shown ++ List.replicate (6 - shown.length) '0')⟩,
        rest.dropWhile Char.isDigit)
  | _ => return (⟨hour, minute, second, 0⟩, s)

/-- The clock of an instant, if one is given. -/
def offset? (s : List Char) : Option Int × List Char :=
  match s with
  | c :: rest =>
    if c == 'Z' || c == 'z' then (some 0, rest)
    else if c == '+' || c == '-' then
      let read : Option (Int × List Char) := do
        let (hours, t) ← fixed? 2 rest
        let (minutes, t) ← fixed? 2 (← expect? ':' t)
        if 23 < hours || 59 < minutes then none
        return (hours * 3600 + minutes * 60, t)
      match read with
      | some (seconds, t) => (some (if c == '-' then -seconds else seconds), t)
      | none => (none, s)
    else (none, s)
  | [] => (none, s)

/-- A date, or an instant with the date first; its day may not exist in the month. -/
def moment? (s : List Char) : Option (Moment × List Char) := do
  let (year, s) ← fixed? 4 s
  let (month, s) ← fixed? 2 (← expect? '-' s)
  let (day, s) ← fixed? 2 (← expect? '-' s)
  if month < 1 || 12 < month || day < 1 || 31 < day then none
  let date : Date := ⟨year, month, day⟩
  match s with
  | c :: rest =>
    if c == 'T' || c == 't' || c == ' ' then
      match time? rest with
      | some (time, rest) =>
        let (offset, rest) := offset? rest
        return (.dateTime date time offset, rest)
      | none => return (.date date, s)
    else return (.date date, s)
  | [] => return (.date date, s)

/-- The day of a moment exists. -/
def dayExists : Moment → Bool
  | .date d => d.check.isOk
  | .dateTime d _ _ => d.check.isOk
  | .time _ => true

/-- Reads a number, a date or a time. -/
def numberOrMoment (s : List Char) : Except Fault (Scalar × List Char) :=
  match moment? s with
  | some (m, rest) => if dayExists m then .ok (.moment m, rest) else .error .malformed
  | none =>
    match time? s with
    | some (t, rest) => .ok (.moment (.time t), rest)
    | none =>
      match based? s with
      | some (n, rest) => .ok (.int n, rest)
      | none =>
        match decimal s with
        | .error .malformed =>
          match specialFloats.find? fun w => w.1.isPrefixOf s with
          | some (word, x) => .ok (.float x, s.drop word.length)
          | none => .error .malformed
        | other => other

end JmsNaming.Toml
