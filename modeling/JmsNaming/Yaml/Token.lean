import JmsNaming.Text.Percent
import JmsNaming.Yaml.Scalar

/-
The tokens of a YAML text. Indentation becomes tokens that open and close block collections, and a
colon turns what stands before it on its line into a key, so that the tokens alone give the structure.
-/
namespace JmsNaming.Yaml

inductive Token where
  | version (major : Nat)
  | tagHandle (handle lead : List Char)
  | otherDirective
  | documentStart
  | documentEnd
  | blockSequence
  | blockMapping
  | blockEnd
  | flowSequence
  | flowSequenceEnd
  | flowMapping
  | flowMappingEnd
  | key
  | value
  | blockEntry
  | flowEntry
  | alias (name : List Char)
  | anchor (name : List Char)
  /-- A tag with its handle, if it has one. -/
  | tag (handle : Option (List Char)) (suffix : List Char)
  | scalar (text : List Char) (plain : Bool)
  | streamEnd
  deriving DecidableEq

/-- A place where a key may have begun: the number of its first token, and where it stands. -/
structure PossibleKey where
  token : Nat
  required : Bool
  index : Nat
  line : Nat
  column : Nat

/-- The state of a scan. The keys are those possible at each depth of flow collections. -/
structure Scan where
  place : Place
  flow : Nat := 0
  indent : Int := -1
  indents : List Int := []
  tokens : Array Token := #[]
  keyAllowed : Bool := true
  keys : List (Nat × PossibleKey) := []

namespace Scan

def emit (s : Scan) (t : Token) : Scan :=
  { s with tokens := s.tokens.push t }

def inFlow (s : Scan) : Bool :=
  s.flow != 0

/-! ## Indentation -/

/-- Closes the block collections that are indented by more than `column`. -/
def unwind (fuel : Nat) (column : Int) (s : Scan) : Scan :=
  match fuel with
  | 0 => s
  | fuel + 1 =>
    if s.inFlow || s.indent ≤ column then s
    else
      match s.indents with
      | i :: rest => unwind fuel column { (s.emit .blockEnd) with indent := i, indents := rest }
      | [] => s

def unwindTo (column : Int) (s : Scan) : Scan :=
  s.unwind (s.indents.length + 1) column

/-- Opens an indentation at `column` if it is deeper than the present one. -/
def deepen (column : Nat) (s : Scan) : Option Scan :=
  if s.indent < column then some { s with indents := s.indent :: s.indents, indent := column } else none

/-! ## Possible keys -/

def keyHere? (s : Scan) : Option PossibleKey :=
  (s.keys.find? (·.1 == s.flow)).map (·.2)

/-- Forgets the possible key of this depth; a required one must have been a key. -/
def dropKey (s : Scan) : Except Fault Scan :=
  match s.keyHere? with
  | some k =>
    if k.required then .error .malformed else .ok { s with keys := s.keys.filter (·.1 != s.flow) }
  | none => .ok s

/-- Forgets the possible keys that are on an earlier line or too far back. -/
def dropStaleKeys (s : Scan) : Except Fault Scan :=
  let stale (k : PossibleKey) : Bool := k.line != s.place.line || 1024 < s.place.index - k.index
  if s.keys.any fun k => stale k.2 && k.2.required then .error .malformed
  else .ok { s with keys := s.keys.filter fun k => !stale k.2 }

/-- Notes that a key may begin here. -/
def saveKey (s : Scan) : Except Fault Scan :=
  if !s.keyAllowed then .ok s
  else do
    let required := !s.inFlow && s.indent == (s.place.column : Int)
    let s ← s.dropKey
    let k : PossibleKey :=
      { token := s.tokens.size, required, index := s.place.index, line := s.place.line, column := s.place.column }
    return { s with keys := (s.flow, k) :: s.keys }

/-! ## Tokens of one kind -/

/-- Emits a token for the next `n` characters. -/
def advance (s : Scan) (n : Nat) (t : Token) : Scan :=
  { (s.emit t) with place := s.place.skip n }

def documentMark (s : Scan) (t : Token) : Except Fault Scan := do
  let s ← (s.unwindTo (-1)).dropKey
  return { (s.advance 3 t) with keyAllowed := false }

def openFlow (s : Scan) (t : Token) : Except Fault Scan := do
  let s ← s.saveKey
  return { (s.advance 1 t) with flow := s.flow + 1, keyAllowed := true }

def closeFlow (s : Scan) (t : Token) : Except Fault Scan := do
  if s.flow = 0 then throw .malformed
  let s ← s.dropKey
  return { (s.advance 1 t) with flow := s.flow - 1, keyAllowed := false }

def flowComma (s : Scan) : Except Fault Scan := do
  let s ← s.dropKey
  return { (s.advance 1 .flowEntry) with keyAllowed := true }

/-- In block context, opens a collection at the present column unless one is open there. -/
def openBlock (s : Scan) (t : Token) : Except Fault Scan :=
  if s.inFlow then .ok s
  else if !s.keyAllowed then .error .malformed
  else
    match s.deepen s.place.column with
    | some d => .ok (d.emit t)
    | none => .ok s

def blockDash (s : Scan) : Except Fault Scan := do
  let s ← s.openBlock .blockSequence
  let s ← s.dropKey
  return { (s.advance 1 .blockEntry) with keyAllowed := true }

def explicitKey (s : Scan) : Except Fault Scan := do
  let s ← s.openBlock .blockMapping
  let s ← s.dropKey
  return { (s.advance 1 .key) with keyAllowed := !s.inFlow }

/-- A colon: what was possibly a key is one, or the key before it was explicit or empty. -/
def colon (s : Scan) : Except Fault Scan := do
  match s.keyHere? with
  | some k =>
    let s := { s with keys := s.keys.filter (·.1 != s.flow), tokens := s.tokens.insertIdxIfInBounds k.token .key }
    let s := if s.inFlow then s else
      match s.deepen k.column with
      | some d => { d with tokens := d.tokens.insertIdxIfInBounds k.token .blockMapping }
      | none => s
    return { (s.advance 1 .value) with keyAllowed := false }
  | none =>
    let s ← s.openBlock .blockMapping
    let s := { s with keyAllowed := !s.inFlow }
    let s ← s.dropKey
    return s.advance 1 .value

/-- An alias or an anchor: an indicator and a name. -/
def named (s : Scan) (token : List Char → Token) : Except Fault Scan := do
  let s ← s.saveKey
  let (name, p) := s.place.next.takeWhile isWordChar
  let follows := isGap p.head || (match p.head with
    | some c => ['?', ':', ',', ']', '\x7d', '%', '@', Char.ofNat 96].contains c
    | none => true)
  if name.isEmpty || !follows then throw .malformed
  return { (s.emit (token name)) with place := p, keyAllowed := false }

/-- A character that a tag or its prefix may have. -/
def isTagChar (c : Char) : Bool :=
  c.isAlphanum || "-;/?:@&=+$,_.!~*'()[]%".toList.contains c

/-- Reads the characters of a tag, in which `%` and two digits stand for a byte. -/
def tagText (p : Place) : Except Fault (List Char × Place) := do
  let (run, q) := p.takeWhile isTagChar
  let rec escapesOk : List Char → Bool
    | '%' :: a :: b :: rest => (Text.hexDigit? a).isSome && (Text.hexDigit? b).isSome && escapesOk rest
    | '%' :: _ => false
    | _ :: rest => escapesOk rest
    | [] => true
  if run.isEmpty || !escapesOk run then throw .malformed
  return (Text.percentDecode run, q)

/-- Reads the handle of a tag: an exclamation mark, or a word between two. -/
def tagHandle (p : Place) : Except Fault (List Char × Place) := do
  if p.head != some '!' then throw .malformed
  let q := p.next
  if q.head == some ' ' then return (['!'], q)
  let (word, q) := q.takeWhile isWordChar
  if q.head == some '!' then return ('!' :: word ++ ['!'], q.next) else throw .malformed

/-- Tells whether a second exclamation mark comes before the next gap. -/
def hasHandle (p : Place) : Bool :=
  (p.rest.drop 1).takeWhile (fun c => !(c == ' ' || isBreak c)) |>.contains '!'

def tagged (s : Scan) : Except Fault Scan := do
  let s ← s.saveKey
  let p := s.place
  let (token, q) ←
    if p.peek 1 == some '<' then do
      let (suffix, q) ← tagText (p.skip 2)
      if q.head != some '>' then throw .malformed
      pure (Token.tag none suffix, q.next)
    else if isGap (p.peek 1) then pure (Token.tag none ['!'], p.next)
    else do
      let (handle, q) ← if hasHandle p then tagHandle p else pure (['!'], p.next)
      let (suffix, q) ← tagText q
      pure (Token.tag (some handle) suffix, q)
  if !(q.head == some ' ' || isLineEnd q.head) then throw .malformed
  return { (s.emit token) with place := q, keyAllowed := false }

def block (s : Scan) (folded : Bool) : Except Fault Scan := do
  let s ← { s with keyAllowed := true }.dropKey
  let (text, p) ← scanBlock folded s.indent s.place.next
  return { (s.emit (.scalar text false)) with place := p }

def quoted (s : Scan) (quote : Char) : Except Fault Scan := do
  let s ← s.saveKey
  let (text, p) ← scanQuoted (s.place.rest.length + 1) quote [] s.place.next
  return { (s.emit (.scalar text false)) with place := p, keyAllowed := false }

def plain (s : Scan) : Except Fault Scan := do
  let s ← s.saveKey
  let (text, p, broken) := scanPlain (s.place.rest.length + 1) s.inFlow (s.indent + 1) [] [] false s.place
  return { (s.emit (.scalar text true)) with place := p, keyAllowed := broken }

/-! ## Directives -/

/-- A whole number in front, and the place after it. -/
def directiveNumber (p : Place) : Except Fault (Nat × Place) :=
  let (digits, q) := p.takeWhile Char.isDigit
  if digits.isEmpty then .error .malformed else .ok (Text.natOfDigits 0 digits, q)

def directive (s : Scan) : Except Fault Scan := do
  let s ← (s.unwindTo (-1)).dropKey
  let (name, p) := s.place.next.takeWhile isWordChar
  if name.isEmpty || !(p.head == some ' ' || isLineEnd p.head) then throw .malformed
  let (token, p) ←
    if name == "YAML".toList then do
      let (major, p) ← directiveNumber (p.skipWhile (· == ' '))
      if p.head != some '.' then throw .malformed
      let (_, p) ← directiveNumber p.next
      if !(p.head == some ' ' || isLineEnd p.head) then throw .malformed
      pure (Token.version major, p)
    else if name == "TAG".toList then do
      let (handle, p) ← tagHandle (p.skipWhile (· == ' '))
      if p.head != some ' ' then throw .malformed
      let (lead, p) ← tagText (p.skipWhile (· == ' '))
      if !(p.head == some ' ' || isLineEnd p.head) then throw .malformed
      pure (Token.tagHandle handle lead, p)
    else pure (Token.otherDirective, p.skipWhile fun c => !isBreak c)
  let p ← restOfLine p
  return { (s.emit token) with place := p, keyAllowed := false }

/-! ## Scanning -/

/-- Skips blanks, comments and line ends; after a line end in block context a key may begin. -/
def toNextToken (fuel : Nat) (s : Scan) : Scan :=
  match fuel with
  | 0 => s
  | fuel + 1 =>
    let p := s.place.skipWhile (· == ' ')
    let p := if p.head == some '#' then p.skipWhile fun c => !isBreak c else p
    match p.lineBreak? with
    | some (_, q) => toNextToken fuel { s with place := q, keyAllowed := s.keyAllowed || !s.inFlow }
    | none => { s with place := p }

/-- A plain scalar may begin here. -/
def startsPlain (s : Scan) (c : Char) : Bool :=
  !(isGap (some c) || "-?:,[]\x7b\x7d#&*!|>'\"%@".toList.contains c || c == Char.ofNat 96) ||
    (!isGap (s.place.peek 1) && (c == '-' || (!s.inFlow && (c == '?' || c == ':'))))

/-- Reads the tokens that begin at the next character. -/
def step (s : Scan) (c : Char) : Except Fault Scan :=
  let atColumnZero := s.place.column == 0
  if c == '%' && atColumnZero then s.directive
  else if atColumnZero && s.place.hasMarker '-' then s.documentMark .documentStart
  else if atColumnZero && s.place.hasMarker '.' then s.documentMark .documentEnd
  else if c == '[' then s.openFlow .flowSequence
  else if c == '\x7b' then s.openFlow .flowMapping
  else if c == ']' then s.closeFlow .flowSequenceEnd
  else if c == '\x7d' then s.closeFlow .flowMappingEnd
  else if c == ',' then s.flowComma
  else if c == '-' && isGap (s.place.peek 1) then s.blockDash
  else if c == '?' && (s.inFlow || isGap (s.place.peek 1)) then s.explicitKey
  else if c == ':' && (s.inFlow || isGap (s.place.peek 1)) then s.colon
  else if c == '*' then s.named .alias
  else if c == '&' then s.named .anchor
  else if c == '!' then s.tagged
  else if c == '|' && !s.inFlow then s.block false
  else if c == '>' && !s.inFlow then s.block true
  else if c == '\'' || c == '"' then s.quoted c
  else if s.startsPlain c then s.plain
  else .error .malformed

/-- Reads all tokens up to the end of the text. -/
def run (fuel : Nat) (s : Scan) : Except Fault (Array Token) :=
  match fuel with
  | 0 => .error .malformed
  | fuel + 1 => do
    let s := s.toNextToken (s.place.rest.length + 1)
    let s ← s.dropStaleKeys
    let s := s.unwindTo s.place.column
    match s.place.head with
    | some c => run fuel (← s.step c)
    | none =>
      let s ← (s.unwindTo (-1)).dropKey
      return (s.emit .streamEnd).tokens

end Scan

/-- The tokens of a text. A byte order mark at its start is skipped. -/
def Token.scan (text : List Char) : Except Fault (List Token) := do
  if !text.all isAllowed then throw .malformed
  let start : Place := { rest := text }
  let start := if text.head? == some (Char.ofNat 0xfeff) then start.next else start
  return (← Scan.run (text.length + 2) { place := start }).toList

end JmsNaming.Yaml
