import JmsNaming.Yaml.Place

/-
The scalars of YAML texts: plain ones, which may go over several lines, quoted ones with their
escapes, and blocks that keep or fold their lines. Each is read from the place where it begins.
-/
namespace JmsNaming.Yaml

/-! ## Plain -/

/-- Blanks and line ends between the lines of a plain scalar; nothing is returned at a separator. -/
def plainBreaks (fuel : Nat) (seen : List Char) (p : Place) : Option (List Char) × Place :=
  match fuel with
  | 0 => (some seen.reverse, p)
  | fuel + 1 =>
    if p.head == some ' ' then plainBreaks fuel seen p.next
    else
      match p.lineBreak? with
      | some (c, q) => if q.atSeparator then (none, q) else plainBreaks fuel (c :: seen) q
      | none => (some seen.reverse, p)

/-- What the space after a line of a plain scalar counts as, the place after it, and whether there was
a line end. -/
def plainSpace (p : Place) : List Char × Place × Bool :=
  let (blanks, p) := p.takeWhile (· == ' ')
  match p.lineBreak? with
  | some (c, q) =>
    if q.atSeparator then ([], q, true)
    else
      match plainBreaks (q.rest.length + 1) [] q with
      | (none, q) => ([], q, true)
      | (some breaks, q) =>
        let lead := if c != '\n' then [c] else if breaks.isEmpty then [' '] else []
        (lead ++ breaks, q, true)
  | none => (blanks, p, false)

/-- The number of characters of a plain scalar up to a gap or an indicator. -/
def plainRun (inFlow : Bool) : List Char → Nat
  | [] => 0
  | c :: rest =>
    let next := rest.head?
    let ends := isGap (some c) ||
      (c == ':' && (isGap next || (inFlow && (match next with
        | some d => d == ',' || d == '[' || d == ']' || d == '\x7b' || d == '\x7d'
        | none => true)))) ||
      (inFlow && (c == ',' || c == '?' || c == '[' || c == ']' || c == '\x7b' || c == '\x7d'))
    if ends then 0 else plainRun inFlow rest + 1

/-- Reads a plain scalar that is indented by at least `indent`; also tells whether a line end came
last, after which a key may begin. -/
def scanPlain (fuel : Nat) (inFlow : Bool) (indent : Int) (text space : List Char) (allowed : Bool) (p : Place) :
    List Char × Place × Bool :=
  match fuel with
  | 0 => (text, p, allowed)
  | fuel + 1 =>
    let length := if p.head == some '#' then 0 else plainRun inFlow p.rest
    if length = 0 then (text, p, allowed)
    else
      let text := text ++ space ++ p.rest.take length
      let (space, q, broken) := plainSpace (p.skip length)
      if space.isEmpty || q.head == some '#' || (!inFlow && (q.column : Int) < indent) then (text, q, broken)
      else scanPlain fuel inFlow indent text space broken q

/-! ## Quoted -/

/-- The character that an escape letter stands for. -/
def escapeChar? (c : Char) : Option Char :=
  match c with
  | '0' => some (Char.ofNat 0)
  | 'a' => some (Char.ofNat 7)
  | 'b' => some (Char.ofNat 8)
  | 't' | '\t' => some '\t'
  | 'n' => some '\n'
  | 'v' => some (Char.ofNat 11)
  | 'f' => some (Char.ofNat 12)
  | 'r' => some '\r'
  | 'e' => some (Char.ofNat 27)
  | ' ' => some ' '
  | '"' => some '"'
  | '\\' => some '\\'
  | '/' => some '/'
  | 'N' => some (Char.ofNat 0x85)
  | '_' => some (Char.ofNat 0xa0)
  | 'L' => some (Char.ofNat 0x2028)
  | 'P' => some (Char.ofNat 0x2029)
  | _ => none

/-- The number of hexadecimal digits after an escape letter. -/
def escapeDigits? (c : Char) : Option Nat :=
  match c with
  | 'x' => some 2
  | 'u' => some 4
  | 'U' => some 8
  | _ => none

/-- The line ends in a quoted scalar, with the blanks around them left out. -/
def quotedBreaks (fuel : Nat) (seen : List Char) (p : Place) : Except Fault (List Char × Place) :=
  match fuel with
  | 0 => .ok (seen.reverse, p)
  | fuel + 1 =>
    if p.atSeparator then .error .malformed
    else
      let p := p.skipWhile fun c => c == ' ' || c == '\t'
      match p.lineBreak? with
      | some (c, q) => quotedBreaks fuel (c :: seen) q
      | none => .ok (seen.reverse, p)

/-- The second half of a pair of units, if the first one has just been read and an escape of the other
follows. -/
def lowHalf? (high : Nat) (p : Place) : Option Nat :=
  if Text.isHighUnit high && p.peek 0 == some '\\' && p.peek 1 == some 'u' then
    (Text.natOfHex? ((p.rest.drop 2).take 4)).filter Text.isLowUnit
  else none

/-- The escape after a backslash: the characters it stands for. Two escapes for the halves of a pair
stand for one character. -/
def quotedEscape (p : Place) : Except Fault (List Char × Place) :=
  match p.head with
  | none => .error .malformed
  | some c =>
    match escapeChar? c, escapeDigits? c with
    | some d, _ => .ok ([d], p.next)
    | none, some n =>
      let digits := (p.rest.drop 1).take n
      match Text.natOfHex? digits with
      | none => .error .malformed
      | some code =>
        let p := p.next.skip n
        if digits.length < n then .error .malformed
        else if 0x7fffffff < code then .error .codeNumber
        else if 0x10ffff < code then .error .codePoint
        else match lowHalf? code p with
          | some low => .ok ([Text.paired code low], p.skip 6)
          | none => .ok ([Char.ofNat code], p)
    | none, none =>
      match p.lineBreak? with
      | some (_, q) => quotedBreaks (q.rest.length + 1) [] q
      | none => .error .malformed

/-- The space inside a quoted scalar: blanks stay, a line end becomes a blank, further ones stay. -/
def quotedSpace (p : Place) : Except Fault (List Char × Place) :=
  let (blanks, p) := p.takeWhile fun c => c == ' ' || c == '\t'
  match p.head, p.lineBreak? with
  | none, _ => .error .malformed
  | some _, some (c, q) => do
    let (breaks, q) ← quotedBreaks (q.rest.length + 1) [] q
    let lead := if c != '\n' then [c] else if breaks.isEmpty then [' '] else []
    return (lead ++ breaks, q)
  | some _, none => .ok (blanks, p)

/-- Reads a quoted scalar after its opening quote. -/
def scanQuoted (fuel : Nat) (quote : Char) (text : List Char) (p : Place) : Except Fault (List Char × Place) :=
  match fuel with
  | 0 => .error .malformed
  | fuel + 1 =>
    match p.head with
    | none => .error .malformed
    | some c =>
      if c == quote then
        if quote == '\'' && p.peek 1 == some '\'' then scanQuoted fuel quote (text ++ ['\'']) (p.skip 2)
        else .ok (text, p.next)
      else if quote == '"' && c == '\\' then
        match quotedEscape p.next with
        | .ok (chars, q) => scanQuoted fuel quote (text ++ chars) q
        | .error fault => .error fault
      else if isGap (some c) then
        match quotedSpace p with
        | .ok (chars, q) => scanQuoted fuel quote (text ++ chars) q
        | .error fault => .error fault
      else
        let run := p.rest.takeWhile fun c => !(isGap (some c) || c == '\'' || c == '"' || c == '\\')
        let n := max run.length 1
        scanQuoted fuel quote (text ++ p.rest.take n) (p.skip n)

/-! ## Blocks -/

/-- What becomes of the line ends at the end of a block. -/
inductive Chomping where
  | clip
  | keep
  | strip
  deriving DecidableEq

/-- The chomping and the indentation that follow the block indicator. -/
def blockHeader (p : Place) : Except Fault (Chomping × Option Nat × Place) := do
  let chomping? : Option Char → Option Chomping
    | some '+' => some .keep
    | some '-' => some .strip
    | _ => none
  let digit? : Option Char → Option Nat
    | some c => if c.isDigit then some (c.toNat - 48) else none
    | none => none
  let (chomping, increment, p) := match chomping? p.head with
    | some c =>
      let p := p.next
      match digit? p.head with
      | some d => (c, some d, p.next)
      | none => (c, none, p)
    | none =>
      match digit? p.head with
      | some d =>
        let p := p.next
        match chomping? p.head with
        | some c => (c, some d, p.next)
        | none => (.clip, some d, p)
      | none => (.clip, none, p)
  if increment == some 0 then throw .malformed
  if !(p.head == some ' ' || isLineEnd p.head) then throw .malformed
  return (chomping, increment, p)

/-- The rest of a line that may have a comment. -/
def restOfLine (p : Place) : Except Fault Place :=
  let p := p.skipWhile (· == ' ')
  let p := if p.head == some '#' then p.skipWhile fun c => !isBreak c else p
  match p.lineBreak? with
  | some (_, q) => .ok q
  | none => if p.head.isNone then .ok p else .error .malformed

/-- The empty lines in front of a block, and the widest indentation among them and the next line. -/
def blockLead (fuel : Nat) (seen : List Char) (widest : Nat) (p : Place) : List Char × Nat × Place :=
  match fuel with
  | 0 => (seen.reverse, widest, p)
  | fuel + 1 =>
    match p.lineBreak? with
    | some (c, q) => blockLead fuel (c :: seen) widest q
    | none =>
      if p.head == some ' ' then blockLead fuel seen (max widest p.next.column) p.next
      else (seen.reverse, widest, p)

/-- Up to `indent` blanks are skipped. -/
def skipIndent (fuel indent : Nat) (p : Place) : Place :=
  match fuel with
  | 0 => p
  | fuel + 1 => if p.column < indent && p.head == some ' ' then skipIndent fuel indent p.next else p

/-- The empty lines between the lines of a block. -/
def blockBreaks (fuel indent : Nat) (seen : List Char) (p : Place) : List Char × Place :=
  match fuel with
  | 0 => (seen.reverse, p)
  | fuel + 1 =>
    match p.lineBreak? with
    | some (c, q) => blockBreaks fuel indent (c :: seen) (skipIndent indent indent q)
    | none => (seen.reverse, p)

def isBlankOrTab (c : Option Char) : Bool :=
  c == some ' ' || c == some '\t'

/-- Reads the lines of a block at its indentation; returns the text, the last line end, the empty lines
after it, and the place. -/
def blockLines (fuel : Nat) (folded : Bool) (indent : Nat) (text breaks : List Char) (p : Place) :
    List Char × List Char × List Char × Place :=
  match fuel with
  | 0 => (text, [], breaks, p)
  | fuel + 1 =>
    let text := text ++ breaks
    let leads := !isBlankOrTab p.head
    let (lineText, p) := p.takeWhile fun c => !isBreak c
    let text := text ++ lineText
    let (ending, p) := match p.lineBreak? with
      | some (c, q) => ([c], q)
      | none => ([], p)
    let (breaks, p) := blockBreaks (p.rest.length + 1) indent [] (skipIndent indent indent p)
    if p.column == indent && p.head.isSome then
      let joined :=
        if folded && ending == ['\n'] && leads && !isBlankOrTab p.head then
          if breaks.isEmpty then [' '] else []
        else ending
      blockLines fuel folded indent (text ++ joined) breaks p
    else (text, ending, breaks, p)

/-- Reads a block after its indicator, inside a collection of the given indentation. -/
def scanBlock (folded : Bool) (outer : Int) (p : Place) : Except Fault (List Char × Place) := do
  let (chomping, increment, p) ← blockHeader p
  let p ← restOfLine p
  let least := (max (outer + 1) 1).toNat
  let (breaks, indent, p) := match increment with
    | none =>
      let (breaks, widest, p) := blockLead (p.rest.length + 1) [] 0 p
      (breaks, max least widest, p)
    | some n =>
      let indent := least + n - 1
      let (breaks, p) := blockBreaks (p.rest.length + 1) indent [] (skipIndent indent indent p)
      (breaks, indent, p)
  let (text, ending, breaks, p) :=
    if p.column == indent && p.head.isSome then blockLines (p.rest.length + 1) folded indent [] breaks p
    else ([], [], breaks, p)
  return (text ++ (if chomping == .strip then [] else ending) ++ (if chomping == .keep then breaks else []), p)

end JmsNaming.Yaml
