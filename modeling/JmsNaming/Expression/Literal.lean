import JmsNaming.Expression.Grammar

/-
Literals: numbers, texts, constants, and tuples, sets and dictionaries of literals. Only what a literal
may be part of is worked out, for a set or a dictionary can be no member of a set and no key.
-/
namespace JmsNaming.Expression

/-- What a literal is, as far as another literal may hold it. -/
inductive Literal where
  | real
  | complex
  /-- Anything else; a container in it may forbid it as a member or a key. -/
  | other (container : Option Container)

namespace Literal

/-- The container that forbids the literal as a member of a set and as a key. -/
def container? : Literal → Option Container
  | other c => c
  | _ => none

/-- The literal as a member of a set or as a key. -/
def hashed (l : Literal) : Except LiteralFault Unit :=
  match l.container? with
  | some c => .error (.unhashable c)
  | none => .ok ()

end Literal

namespace Part

/-- The first token of a part. -/
def first? : Part → Option Token
  | .leaf t => some t
  | .node _ ps => firstIn? ps
where
  firstIn? : List Part → Option Token
    | [] => none
    | p :: ps => (first? p).or (firstIn? ps)

/-- The fault of a part that is no literal. -/
def noLiteral (p : Part) : LiteralFault :=
  .noLiteral (p.first?.elim 1 (·.line))

/-- The number that a part is, without a sign. -/
def unsigned (p : Part) : Except LiteralFault Literal :=
  match p.inner with
  | .leaf t =>
    match t.kind with
    | .whole _ => .ok .real
    | .real => .ok .real
    | .imaginary => .ok .complex
    | _ => .error (.noLiteral t.line)
  | q => .error q.noLiteral

/-- The number that a part is, after at most one sign. -/
def signed (p : Part) : Except LiteralFault Literal :=
  match p.inner with
  | .node .factor [sign, q] =>
    if isToken (.mark "+") sign || isToken (.mark "-") sign then unsigned q
    else .error (noLiteral (.node .factor [sign, q]))
  | q => unsigned q

/-- The literal that a token is. -/
def tokenLiteral? (t : Token) : Option Literal :=
  match t.kind with
  | .whole _ => some .real
  | .real => some .real
  | .imaginary => some .complex
  | .text letters _ => if Expression.isFormatted letters then none else some (.other none)
  | .mark _ => some (.other none)
  | .word s => if s = "True" || s = "False" || s = "None" then some (.other none) else none
  | _ => none

mutual

/-- The literal that a part is. -/
def literal : Part → Except LiteralFault Literal
  | .leaf t => (tokenLiteral? t).elim (.error (.noLiteral t.line)) .ok
  | .node _ [p] => literal p
  | .node .group [_, p, _] => literal p
  | .node .texts ps =>
    if ps.any isFormatted then .error (noLiteral (.node .texts ps)) else .ok (.other none)
  | .node .tuple ps => (members ps).map .other
  | .node .expressions ps => (members ps).map .other
  | .node .whole (p :: _) => literal p
  | .node .set ps => do
    distinct ps
    return .other (some .set)
  | .node .dict ps => do
    entries ps
    return .other (some .dict)
  | .node .primary [f, .node .call [_, _]] =>
    if name? f = some "set" then .ok (.other (some .set)) else .error (noLiteral f)
  | .node .sum [a, sign, b] => do
    match ← signed a, ← unsigned b with
    | .real, .complex => return .complex
    | _, _ => throw (noLiteral (.node .sum [a, sign, b]))
  | .node phrase ps => signed (.node phrase ps)

/-- The members of a tuple: the first container that forbids it as a member or a key. -/
def members : List Part → Except LiteralFault (Option Container)
  | [] => .ok none
  | .leaf _ :: ps => members ps
  | .node .items qs :: ps => do
    let c ← members qs
    let d ← members ps
    return c.or d
  | p :: ps => do
    let l ← literal p
    let c ← members ps
    return l.container?.or c

/-- The members of a set. -/
def distinct : List Part → Except LiteralFault Unit
  | [] => .ok ()
  | .leaf _ :: ps => distinct ps
  | .node .items qs :: ps => do
    distinct qs
    distinct ps
  | p :: ps => do
    let l ← literal p
    l.hashed
    distinct ps

/-- The entries of a dictionary. -/
def entries : List Part → Except LiteralFault Unit
  | [] => .ok ()
  | .leaf _ :: ps => entries ps
  | .node .entries qs :: ps => do
    entries qs
    entries ps
  | .node .entry [.node .pair [key, _, value]] :: ps => do
    let l ← literal key
    let _ ← literal value
    l.hashed
    entries ps
  | _ :: _ => .error .unpacked

end

end Part

/-- Why a text is no literal. -/
inductive Fault where
  | form (fault : SyntaxFault)
  | value (fault : LiteralFault)
  deriving DecidableEq

def Fault.message : Fault → String
  | form fault => fault.message
  | value fault => fault.message

/-- Reads a text as a literal. -/
def readLiteral (s : List Char) : Except Fault Literal :=
  if s.contains (Char.ofNat 0) then .error (.value .null)
  else
    match parse s with
    | .error fault => .error (.form fault)
    | .ok p => (Part.literal p).mapError .value

end JmsNaming.Expression
