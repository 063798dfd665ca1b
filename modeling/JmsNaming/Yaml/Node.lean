import JmsNaming.Yaml.Plain
import JmsNaming.Yaml.Token

/-
The nodes of a YAML text: scalars, sequences and mappings with their kinds, read from tokens. An
alias is replaced by the node that has its name.
-/
namespace JmsNaming.Yaml

inductive Node where
  | scalar (kind : Kind) (text : List Char)
  | sequence (kind : Kind) (items : List Node)
  | mapping (kind : Kind) (entries : List (Node × Node))

namespace Node

/-- The node that stands where nothing is written. -/
def empty : Node := .scalar .null []

/-- What is read from: the tokens left, the nodes with names, and the meanings of tag handles. -/
structure Reading where
  tokens : List Token
  anchors : List (List Char × Node) := []
  handles : List (List Char × List Char)

/-- A node and what is left to read. -/
abbrev Result := Except Fault (Node × Reading)

def Reading.next (r : Reading) : Reading :=
  { r with tokens := r.tokens.drop 1 }

def Reading.head (r : Reading) : Option Token :=
  r.tokens.head?

/-- The next token is one of some. -/
def Reading.at (r : Reading) (tokens : List Token) : Bool :=
  match r.head with
  | some t => tokens.contains t
  | none => true

/-! ## Properties -/

/-- The name and the tag before a node. -/
structure Properties where
  anchor : Option (List Char) := none
  tag : Option (List Char) := none

/-- The full form of a tag. -/
def fullTag (r : Reading) (handle : Option (List Char)) (suffix : List Char) : Except Fault (List Char) :=
  match handle with
  | none => .ok suffix
  | some h =>
    match r.handles.find? (·.1 == h) with
    | some (_, lead) => .ok (lead ++ suffix)
    | none => .error .malformed

/-- Reads a name and a tag, in either order. -/
def properties (r : Reading) : Except Fault (Properties × Reading) := do
  match r.tokens with
  | .anchor a :: .tag h s :: _ => return ({ anchor := a, tag := ← fullTag r h s }, r.next.next)
  | .tag h s :: .anchor a :: _ => return ({ anchor := a, tag := ← fullTag r h s }, r.next.next)
  | .anchor a :: _ => return ({ anchor := a }, r.next)
  | .tag h s :: _ => return ({ tag := ← fullTag r h s }, r.next)
  | _ => return ({}, r)

/-- The tag is given and is more than an exclamation mark. -/
def Properties.explicit? (p : Properties) : Option (List Char) :=
  match p.tag with
  | some ['!'] => none
  | t => t

def Properties.kindOr (p : Properties) (default : Kind) : Kind :=
  match p.explicit? with
  | some tag => .ofTag tag
  | none => default

/-- Notes the node under its name, which must be new. -/
def register (p : Properties) (node : Node) (r : Reading) : Result :=
  match p.anchor with
  | none => .ok (node, r)
  | some a =>
    if r.anchors.any (·.1 == a) then .error .malformed
    else .ok (node, { r with anchors := (a, node) :: r.anchors })

/-! ## Nodes -/

mutual

/-- Reads a node. In block context it may be a block collection, or, as the value of a key, a sequence
that is not indented. -/
def read : (fuel : Nat) → (block indentless : Bool) → Reading → Result
  | 0, _, _, _ => .error .malformed
  | fuel + 1, block, indentless, r => do
    match r.head with
    | some (.alias name) =>
      match r.anchors.find? (·.1 == name) with
      | some (_, node) => return (node, r.next)
      | none => throw .malformed
    | _ =>
      let (p, r) ← properties r
      match r.head with
      | some .blockEntry =>
        if indentless then
          let (items, r) ← indentlessItems fuel [] r
          register p (.sequence (p.kindOr .sequence) items) r
        else if p.anchor.isSome || p.tag.isSome then register p (.scalar (p.kindOr .null) []) r
        else throw .malformed
      | some (.scalar text plain) =>
        let implicit := if (plain && p.tag.isNone) || p.tag == some ['!'] then Kind.ofPlain text else .text
        register p (.scalar (p.kindOr implicit) text) r.next
      | some .flowSequence =>
        let (items, r) ← flowItems fuel [] r.next
        register p (.sequence (p.kindOr .sequence) items) r
      | some .flowMapping =>
        let (entries, r) ← flowEntries fuel [] r.next
        register p (.mapping (p.kindOr .mapping) entries) r
      | t =>
        if block && t == some .blockSequence then
          let (items, r) ← blockItems fuel [] r.next
          register p (.sequence (p.kindOr .sequence) items) r
        else if block && t == some .blockMapping then
          let (entries, r) ← blockEntries fuel [] r.next
          register p (.mapping (p.kindOr .mapping) entries) r
        else if p.anchor.isSome || p.tag.isSome then register p (.scalar (p.kindOr .null) []) r
        else throw .malformed

/-- Reads the items of a block sequence; `seen` are those before, last first. -/
def blockItems : (fuel : Nat) → (seen : List Node) → Reading → Except Fault (List Node × Reading)
  | 0, _, _ => .error .malformed
  | fuel + 1, seen, r =>
    match r.head with
    | some .blockEntry => do
      let r := r.next
      if r.at [.blockEntry, .blockEnd] then blockItems fuel (empty :: seen) r
      else
        let (node, r) ← read fuel true false r
        blockItems fuel (node :: seen) r
    | some .blockEnd => .ok (seen.reverse, r.next)
    | _ => .error .malformed

/-- Reads the items of a sequence that is indented like the key before it. -/
def indentlessItems : (fuel : Nat) → (seen : List Node) → Reading → Except Fault (List Node × Reading)
  | 0, _, _ => .error .malformed
  | fuel + 1, seen, r =>
    match r.head with
    | some .blockEntry => do
      let r := r.next
      if r.at [.blockEntry, .key, .value, .blockEnd] then indentlessItems fuel (empty :: seen) r
      else
        let (node, r) ← read fuel true false r
        indentlessItems fuel (node :: seen) r
    | _ => .ok (seen.reverse, r)

/-- Reads the entries of a block mapping. -/
def blockEntries : (fuel : Nat) → (seen : List (Node × Node)) → Reading →
    Except Fault (List (Node × Node) × Reading)
  | 0, _, _ => .error .malformed
  | fuel + 1, seen, r =>
    match r.head with
    | some .key => do
      let r := r.next
      let (key, r) ← if r.at [.key, .value, .blockEnd] then pure (empty, r) else read fuel true true r
      if r.head == some .value then
        let r := r.next
        let (value, r) ← if r.at [.key, .value, .blockEnd] then pure (empty, r) else read fuel true true r
        blockEntries fuel ((key, value) :: seen) r
      else blockEntries fuel ((key, empty) :: seen) r
    | some .blockEnd => .ok (seen.reverse, r.next)
    | _ => .error .malformed

/-- Reads the items of a flow sequence; an item may be a single entry of a mapping. -/
def flowItems : (fuel : Nat) → (seen : List Node) → Reading → Except Fault (List Node × Reading)
  | 0, _, _ => .error .malformed
  | fuel + 1, seen, r => do
    if r.head == some .flowSequenceEnd then return (seen.reverse, r.next)
    let r ← if seen.isEmpty then pure r else if r.head == some .flowEntry then pure r.next else throw .malformed
    match r.head with
    | some .key =>
      let r := r.next
      let (key, r) ← if r.at [.value, .flowEntry, .flowSequenceEnd] then pure (empty, r) else read fuel false false r
      let (value, r) ←
        if r.head == some .value then
          let r := r.next
          if r.at [.flowEntry, .flowSequenceEnd] then pure (empty, r) else read fuel false false r
        else pure (empty, r)
      flowItems fuel (.mapping .mapping [(key, value)] :: seen) r
    | some .flowSequenceEnd => return (seen.reverse, r.next)
    | _ =>
      let (node, r) ← read fuel false false r
      flowItems fuel (node :: seen) r

/-- Reads the entries of a flow mapping; a value may be missing. -/
def flowEntries : (fuel : Nat) → (seen : List (Node × Node)) → Reading →
    Except Fault (List (Node × Node) × Reading)
  | 0, _, _ => .error .malformed
  | fuel + 1, seen, r => do
    if r.head == some .flowMappingEnd then return (seen.reverse, r.next)
    let r ← if seen.isEmpty then pure r else if r.head == some .flowEntry then pure r.next else throw .malformed
    match r.head with
    | some .key =>
      let r := r.next
      let (key, r) ← if r.at [.value, .flowEntry, .flowMappingEnd] then pure (empty, r) else read fuel false false r
      let (value, r) ←
        if r.head == some .value then
          let r := r.next
          if r.at [.flowEntry, .flowMappingEnd] then pure (empty, r) else read fuel false false r
        else pure (empty, r)
      flowEntries fuel ((key, value) :: seen) r
    | some .flowMappingEnd => return (seen.reverse, r.next)
    | _ =>
      let (node, r) ← read fuel false false r
      flowEntries fuel ((node, empty) :: seen) r

end

/-! ## Documents -/

/-- Reads the directives before a document: at most one version, of the first major one, and handles
that are each declared once. -/
def directives (versioned : Bool) (declared : List (List Char × List Char)) : List Token →
    Except Fault (List (List Char × List Char) × List Token)
  | .version major :: rest =>
    if versioned || major != 1 then .error .malformed else directives true declared rest
  | .tagHandle handle lead :: rest =>
    if declared.any (·.1 == handle) then .error .malformed else directives versioned ((handle, lead) :: declared) rest
  | .otherDirective :: rest => directives versioned declared rest
  | tokens => .ok (declared, tokens)

/-- The handles that need no declaration. -/
def defaultHandles : List (List Char × List Char) :=
  [(['!'], ['!']), (['!', '!'], "tag:yaml.org,2002:".toList)]

/-- After a document only marks of its end may follow. -/
def atEnd (tokens : List Token) : Bool :=
  tokens.dropWhile (· == .documentEnd) == [.streamEnd]

/-- Reads the only document of a text from its tokens; there may be none. -/
def ofTokens (tokens : List Token) : Except Fault Node := do
  let fuel := 4 * tokens.length + 8
  let explicit := match tokens.head? with
    | some (.version _) | some (.tagHandle _ _) | some .otherDirective | some .documentStart => true
    | _ => false
  if tokens == [.streamEnd] then return empty
  let (handles, rest) ← if explicit then directives false [] tokens else pure ([], tokens)
  let handles := handles ++ defaultHandles
  let (node, rest) ←
    if explicit then
      match rest with
      | .documentStart :: rest =>
        match rest.head? with
        | some (.version _) | some (.tagHandle _ _) | some .otherDirective | some .documentStart
        | some .documentEnd | some .streamEnd => pure (empty, rest)
        | _ => (read fuel true false { tokens := rest, handles }).map fun p => (p.1, p.2.tokens)
      | _ => throw .malformed
    else (read fuel true false { tokens := rest, handles }).map fun p => (p.1, p.2.tokens)
  if atEnd rest then return node else throw .malformed

end Node

end JmsNaming.Yaml
