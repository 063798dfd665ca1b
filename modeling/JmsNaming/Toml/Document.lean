import JmsNaming.Toml.Scalar

/-
The value of a TOML document: statements set keys in the table that the last header named. A table is
defined once, and what a value defined on the spot cannot be extended.
-/
namespace JmsNaming.Toml

/-! ## Tables under construction -/

/-- The path of a key. -/
abbrev Path := List String

/-- What may no longer be done: tables defined by a header or a dotted key, the latter only from the
next header on, and values that are closed with all below them. -/
structure Marks where
  defined : List Path := []
  pending : List Path := []
  closed : List Path := []

namespace Marks

def isDefined (m : Marks) (path : Path) : Bool :=
  m.defined.contains path

def isClosed (m : Marks) (path : Path) : Bool :=
  m.closed.any (·.isPrefixOf path)

/-- Dotted keys count as defined from now on. -/
def settle (m : Marks) : Marks :=
  { m with defined := m.pending ++ m.defined, pending := [] }

def define (m : Marks) (path : Path) : Marks :=
  { m with defined := path :: m.defined }

def close (m : Marks) (path : Path) : Marks :=
  { m with closed := path :: m.closed }

/-- Forgets all marks at a path and below. -/
def forget (m : Marks) (path : Path) : Marks :=
  { m with defined := m.defined.filter (!path.isPrefixOf ·), closed := m.closed.filter (!path.isPrefixOf ·) }

end Marks

/-- Changes the table at a path, making tables on the way; with `intoLists` the last table of a list of
tables stands for the list. -/
def changeAt (intoLists : Bool) (change : Table → Option Table) : Path → Table → Option Table
  | [], t => change t
  | name :: path, t =>
    match Table.get? t name with
    | none => (changeAt intoLists change path []).map fun u => t.put (.text name) (.map u)
    | some (.map u) => (changeAt intoLists change path u).map fun u => t.put (.text name) (.map u)
    | some (.list items) =>
      if !intoLists then none
      else
        match items.getLast? with
        | some (.map u) =>
          (changeAt intoLists change path u).map fun u => t.put (.text name) (.list (items.dropLast ++ [.map u]))
        | _ => none
    | some _ => none

/-- Adds an entry whose key is new. -/
def addNew (name : String) (v : Value) (t : Table) : Option Table :=
  match Table.get? t name with
  | some _ => none
  | none => some (t.put (.text name) v)

/-- Adds an empty table to the list of tables under a name. -/
def addTable (name : String) (t : Table) : Option Table :=
  match Table.get? t name with
  | some (.list items) => some (t.put (.text name) (.list (items ++ [.map []])))
  | some _ => none
  | none => some (t.put (.text name) (.list [.map []]))

/-- A list or a map, which is closed once it is written. -/
def isComposite : Value → Bool
  | .scalar _ => false
  | _ => true

def required {α : Type} : Option α → Except Fault α
  | some a => .ok a
  | none => .error .malformed

/-! ## Values -/

mutual

/-- Reads a value. -/
def value : (fuel : Nat) → List Char → Except Fault (Value × List Char)
  | 0, _ => .error .malformed
  | fuel + 1, s =>
    match s with
    | '"' :: '"' :: '"' :: rest => (lines '"' rest).map fun p => (.text (String.ofList p.1), p.2)
    | '"' :: rest => (basic (rest.length + 1) false [] rest).map fun p => (.text (String.ofList p.1), p.2)
    | '\'' :: '\'' :: '\'' :: rest => (lines '\'' rest).map fun p => (.text (String.ofList p.1), p.2)
    | '\'' :: rest => (literal rest).map fun p => (.text (String.ofList p.1), p.2)
    | 't' :: 'r' :: 'u' :: 'e' :: rest => .ok (.bool true, rest)
    | 'f' :: 'a' :: 'l' :: 's' :: 'e' :: rest => .ok (.bool false, rest)
    | '[' :: rest => items fuel [] rest
    | '\x7b' :: rest =>
      match skipGaps rest with
      | '\x7d' :: rest => .ok (.map [], rest)
      | rest => entries fuel {} [] rest
    | _ => (numberOrMoment s).map fun p => (.scalar p.1, p.2)

/-- Reads the items of a list up to its end; `seen` are those before, last first. -/
def items : (fuel : Nat) → (seen : List Value) → List Char → Except Fault (Value × List Char)
  | 0, _, _ => .error .malformed
  | fuel + 1, seen, s => do
    match ← skipSpace (s.length + 1) s with
    | ']' :: rest => return (.list seen.reverse, rest)
    | s =>
      let (v, rest) ← value fuel s
      match ← skipSpace (rest.length + 1) rest with
      | ']' :: rest => return (.list (v :: seen).reverse, rest)
      | ',' :: rest => items fuel (v :: seen) rest
      | _ => throw .malformed

/-- Reads the entries of a table on one line up to its end. -/
def entries : (fuel : Nat) → Marks → Table → List Char → Except Fault (Value × List Char)
  | 0, _, _, _ => .error .malformed
  | fuel + 1, marks, t, s => do
    let (path, rest) ← key (s.length + 1) s
    match rest with
    | '=' :: rest =>
      let (v, rest) ← value fuel (skipGaps rest)
      if marks.isClosed path then throw .malformed
      let t ← required (changeAt false (addNew (path.getLastD "") v) path.dropLast t)
      match skipGaps rest with
      | '\x7d' :: rest => return (.map t, rest)
      | ',' :: rest => entries fuel (if isComposite v then marks.close path else marks) t (skipGaps rest)
      | _ => throw .malformed
    | _ => throw .malformed

end

/-! ## Statements -/

/-- A document under construction: the tree, the marks, and the path of the last header. -/
structure Draft where
  tree : Table := []
  marks : Marks := {}
  header : Path := []

/-- A header of a table. -/
def tableHeader (d : Draft) (s : List Char) : Except Fault (Draft × List Char) := do
  let (path, rest) ← key (s.length + 1) (skipGaps s)
  let marks := d.marks.settle
  if marks.isDefined path || marks.isClosed path then throw .malformed
  let tree ← required (changeAt true some path d.tree)
  match rest with
  | ']' :: rest => return ({ tree, marks := marks.define path, header := path }, rest)
  | _ => throw .malformed

/-- A header of a further table of a list. -/
def listHeader (d : Draft) (s : List Char) : Except Fault (Draft × List Char) := do
  let (path, rest) ← key (s.length + 1) (skipGaps s)
  let marks := d.marks.settle
  if marks.isClosed path then throw .malformed
  let tree ← required (changeAt true (addTable (path.getLastD "")) path.dropLast d.tree)
  match rest with
  | ']' :: ']' :: rest => return ({ tree, marks := (marks.forget path).define path, header := path }, rest)
  | _ => throw .malformed

/-- The paths that a dotted key opens below the header: all its beginnings but itself. -/
def openedPaths (header path : Path) : List Path :=
  (List.range (path.length - 1)).map fun i => header ++ path.take (i + 1)

/-- A key and its value. -/
def keyValue (d : Draft) (s : List Char) : Except Fault (Draft × List Char) := do
  let (path, rest) ← key (s.length + 1) s
  match rest with
  | '=' :: rest =>
    let (v, rest) ← value (rest.length + 1) (skipGaps rest)
    let opened := openedPaths d.header path
    let parent := d.header ++ path.dropLast
    if opened.any d.marks.isDefined || d.marks.isClosed parent then throw .malformed
    let tree ← required (changeAt true (addNew (path.getLastD "") v) parent d.tree)
    let marks := { d.marks with pending := opened ++ d.marks.pending }
    let marks := if isComposite v then marks.close (d.header ++ path) else marks
    return ({ d with tree, marks }, rest)
  | _ => throw .malformed

/-- Reads the statements of a document, one a line. -/
def statements (fuel : Nat) (d : Draft) (s : List Char) : Except Fault Table :=
  match fuel with
  | 0 => .error .malformed
  | fuel + 1 => do
    match skipGaps s with
    | [] => return d.tree
    | '\n' :: rest => statements fuel d rest
    | c :: rest =>
      let (d, rest) ←
        if c == '[' then
          match rest with
          | '[' :: rest => listHeader d rest
          | _ => tableHeader d rest
        else if isBareKeyChar c || c == '"' || c == '\'' then keyValue d (c :: rest)
        else if c == '#' then pure (d, c :: rest)
        else throw .malformed
      match ← skipComment (skipGaps rest) with
      | [] => return d.tree
      | '\n' :: rest => statements fuel d rest
      | _ => throw .malformed

/-- Reads a document. A line end of two characters counts as one. -/
def document (text : List Char) : Except Fault Value := do
  let rec unified : List Char → List Char
    | '\r' :: '\n' :: rest => '\n' :: unified rest
    | c :: rest => c :: unified rest
    | [] => []
  let s := unified text
  return .map (← statements (s.length + 1) {} s)

end JmsNaming.Toml
