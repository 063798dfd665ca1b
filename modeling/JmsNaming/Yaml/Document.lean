import JmsNaming.Yaml.Node

/-
The value of a YAML document. A mapping may take over the entries of others through merge keys; its
own entries go before those, and a repeated key takes its last value.
-/
namespace JmsNaming.Yaml

/-! ## Merge keys -/

mutual

/-- The entries of a mapping: those taken over, and its own. -/
def splitEntries : List (Node × Node) → Except Fault (List (Node × Node) × List (Node × Node))
  | [] => .ok ([], [])
  | (.scalar .merge _, value) :: rest => do
    let taken ← takenEntries value
    let (more, own) ← splitEntries rest
    return (taken ++ more, own)
  | (.scalar .equals text, value) :: rest => do
    let (taken, own) ← splitEntries rest
    return (taken, (.scalar .text text, value) :: own)
  | (key, value) :: rest => do
    let (taken, own) ← splitEntries rest
    return (taken, (key, value) :: own)

/-- The entries that a merge key takes over from a mapping or from several, the first of which counts
most. -/
def takenEntries : Node → Except Fault (List (Node × Node))
  | .mapping _ entries => do
    let (taken, own) ← splitEntries entries
    return taken ++ own
  | .sequence _ items => takenFromAll items
  | .scalar _ _ => .error .malformed

/-- The entries of mappings, the last mapping's first. -/
def takenFromAll : List Node → Except Fault (List (Node × Node))
  | [] => .ok []
  | .mapping _ entries :: rest => do
    let (taken, own) ← splitEntries entries
    let more ← takenFromAll rest
    return more ++ taken ++ own
  | _ :: _ => .error .malformed

end

/-! ## Values -/

/-- Puts an entry into a map whose key must be a scalar. -/
def putEntry (t : Table) (key value : Value) : Except Fault Table :=
  match key with
  | .scalar k => .ok (t.put k value)
  | _ => .error .malformed

/-- The value of a node, whose nesting `fuel` bounds. -/
def valueOf : (fuel : Nat) → Node → Except Fault Value
  | 0, _ => .error .malformed
  | fuel + 1, node =>
    match node with
    | .scalar kind text => (scalarValue kind text).map .scalar
    | .sequence kind items =>
      if kind == .sequence then (items.mapM (valueOf fuel)).map .list else .error .malformed
    | .mapping kind entries =>
      if kind != .mapping then .error .malformed
      else do
        let (taken, own) ← splitEntries entries
        let table ← (taken ++ own).foldlM (fun t e => do
          let key ← valueOf fuel e.1
          let value ← valueOf fuel e.2
          putEntry t key value) []
        return .map table

/-- Reads the only document of a text. Line ends of two characters or of another system count as one. -/
def document (text : List Char) : Except Fault Value := do
  let rec unified : List Char → List Char
    | '\r' :: '\n' :: rest => '\n' :: unified rest
    | '\r' :: rest => '\n' :: unified rest
    | c :: rest => c :: unified rest
    | [] => []
  let tokens ← Token.scan (unified text)
  valueOf (tokens.length + 2) (← Node.ofTokens tokens)

end JmsNaming.Yaml
