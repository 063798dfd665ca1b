import JmsNaming.Expression.Token
import Std.Data.HashMap

/-
Rules of a grammar, and reading the tokens of a text by them. Of the alternatives of a rule the first
that fits is taken, and a rule is tried only once at each token. A grammar also has rules that fit what
is wrong; they are tried when a text is read once more to find out why it could not be read.
-/
namespace JmsNaming.Expression

/-! ## Rules -/

/-- What a token may be. -/
inductive Pattern where
  | name
  /-- A name that is a keyword elsewhere. -/
  | softKeyword
  | keyword (s : String)
  | mark (s : String)
  | number
  | text
  | lineEnd
  | finish

/-- The words that are no names. -/
def keywords : List String :=
  ["False", "None", "True", "and", "as", "assert", "async", "await", "break", "class", "continue", "def", "del",
    "elif", "else", "except", "finally", "for", "from", "global", "if", "import", "in", "is", "lambda", "nonlocal",
    "not", "or", "pass", "raise", "return", "try", "while", "with", "yield"]

def Pattern.fits : Pattern → Token.Kind → Bool
  | name, .word s => !keywords.contains s
  | softKeyword, .word s => s = "_" || s = "case" || s = "match"
  | keyword s, .word t => s = t
  | mark s, .mark t => s = t
  | number, .whole _ => true
  | number, .real => true
  | number, .imaginary => true
  | text, .text _ _ => true
  | lineEnd, .lineEnd => true
  | finish, .finish => true
  | _, _ => false

/-- What was read: a token, or the parts that a rule found. -/
inductive Tree (σ : Type) where
  | leaf (token : Token)
  | node (rule : σ) (parts : List (Tree σ))

/-- What a rule says; `σ` names the rules. -/
inductive Rule (σ : Type) where
  | token (pattern : Pattern)
  | named (name : σ)
  | seq (rules : List (Rule σ))
  /-- The first that fits. -/
  | first (rules : List (Rule σ))
  | many (rule : Rule σ)
  /-- The rule fits here, but nothing is read. -/
  | ahead (rule : Rule σ)
  /-- The rule does not fit here. -/
  | notAhead (rule : Rule σ)
  /-- What fits `lead` goes on as `rest`; only what does not may be `other`. -/
  | committed (lead rest other : Rule σ)
  /-- What fits may still be at fault. -/
  | check (rule : Rule σ) (fault : List (Tree σ) → Option SyntaxFault)
  /-- Tried only where faults are looked for. -/
  | diagnosis (rule : Rule σ)
  /-- What fits is at fault, or else no later alternative is tried. -/
  | refuse (rule : Rule σ) (fault : List (Tree σ) → Option SyntaxFault)
  /-- The rule without looking for faults. -/
  | plainly (rule : Rule σ)

namespace Rule

variable {σ : Type}

def optional (r : Rule σ) : Rule σ :=
  first [r, seq []]

def some (r : Rule σ) : Rule σ :=
  seq [r, many r]

/-- One or more with a separator between them. -/
def separated (separator r : Rule σ) : Rule σ :=
  seq [r, many (seq [separator, r])]

end Rule

/-! ## Grammars -/

/-- A rule for each name. A rule that is shared is tried once at a token, whether faults are looked for
or not. -/
structure Grammar (σ : Type) where
  rule : σ → Rule σ
  isShared : σ → Bool

/-- What a rule reads at a token, if it fits: the parts, and the next token. -/
abbrev Outcome (σ : Type) := Option (List (Tree σ) × Nat)

/-- What is known of a text: the outcomes of rules at tokens, and the furthest token looked at. -/
structure Knowledge (σ : Type) [BEq σ] [Hashable σ] where
  outcomes : Std.HashMap (σ × Nat × Bool) (Outcome σ) := {}
  reached : Nat := 0

abbrev Reading (σ : Type) [BEq σ] [Hashable σ] :=
  ExceptT SyntaxFault (StateM (Knowledge σ))

variable {σ : Type} [BEq σ] [Hashable σ]

/-- The token at an index. -/
def Source.token (source : Source) (index : Nat) : Reading σ Token := do
  modify fun k => { k with reached := max k.reached index }
  match source.tokens[index]?, source.ending with
  | .some t, _ => return t
  | none, .complete => return { kind := .finish, line := 0, depth := 0 }
  | none, .broken fault _ => throw fault

/-- Reads by a rule from an index on. -/
def Grammar.read (g : Grammar σ) (source : Source) :
    (fuel : Nat) → (diagnosing : Bool) → Rule σ → Nat → Reading σ (Outcome σ)
  | 0, _, _, _ => return none
  | fuel + 1, d, rule, i =>
    match rule with
    | .token pattern => do
      let t ← source.token i
      return if pattern.fits t.kind then .some ([.leaf t], i + 1) else none
    | .named name => do
      let key := (name, i, d && !g.isShared name)
      match (← get).outcomes[key]? with
      | .some outcome => return outcome
      | none =>
        let outcome := (← g.read source fuel d (g.rule name) i).map fun r => ([.node name r.1], r.2)
        modify fun k => { k with outcomes := k.outcomes.insert key outcome }
        return outcome
    | .seq [] => return .some ([], i)
    | .seq (r :: rs) => do
      let .some (parts, j) ← g.read source fuel d r i | return none
      let .some (rest, k) ← g.read source fuel d (.seq rs) j | return none
      return .some (parts ++ rest, k)
    | .first [] => return none
    | .first (.refuse r fault :: rs) => do
      let .some (parts, _) ← g.read source fuel d r i | g.read source fuel d (.first rs) i
      match fault parts with
      | .some f => throw f
      | none => return none
    | .first (r :: rs) => do
      let .some outcome ← g.read source fuel d r i | g.read source fuel d (.first rs) i
      return .some outcome
    | .many r => do
      let .some (parts, j) ← g.read source fuel d r i | return .some ([], i)
      if j = i then return .some (parts, i)
      let .some (rest, k) ← g.read source fuel d (.many r) j | return .some (parts, j)
      return .some (parts ++ rest, k)
    | .ahead r => return (← g.read source fuel d r i).map fun _ => ([], i)
    | .notAhead r => return if (← g.read source fuel d r i).isSome then none else .some ([], i)
    | .committed lead rest other => do
      let .some (parts, j) ← g.read source fuel d lead i | g.read source fuel d other i
      return (← g.read source fuel d rest j).map fun r => (parts ++ r.1, r.2)
    | .check r fault => do
      let .some (parts, j) ← g.read source fuel d r i | return none
      match fault parts with
      | .some f => throw f
      | none => return .some (parts, j)
    | .diagnosis r => if d then g.read source fuel d r i else return none
    | .refuse r fault => do
      let .some (parts, _) ← g.read source fuel d r i | return none
      match fault parts with
      | .some f => throw f
      | none => return none
    | .plainly r => g.read source fuel false r i

/-- Recursion this deep is enough for any text of so many tokens. -/
def depthFor (tokens : Nat) : Nat :=
  400 * (tokens + 2)

/-- A fault, unless a bracket on a line before the furthest token is still open. -/
def Source.weigh (source : Source) (reached : Nat) (fault : SyntaxFault) : SyntaxFault :=
  match source.ending, source.tokens[reached]? with
  | .broken _ (.some (bracket, line)), .some t => if line < t.line then .unclosed bracket else fault
  | _, _ => fault

/-- A fault that a rule found. It stands where the end of the text was seen. -/
def Source.weighFound (source : Source) (reached : Nat) (fault : SyntaxFault) : SyntaxFault :=
  if reached < source.early then source.weigh reached fault else fault

/-- Reads all tokens by a rule, or finds out why they cannot be read. -/
def Grammar.tree (g : Grammar σ) (start : σ) (source : Source) : Except SyntaxFault (Tree σ) :=
  let attempt (diagnosing : Bool) :=
    ((g.read source (depthFor source.tokens.size) diagnosing (.named start) 0).run.run {} :
      Except SyntaxFault (Outcome σ) × Knowledge σ)
  match attempt false with
  | (.error fault, k) => .error (source.weighFound k.reached fault)
  | (.ok (.some ([t], _)), _) => .ok t
  | (.ok _, k) =>
    match attempt true with
    | (.error fault, k) => .error (source.weighFound k.reached fault)
    | (.ok _, again) =>
      match source.tokens[k.reached]? with
      | .some { kind := .indent, .. } => .error .indented
      | _ => .error (source.weigh again.reached .invalid)

end JmsNaming.Expression
