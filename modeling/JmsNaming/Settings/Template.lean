import JmsNaming.Settings.Tree

/-
Texts with placeholders. A placeholder is a dollar sign and a non-empty name in braces; it stands
for an environment variable, else for a value of the settings, whose own placeholders are replaced
in turn, else for the default after the first colon.
-/
namespace JmsNaming

/-- The environment variables of the process. -/
abbrev Variables := List (String × String)

def Variables.get? (vars : Variables) (name : String) : Option String :=
  (vars.find? (·.1 == name)).map (·.2)

namespace Template

/-! ## Pieces -/

/-- A character of the text, or a placeholder with what stands between its braces. -/
inductive Piece where
  | char (c : Char)
  | placeholder (inner : List Char)
  deriving DecidableEq

/-- The closing brace of a placeholder. -/
def closing : Char := '\x7d'

/-- The pieces of a text from left to right. -/
def pieces : List Char → List Piece
  | [] => []
  | '$' :: '\x7b' :: rest =>
    if (rest.takeWhile (· != closing)).isEmpty || (rest.dropWhile (· != closing)).isEmpty then
      .char '$' :: pieces ('\x7b' :: rest)
    else .placeholder (rest.takeWhile (· != closing)) :: pieces ((rest.dropWhile (· != closing)).drop 1)
  | c :: rest => .char c :: pieces rest
  termination_by s => s.length
  decreasing_by
    all_goals simp
    have := (List.dropWhile_sublist (p := (· != closing)) (l := rest)).length_le
    omega

/-- The text may have placeholders: an opening brace follows a dollar sign. -/
def opens : List Char → Bool
  | '$' :: '\x7b' :: _ => true
  | _ :: rest => opens rest
  | [] => false

/-! ## Expansion -/

/-- Why a text cannot be expanded. -/
inductive Fault where
  /-- Neither a variable nor a setting nor a default. -/
  | unresolved (inner : String)
  /-- A chain of references that is too long, and the text at its end. -/
  | tooDeep (text : String)
  /-- A value that a placeholder stands for has no text. -/
  | unwritable (fault : Number.Unwritable)
  deriving DecidableEq

def Fault.message : Fault → String
  | unresolved inner => "Cannot resolve placeholder '$\x7b" ++ inner ++ "\x7d': not found in environment or config"
  | tooDeep text => "Max recursion depth exceeded resolving placeholders in '" ++ text ++
      "'. Check for circular references."
  | unwritable fault => fault.message

/-- The name in a placeholder and the default after the first colon. -/
def nameAndDefault (inner : List Char) : List Char × Option (List Char) :=
  match Text.cut? ':' inner with
  | some (name, default) => (name, some default)
  | none => (inner, none)

/-- The number of texts in the longest chain of references that is expanded. -/
def maxDepth : Nat := 11

/-- What a placeholder stands for; `follow` expands the text of a setting. -/
def replace (root : Value) (vars : Variables) (follow : String → Except Fault String) (inner : List Char) :
    Except Fault String :=
  let parts := nameAndDefault inner
  let name := String.ofList parts.1
  match vars.get? name with
  | some value => .ok value
  | none =>
    match Tree.valueAt? root (Text.segments name) with
    | some v =>
      match v.toText with
      | .ok text => if opens text.toList then follow text else .ok text
      | .error fault => .error (.unwritable fault)
    | none =>
      match parts.2 with
      | some default => .ok (String.ofList default)
      | none => .error (.unresolved (String.ofList inner))

/-- The pieces with each placeholder replaced, up to the first that cannot be. -/
def fill (replace : List Char → Except Fault String) : List Piece → Except Fault (List Char)
  | [] => .ok []
  | .char c :: rest => (fill replace rest).map (c :: ·)
  | .placeholder inner :: rest =>
    match replace inner with
    | .ok value => (fill replace rest).map (value.toList ++ ·)
    | .error fault => .error fault

/-- The text with its placeholders replaced, where chains of references may have `depth` texts. -/
def expandTo (root : Value) (vars : Variables) : (depth : Nat) → String → Except Fault String
  | 0, text => .error (.tooDeep text)
  | depth + 1, text =>
    (fill (replace root vars (expandTo root vars depth)) (pieces text.toList)).map String.ofList

/-- The text with its placeholders replaced. -/
def expand (root : Value) (vars : Variables) (text : String) : Except Fault String :=
  expandTo root vars maxDepth text

/-- The text itself if it can have no placeholder, otherwise its expansion. -/
def resolveText (root : Value) (vars : Variables) (text : String) : Except Fault String :=
  if opens text.toList then expand root vars text else .ok text

mutual

/-- The value with its texts expanded, also those in maps at any depth; lists stay as they are. -/
def resolveValue (root : Value) (vars : Variables) : Value → Except Fault Value
  | .scalar (.text s) => (resolveText root vars s).map .text
  | .scalar s => .ok (.scalar s)
  | .list items => .ok (.list items)
  | .map entries => (resolveEntries root vars entries).map .map

/-- The entries with their values resolved, up to the first that cannot be. -/
def resolveEntries (root : Value) (vars : Variables) : List (Scalar × Value) → Except Fault (List (Scalar × Value))
  | [] => .ok []
  | (k, v) :: rest =>
    match resolveValue root vars v with
    | .ok w => (resolveEntries root vars rest).map ((k, w) :: ·)
    | .error fault => .error fault

end

end Template

end JmsNaming
