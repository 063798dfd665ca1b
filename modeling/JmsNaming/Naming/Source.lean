import JmsNaming.Naming.Failure
import JmsNaming.Naming.Reference
import JmsNaming.Text.Case

/-
Property sources: the one origin that a resolution reads from, a reference or an environment table,
and the typed reading of its properties.
-/
namespace JmsNaming

/-- What a resolution is asked to resolve. -/
inductive Input where
  | reference (r : Reference)
  | other (v : Value)

/-- The origin of the properties of one resolution. -/
inductive Source where
  | reference (r : Reference)
  | environment (table : Table)

namespace Source

/-- A reference always wins; otherwise a non-empty environment table is read. -/
def choose (input : Input) (environment : Option Table) : Except NamingError Source :=
  match input, environment with
  | .reference r, _ => .ok (.reference r)
  | .other _, some (e :: es) => .ok (.environment (e :: es))
  | .other _, _ => .error .sourceUnavailable

/-! ## Raw properties -/

/-- The value of an entry, null if it has no content. -/
def entry? : Source → String → Option Value
  | .reference r, name => (r.get? name).map (·.content)
  | .environment table, name => table.get? name

/-- There is an entry, even if it has no content. -/
def contains (s : Source) (name : String) : Bool :=
  (s.entry? name).isSome

/-- The content of an entry as text, if there is any. -/
def content (s : Source) (name : String) : Except Number.Unwritable (Option String) :=
  match s.entry? name with
  | some v => if v.isNull then .ok none else v.toText.map some
  | none => .ok none

/-- The name of the class to build, which an environment table has among its entries. -/
def className : Source → Except Number.Unwritable (Option String)
  | .reference r => .ok r.className
  | .environment table => content (.environment table) classNameKey

def origin : Source → String
  | .reference _ => "reference"
  | .environment _ => "environment"

def size : Source → Nat
  | .reference r => r.addrs.length
  | .environment table => table.length

/-- The source as messages show it. -/
def describe (s : Source) : Except Number.Unwritable String :=
  let kind := match s with
    | .reference _ => "ReferencePropertySource"
    | .environment _ => "EnvironmentPropertySource"
  s.className.map fun className =>
    let name := match className with
      | some c => String.ofList (Text.quoted c.toList)
      | none => "None"
    kind ++ "(class_name=" ++ name ++ ", entries=" ++ toString s.size ++ ")"

/-! ## Typed properties -/

/-- The content of a property; a required one must be there and have content. -/
def read (s : Source) (name : String) (required : Bool) : Except Failure (Option String) :=
  if required && !s.contains name then .error (.naming (.missingProperty name))
  else
    match s.content name with
    | .error fault => .error (.unwritable fault)
    | .ok (some c) => .ok (some c)
    | .ok none => if required then .error (.naming (.emptyProperty name)) else .ok none

/-- The text of a property, or the default. -/
def readText (s : Source) (name : String) (required : Bool) (default : Option String) :
    Except Failure (Option String) := do
  match ← s.read name required with
  | some c => return some c
  | none => return default

/-- Only the word for truth, in any letter case, is true. -/
def isTrue (content : String) : Bool :=
  Text.lower content.toList == ['t', 'r', 'u', 'e']

/-- The truth value of a property, or the default. -/
def readBool (s : Source) (name : String) (required default : Bool) : Except Failure Bool := do
  match ← s.read name required with
  | some c => return isTrue c
  | none => return default

end Source

namespace NumberKind

def least : NumberKind → Int
  | integer => -2147483648
  | long => -9223372036854775808

def greatest : NumberKind → Int
  | integer => 2147483647
  | long => 9223372036854775807

end NumberKind

namespace Source

/-- The whole number of a property, or the default. -/
def readNumber (kind : NumberKind) (s : Source) (name : String) (required : Bool) (default : Int) :
    Except Failure Int := do
  match ← s.read name required with
  | some c =>
    match Number.readDecimal kind.least kind.greatest c with
    | .ok n => return n
    | .error fault => throw (.naming (.invalidNumber name c kind fault))
  | none => return default

end Source

end JmsNaming
