import JmsNaming.Settings.Template
import JmsNaming.Text.Case

/-
Settings: a tree of values and the files it comes from, read by dotted keys. An environment variable
named after a key goes before the tree.
-/
namespace JmsNaming

/-- A tree of settings and the sources it was merged from, in that order. -/
structure Settings where
  root : Value := .map []
  sources : List String := []

namespace Settings

/-- The settings that a value holds; a value that counts as nothing holds none. -/
def ofValue (v : Value) : Settings :=
  { root := if v.isEmpty then .map [] else v }

/-- The variable that goes before a key: the key without its common lead, in capitals, with
underscores for dots and hyphens. -/
def variableName (key : String) : String :=
  let capitals := Text.upper (Text.dropLead "rmqjms.".toList key.toList)
  "RMQJMS_" ++ String.ofList (capitals.map fun c => if c = '.' || c = '-' then '_' else c)

/-- The value of a key: its variable, else what the tree has there, expanded if it is a text, else
the default. -/
def get (s : Settings) (vars : Variables) (key : String) (default : Value) : Except Template.Fault Value :=
  match vars.get? (variableName key) with
  | some value => .ok (.text value)
  | none =>
    match Tree.valueAt? s.root (Text.segments key) with
    | some (.scalar (.text t)) => (Template.resolveText s.root vars t).map .text
    | some v => .ok v
    | none => .ok default

/-- The map under a key, empty if there is none. -/
def getSection (s : Settings) (key : String) : Table :=
  Tree.sectionAt s.root (Text.segments key)

/-- The map under a key with all its texts expanded. -/
def resolveSection (s : Settings) (vars : Variables) (key : String) : Except Template.Fault Table :=
  Template.resolveEntries s.root vars (s.getSection key)

end Settings

end JmsNaming
