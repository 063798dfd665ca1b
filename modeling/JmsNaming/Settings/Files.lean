import JmsNaming.Settings.Basic
import JmsNaming.Toml.Document
import JmsNaming.Value.Kind
import JmsNaming.Yaml.Document

/-
Settings from files: a base file, and on top of it the overlays of the active profiles, each a file
beside the base whose name has the profile in it. Files are given as texts by path.
-/
namespace JmsNaming

/-! ## Paths -/

/-- The names on a relative path. -/
abbrev FilePath := List String

namespace FilePath

/-- The names on a written path; empty ones and single dots say nothing. -/
def ofText (path : String) : FilePath :=
  ((Text.pieces '/' path.toList).map String.ofList).filter fun n => n != "" && n != "."

/-- The path as it is shown. -/
def text (p : FilePath) : String :=
  if p.isEmpty then "." else String.intercalate "/" p

/-- A file name before and from its last dot on; a dot in front or at the end counts as none. -/
def splitName (name : String) : String × String :=
  match Text.cutLast? '.' name.toList with
  | some (stem, tail) =>
    if stem.isEmpty || tail.isEmpty then (name, "") else (String.ofList stem, String.ofList ('.' :: tail))
  | none => (name, "")

/-- The last name on a path. -/
def name (p : FilePath) : String :=
  p.getLastD ""

def suffix (p : FilePath) : String :=
  (splitName p.name).2

/-- The overlay of a profile, beside the file. -/
def overlay (p : FilePath) (profile : String) : FilePath :=
  let (stem, suffix) := splitName p.name
  p.dropLast ++ ofText (stem ++ "-" ++ profile ++ suffix)

end FilePath

/-! ## Files -/

/-- The files of the working directory by path; a directory has no text. -/
abbrev Files := List (String × Option String)

namespace Files

/-- There is a directory at a path. -/
def isDirectory (files : Files) (p : FilePath) : Bool :=
  p.isEmpty || files.any fun f =>
    let q := FilePath.ofText f.1
    (q == p && f.2.isNone) || (q != p && p.isPrefixOf q)

/-- The path cannot be looked up: it or a name on it is too long. -/
structure TooLong where
  path : FilePath

def TooLong.message (fault : TooLong) : String :=
  "[Errno 36] File name too long: " ++ String.ofList (Text.quoted fault.path.text.toList)

/-- The greatest length of a name, in bytes. -/
def maxNameBytes : Nat := 255

/-- The greatest length of a path, in bytes. -/
def maxPathBytes : Nat := 4095

/-- The place in the working directory that a path leads to, going up at each double dot. The way ends
with a fault at a name that is too long, and with nothing where it leads through no directory. -/
def locate (files : Files) (path here : FilePath) : FilePath → Except TooLong (Option FilePath)
  | [] => .ok (some here)
  | name :: rest =>
    if !files.isDirectory here then .ok none
    else if maxNameBytes < name.utf8ByteSize then .error ⟨path⟩
    else if name == ".." then
      if here.isEmpty then .ok none else locate files path here.dropLast rest
    else locate files path (here ++ [name]) rest

/-- What is at a path: a file with its text, a directory, or nothing. -/
def find? (files : Files) (p : FilePath) : Except TooLong (Option (Option String)) :=
  if p.text.contains (Char.ofNat 0) then .ok none
  else if maxPathBytes < p.text.utf8ByteSize then .error ⟨p⟩
  else (files.locate p [] p).map fun place => place.bind fun q =>
    if files.isDirectory q then some none
    else (List.find? (fun f : String × Option String => FilePath.ofText f.1 == q) files).map (·.2)

end Files

/-! ## Loading -/

/-- Why a file cannot be loaded. -/
inductive LoadFault where
  | yaml (fault : Yaml.Fault)
  | toml (fault : Toml.Fault)
  | directory (path : FilePath)
  | tooLong (fault : Files.TooLong)
  /-- The file holds a value that is no map. -/
  | notMap (value : Value)

def LoadFault.message : LoadFault → String
  | yaml fault => fault.message
  | toml .malformed => ""
  | toml (.number fault) => fault.message
  | directory p => "[Errno 21] Is a directory: " ++ String.ofList (Text.quoted p.text.toList)
  | tooLong fault => fault.message
  | notMap v => Value.missingAttribute v "items"

/-- The tree that a file holds, by the format that its name has. A file of nothing holds an empty tree. -/
def loadTree (p : FilePath) (content : Option String) : Except LoadFault Table :=
  match content with
  | none => .error (.directory p)
  | some text => do
    let v ←
      if p.suffix == ".toml" then (Toml.document text.toList).mapError .toml
      else (Yaml.document text.toList).mapError .yaml
    match v with
    | .map t => return t
    | v => if v.isEmpty then return [] else throw (.notMap v)

namespace Settings

/-- Merges the overlays of the profiles that have a file, in order. -/
def addProfiles (files : Files) (base : FilePath) (tree : Table) (sources : List String) :
    List String → Except LoadFault (Table × List String)
  | [] => .ok (tree, sources)
  | profile :: rest =>
    let p := base.overlay profile
    match files.find? p with
    | .error fault => .error (.tooLong fault)
    | .ok none => addProfiles files base tree sources rest
    | .ok (some content) =>
      match loadTree p content with
      | .error fault => .error fault
      | .ok top =>
        addProfiles files base (Tree.merge tree top)
          (sources ++ [p.text ++ " (profile: " ++ profile ++ ")"]) rest

/-- Loads a file with the overlays of some profiles; without the file there is nothing. -/
def load (files : Files) (path : String) (profiles : List String) : Except LoadFault Settings :=
  let p := FilePath.ofText path
  match files.find? p with
  | .error fault => .error (.tooLong fault)
  | .ok none => .ok {}
  | .ok (some content) =>
    match loadTree p content with
    | .error fault => .error fault
    | .ok base =>
      (addProfiles files p (Tree.merge [] base) [p.text] profiles).map fun r => { root := .map r.1, sources := r.2 }

end Settings

end JmsNaming
