import JmsNaming.Text.Character
import JmsNaming.Value.Basic

/-
Writing values as JSON text in ASCII: on one line, or over several with two blanks per level.
Characters beyond ASCII are written as the escapes of their UTF-16 units.
-/
namespace JmsNaming.Json

/-- The escape of one UTF-16 unit. -/
def unitEscape (n : Nat) : List Char :=
  '\\' :: 'u' :: Text.hexText n 4

/-- One character inside a string. -/
def writeChar (c : Char) : List Char :=
  if c = '"' then ['\\', '"']
  else if c = '\\' then ['\\', '\\']
  else if c = '\n' then ['\\', 'n']
  else if c = '\r' then ['\\', 'r']
  else if c = '\t' then ['\\', 't']
  else if c = Char.ofNat 12 then ['\\', 'f']
  else if c = Char.ofNat 8 then ['\\', 'b']
  else if 32 ≤ c.toNat && c.toNat < 127 then [c]
  else if c.toNat < 0x10000 then unitEscape c.toNat
  else
    let n := c.toNat - 0x10000
    unitEscape (0xd800 + n / 1024) ++ unitEscape (0xdc00 + n % 1024)

/-- A string between double quotes. -/
def writeText (s : List Char) : List Char :=
  '"' :: s.flatMap writeChar ++ ['"']

/-- The name under which JSON writes a key. -/
def keyText : Scalar → String
  | .null => "null"
  | .bool b => if b then "true" else "false"
  | .text s => s
  | s => s.plain

def writeScalar : Scalar → List Char
  | .null => ['n', 'u', 'l', 'l']
  | .bool true => ['t', 'r', 'u', 'e']
  | .bool false => ['f', 'a', 'l', 's', 'e']
  | .int i => (toString i).toList
  | .float .nan => ['N', 'a', 'N']
  | .float (.infinite negative) => (if negative then ['-'] else []) ++ "Infinity".toList
  | .float x => x.text
  | .text s => writeText s.toList
  | .moment m => writeText m.innerText

/-- How the parts of lists and maps are set apart: on one line, or on lines of their own at a depth. -/
inductive Layout where
  | line
  | indented (depth : Nat)

/-- The layout of the parts of a list or map that stands in this layout. -/
def Layout.deeper : Layout → Layout
  | line => line
  | indented depth => indented (depth + 1)

/-- A line break with the blanks of the depth. -/
def newLine (depth : Nat) : List Char :=
  '\n' :: List.replicate (2 * depth) ' '

/-- What stands before the first part. -/
def Layout.start : Layout → List Char
  | line => []
  | indented depth => newLine (depth + 1)

/-- What stands between two parts. -/
def Layout.between : Layout → List Char
  | line => [',', ' ']
  | indented depth => ',' :: newLine (depth + 1)

/-- What stands after the last part. -/
def Layout.stop : Layout → List Char
  | line => []
  | indented depth => newLine depth

mutual

/-- The JSON text of a value. -/
def write (layout : Layout) : Value → List Char
  | .scalar s => writeScalar s
  | .list [] => ['[', ']']
  | .list (v :: vs) =>
    '[' :: layout.start ++ write layout.deeper v ++ writeItems layout vs ++ layout.stop ++ [']']
  | .map [] => [Char.ofNat 123, Char.ofNat 125]
  | .map ((k, v) :: es) =>
    Char.ofNat 123 :: layout.start ++ writeText (keyText k).toList ++ ':' :: ' ' :: write layout.deeper v ++
      writeEntries layout es ++ layout.stop ++ [Char.ofNat 125]

/-- The further items of a list. -/
def writeItems (layout : Layout) : List Value → List Char
  | [] => []
  | v :: vs => layout.between ++ write layout.deeper v ++ writeItems layout vs

/-- The further entries of a map. -/
def writeEntries (layout : Layout) : List (Scalar × Value) → List Char
  | [] => []
  | (k, v) :: es =>
    layout.between ++ writeText (keyText k).toList ++ ':' :: ' ' :: write layout.deeper v ++
      writeEntries layout es

end

/-- The JSON text of a value on one line. -/
def line (v : Value) : String :=
  String.ofList (write .line v)

end JmsNaming.Json
