import JmsNaming.Number.Binary64
import JmsNaming.Number.Limit
import JmsNaming.Text.Quoted
import JmsNaming.Value.Moment

/-
The values of configuration trees and property tables: scalars, lists and maps with scalar keys in
insertion order, and the text that a value is read as where a property wants text.
-/
namespace JmsNaming

/-- A value without parts. -/
inductive Scalar where
  | null
  | bool (b : Bool)
  | int (i : Int)
  | float (x : Binary64)
  | text (s : String)
  | moment (m : Moment)
  deriving DecidableEq, Inhabited

/-- A value: a scalar, a list, or a map in insertion order. -/
inductive Value where
  | scalar (s : Scalar)
  | list (items : List Value)
  | map (entries : List (Scalar × Value))
  deriving Inhabited

/-- The entries of a map. -/
abbrev Table := List (Scalar × Value)

namespace Value

abbrev null : Value := .scalar .null
abbrev bool (b : Bool) : Value := .scalar (.bool b)
abbrev int (i : Int) : Value := .scalar (.int i)
abbrev text (s : String) : Value := .scalar (.text s)

/-- A text that may be absent. -/
def optional : Option String → Value
  | some s => .text s
  | none => .null

def isNull : Value → Bool
  | .scalar .null => true
  | _ => false

def text? : Value → Option String
  | .scalar (.text s) => some s
  | _ => none

def entries? : Value → Option Table
  | .map m => some m
  | _ => none

/-- Null, false, zero, and the empty text, list and map count as nothing. -/
def isEmpty : Value → Bool
  | .scalar .null => true
  | .scalar (.bool b) => !b
  | .scalar (.int i) => i == 0
  | .scalar (.float x) => x.isZero
  | .scalar (.text s) => s == ""
  | .scalar (.moment _) => false
  | .list items => items.isEmpty
  | .map entries => entries.isEmpty

end Value

/-! ## Keys -/

namespace Scalar

/-- What keys are compared by. -/
inductive Key where
  | scalar (s : Scalar)
  | instant (microseconds : Int)
  deriving DecidableEq

/-- The form under which a key is compared: a truth value counts as the number one or zero, a
floating-point number with a whole value as that number, and a moment of a known clock as its point
in time. -/
def key : Scalar → Key
  | bool b => .scalar (int (if b then 1 else 0))
  | float x => match x.toInt? with
    | some i => .scalar (int i)
    | none => .scalar (float x)
  | moment m => match m.instant? with
    | some n => .instant n
    | none => .scalar (moment m)
  | s => .scalar s

/-- The two scalars name the same entry of a map. What is not a number is equal to nothing, not even to itself. -/
def sameKey (a b : Scalar) : Bool :=
  a.key == b.key && a.key != .scalar (float .nan)

end Scalar

namespace Table

/-- The value under a key. -/
def find? (t : Table) (k : Scalar) : Option Value :=
  (List.find? (fun e => e.1.sameKey k) t).map (·.2)

/-- The value under a name. -/
def get? (t : Table) (name : String) : Option Value :=
  t.find? (.text name)

/-- Replaces the value under a key where it stands, or adds an entry at the end. -/
def put (t : Table) (k : Scalar) (v : Value) : Table :=
  match t with
  | [] => [(k, v)]
  | (k', v') :: rest => if k'.sameKey k then (k', v) :: rest else (k', v') :: Table.put rest k v

/-- The table of a sequence of entries: a repeated key keeps its first place and takes its last
value. -/
def ofEntries (entries : List (Scalar × Value)) : Table :=
  entries.foldl (fun t e => t.put e.1 e.2) []

end Table

/-! ## Text -/

namespace Scalar

/-- The text of a scalar that stands alone. -/
def plain : Scalar → String
  | null => "None"
  | bool b => if b then "True" else "False"
  | int i => toString i
  | float x => String.ofList x.text
  | text s => s
  | moment m => String.ofList m.text

/-- The text of a scalar inside a list or a map. -/
def inner : Scalar → String
  | text s => String.ofList (Text.quoted s.toList)
  | moment m => String.ofList m.innerText
  | s => s.plain

end Scalar

namespace Value

mutual

/-- The text of a value inside a list or a map. -/
def inner : Value → String
  | .scalar s => s.inner
  | .list items => "[" ++ innerItems items ++ "]"
  | .map entries => "\x7b" ++ innerEntries entries ++ "\x7d"

/-- The items of a list, with commas between them. -/
def innerItems : List Value → String
  | [] => ""
  | [v] => v.inner
  | v :: vs => v.inner ++ ", " ++ innerItems vs

/-- The entries of a map, with commas between them. -/
def innerEntries : List (Scalar × Value) → String
  | [] => ""
  | [(k, v)] => k.inner ++ ": " ++ v.inner
  | (k, v) :: es => k.inner ++ ": " ++ v.inner ++ ", " ++ innerEntries es

end

/-- The text of a value that stands alone: a text is itself. -/
def plain : Value → String
  | .scalar s => s.plain
  | v => v.inner

end Value

/-! ## Writing -/

/-- The scalar has a text. -/
def Scalar.isWritable : Scalar → Bool
  | int i => Number.isWritable i
  | _ => true

namespace Value

mutual

/-- The value has a text: no whole number in it has too many digits. -/
def isWritable : Value → Bool
  | .scalar s => s.isWritable
  | .list items => areWritable items
  | .map entries => haveWritable entries

/-- The items of a list have texts. -/
def areWritable : List Value → Bool
  | [] => true
  | v :: vs => v.isWritable && areWritable vs

/-- The keys and values of a map have texts. -/
def haveWritable : List (Scalar × Value) → Bool
  | [] => true
  | (k, v) :: es => k.isWritable && v.isWritable && haveWritable es

end

/-- The text of a value that stands alone, if it has one. -/
def toText (v : Value) : Except Number.Unwritable String :=
  if v.isWritable then .ok v.plain else .error .digits

end Value

/-! ## Equality -/

namespace Value

mutual

/-- The values are equal: numbers and truth values by value, lists item by item, maps as sets of
entries. -/
def same : Value → Value → Bool
  | .scalar a, .scalar b => a.sameKey b
  | .list xs, .list ys => sameItems xs ys
  | .map xs, .map ys => xs.length == ys.length && sameEntries xs ys
  | _, _ => false

/-- The lists have equal items in the same order. -/
def sameItems : List Value → List Value → Bool
  | [], [] => true
  | x :: xs, y :: ys => same x y && sameItems xs ys
  | _, _ => false

/-- Every entry of the first map has an equal one in the second. -/
def sameEntries : List (Scalar × Value) → List (Scalar × Value) → Bool
  | [], _ => true
  | (k, v) :: rest, ys =>
    (match Table.find? ys k with
      | some w => same v w
      | none => false) && sameEntries rest ys

end

end Value

end JmsNaming
