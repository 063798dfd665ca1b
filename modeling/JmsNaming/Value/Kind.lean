import JmsNaming.Value.Basic

/-
The kinds of values, and reading a value as a table: a map is one, and so is a sequence of items
that each hold a key and a value.
-/
namespace JmsNaming.Value

/-! ## Kinds -/

/-- What kind of value it is, as messages name it. -/
def kindName : Value → String
  | .scalar .null => "NoneType"
  | .scalar (.bool _) => "bool"
  | .scalar (.int _) => "int"
  | .scalar (.float _) => "float"
  | .scalar (.text _) => "str"
  | .scalar (.moment (.date _)) => "datetime.date"
  | .scalar (.moment (.time _)) => "datetime.time"
  | .scalar (.moment (.dateTime _ _ _)) => "datetime.datetime"
  | .list _ => "list"
  | .map _ => "dict"

/-- A value is used as something it is not. -/
def missingAttribute (v : Value) (member : String) : String :=
  "'" ++ v.kindName ++ "' object has no attribute '" ++ member ++ "'"

/-! ## Tables -/

/-- Why a value is no table. -/
inductive TableFault where
  | noSequence (value : Value)
  /-- An item is no sequence. -/
  | noItems (index : Nat)
  /-- An item holds another number of parts than two. -/
  | noPair (index size : Nat)
  /-- A list or a map stands where a key does. -/
  | noKey (value : Value)

def TableFault.message : TableFault → String
  | noSequence v => "'" ++ v.kindName ++ "' object is not iterable"
  | noItems i => "cannot convert dictionary update sequence element #" ++ toString i ++ " to a sequence"
  | noPair i n =>
    "dictionary update sequence element #" ++ toString i ++ " has length " ++ toString n ++ "; 2 is required"
  | noKey v => "unhashable type: '" ++ v.kindName ++ "'"

/-- The parts of a value that is a sequence: the characters of a text, the items of a list, the keys
of a map. -/
def parts? : Value → Option (List Value)
  | .scalar (.text s) => some (s.toList.map fun c => .text (String.singleton c))
  | .scalar _ => none
  | .list items => some items
  | .map entries => some (entries.map fun e => .scalar e.1)

/-- The entry that an item of a sequence stands for. -/
def entry (index : Nat) (item : Value) : Except TableFault (Scalar × Value) :=
  match item.parts? with
  | none => .error (.noItems index)
  | some [.scalar k, v] => .ok (k, v)
  | some [k, _] => .error (.noKey k)
  | some parts => .error (.noPair index parts.length)

/-- The entries that the items of a sequence stand for, up to the first that stands for none. -/
def entriesFrom (index : Nat) : List Value → Except TableFault (List (Scalar × Value))
  | [] => .ok []
  | item :: rest => do
    let e ← entry index item
    return e :: (← entriesFrom (index + 1) rest)

/-- The value as a table. -/
def toTable : Value → Except TableFault Table
  | .map entries => .ok entries
  | v =>
    match v.parts? with
    | none => .error (.noSequence v)
    | some items => (entriesFrom 0 items).map Table.ofEntries

end JmsNaming.Value
