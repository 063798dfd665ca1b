import JmsNaming.Json.Write
import JmsNaming.Log.Event

/-
The text of an event: a line of JSON, or columns with the fields after them as `key=value` and a
stack or an exception on lines of their own.
-/
namespace JmsNaming.Log

/-- The form of the lines. -/
inductive Format where
  | console
  | json
  deriving DecidableEq

/-- The form that a word means; all words but one mean the same. -/
def Format.ofText (word : String) : Format :=
  if word = "json" then json else console

/-! ## Entries -/

/-- The field that asks for the stack. -/
def stackRequest : String := "stack_info"

/-- All that is told of an event: the fields, the event, the logger and the severity. A field with the
name of one of these three gives its place to it. A field that holds a record would name the logger. -/
def Event.entries (e : Event) (logger : String) : Except EventFault Table :=
  let entries := Table.ofEntries ((e.fields.map fun f => (.text f.1, f.2)) ++
    [(.text "event", .text e.name), (.text "logger", .text logger), (.text "level", .text e.severity.text)])
  let record := ((e.fields.filter (·.1 == "_record")).getLast?.map (·.2)).getD .null
  if record.isNull then .ok (entries.filter fun entry => entry.1 ≠ .text stackRequest)
  else .error (.record record)

/-! ## Columns -/

/-- A text with blanks added up to a length. -/
def padded (width : Nat) (s : String) : String :=
  s ++ String.ofList (List.replicate (width - s.length) ' ')

/-- The characters that put a text between quotes. -/
def needsQuotes (c : Char) : Bool :=
  c = ' ' || c = '\t' || c = '=' || c = '\r' || c = '\n' || c = '"' || c = '\''

/-- The value of a field in columns: a text as it is where it can be told apart. -/
def fieldText (v : Value) : String :=
  match v with
  | .scalar (.text s) => if s.toList.any needsQuotes then v.inner else s
  | v => v.inner

/-- The entries that stand before the fields, in order, each with its form. -/
def leadingColumns : List (String × (String → String)) :=
  [("timestamp", id), ("level", fun s => "[" ++ padded 9 s ++ "]"), ("event", padded 30),
    ("logger", fun s => "[" ++ s ++ "]"), ("logger_name", fun s => "[" ++ s ++ "]")]

/-- The entries that stand after the line. -/
def trailingNames : List String :=
  ["stack", "exception", Method.exceptionField]

/-- The entries in columns before the fields. -/
def leadingTexts (entries : Table) : List String :=
  (leadingColumns.filterMap fun c => (entries.get? c.1).map fun v => c.2 v.plain).filter (· ≠ "")

/-- The fields in columns, by name. -/
def fieldTexts (entries : Table) : List String :=
  let fields := entries.filterMap fun e =>
    match e.1 with
    | .text k => if (leadingColumns.map (·.1) ++ trailingNames).contains k then none else some (k, e.2)
    | _ => none
  (fields.mergeSort fun a b => !decide (b.1 < a.1)).map fun f => f.1 ++ "=" ++ fieldText f.2

/-- A text on a line of its own, if there is one. -/
def ownLine (v : Value) : Except EventFault String :=
  match v with
  | .scalar .null => .ok ""
  | .scalar (.text s) => .ok ("\n" ++ s)
  | v => .error (.notText v)

/-- What follows the line: the stack and the exception, with a rule between them. -/
def trailingText (entries : Table) : Except EventFault String := do
  let entry (name : String) : Value := (entries.get? name).getD .null
  let stack ← ownLine (entry "stack")
  let rule := "\n\n" ++ String.ofList (List.replicate 79 '=') ++ "\n"
  let divided := !(entry "stack").isNull && (!(entry Method.exceptionField).isEmpty || !(entry "exception").isNull)
  return stack ++ (if divided then rule else "") ++ (← ownLine (entry "exception"))

/-! ## Texts -/

/-- The last line of an event that is logged as an exception. -/
def exceptionLine : String := "\nNoneType: None"

/-- The text of an event, without its end. -/
def Event.text (e : Event) (format : Format) (logger : String) : Except EventFault String := do
  let entries ← e.entries logger
  if !Value.haveWritable entries then throw (.unwritable .digits)
  let body ← match format with
    | .json => pure (Json.line (.map entries))
    | .console => do
      let after ← trailingText entries
      pure (String.intercalate " " (leadingTexts entries ++ fieldTexts entries) ++ after)
  return body ++ (if e.asException then exceptionLine else "")

end JmsNaming.Log
