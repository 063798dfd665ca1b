import JmsNaming.Value.Kind

/-
Structured log events: a name, a severity and named fields in order.
-/
namespace JmsNaming.Log

/-- How grave an event is. -/
inductive Severity where
  | debug
  | info
  | warning
  | error
  | critical
  deriving DecidableEq

namespace Severity

def text : Severity → String
  | debug => "debug"
  | info => "info"
  | warning => "warning"
  | error => "error"
  | critical => "critical"

/-- The level that an event of this severity has. -/
def level : Severity → Nat
  | debug => 10
  | info => 20
  | warning => 30
  | error => 40
  | critical => 50

def all : List Severity :=
  [debug, info, warning, error, critical]

end Severity

/-- An event. One that is logged as an exception has a last line that tells which exception is at hand,
and that is none. -/
structure Event where
  name : String
  severity : Severity
  fields : List (String × Value)
  asException : Bool := false

/-! ## Logging calls -/

/-- Why an event cannot be logged. -/
inductive EventFault where
  /-- A field has the name of an argument of the call. -/
  | argument (call name : String)
  /-- The record that a field holds has no name. -/
  | record (value : Value)
  /-- What follows the line is no text. -/
  | notText (value : Value)
  /-- A field has no text. -/
  | unwritable (fault : Number.Unwritable)

def EventFault.message : EventFault → String
  | argument call name => "BoundLogger." ++ call ++ "() got multiple values for argument '" ++ name ++ "'"
  | record v => v.missingAttribute "name"
  | notText v => "can only concatenate str (not \"" ++ v.kindName ++ "\") to str"
  | unwritable fault => fault.message

/-- A way to log an event. -/
structure Method where
  name : String
  severity : Severity
  asException : Bool := false

namespace Method

/-- The methods with the words for them: the severities, and three more. -/
def words : List (String × Method) :=
  Severity.all.map (fun s => (s.text, { name := s.text, severity := s })) ++
    [("warn", { name := "warning", severity := .warning }), ("fatal", { name := "fatal", severity := .critical }),
      ("exception", { name := "exception", severity := .error, asException := true })]

def ofText? (s : String) : Option Method :=
  words.lookup s

/-- The field that tells which exception to show. -/
def exceptionField : String := "exc_info"

/-- The event of a call with some fields. Their names may not be those of the arguments of the call, or
of the call that it makes in turn. -/
def event (m : Method) (name : String) (fields : List (String × Value)) : Except EventFault Event :=
  match fields.find? fun f => f.1 == "self" || f.1 == "event" with
  | some f => .error (.argument m.name f.1)
  | none =>
    if fields.any (·.1 == "method_name") then .error (.argument "_proxy_to_logger" "method_name")
    else
      let more := if m.asException && !fields.any (·.1 == exceptionField) then [(exceptionField, .bool true)] else []
      .ok { name, severity := m.severity, fields := fields ++ more, asException := m.asException }

end Method

end JmsNaming.Log
