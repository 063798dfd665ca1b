import JmsNaming.Number.Reading
import JmsNaming.Tls
import JmsNaming.Uri.Endpoint
import JmsNaming.Value.Basic

/-
What can go wrong: a client object rejects a value, or a resolution fails. Each failure is told by
its cause; a report is the form that is shown, with a category, a message, a code and a context.
-/
namespace JmsNaming

/-! ## Causes -/

/-- A client object rejects a value. -/
inductive ClientError where
  | invalidUri (fault : Uri.Fault)
  | tlsUnavailable (refusal : Tls.Refusal)
  deriving DecidableEq

/-- The whole-number types of properties. -/
inductive NumberKind where
  | integer
  | long
  deriving DecidableEq

def NumberKind.text : NumberKind → String
  | integer => "an integer"
  | long => "a long integer"

/-- A resolution fails. -/
inductive NamingError where
  /-- There is neither a reference nor a non-empty environment table. -/
  | sourceUnavailable
  /-- The source names no class. -/
  | missingType
  /-- A required property is absent. -/
  | missingProperty (name : String)
  /-- A required property has no content. -/
  | emptyProperty (name : String)
  /-- The content of a property is no number of its type. -/
  | invalidNumber (name raw : String) (kind : NumberKind) (fault : Number.Fault)
  /-- No kind of object has the class name. -/
  | unknownClass (name : String)
  /-- TLS is asked for and cannot be had. -/
  | tlsUnavailable (refusal : Tls.Refusal)
  deriving DecidableEq

/-! ## Reports -/

/-- The categories of reports, most general first. -/
inductive Category where
  | general
  | naming
  | sourceUnavailable
  | missingProperty
  | emptyProperty
  | invalidNumber
  | unknownClass
  | tlsUnavailable
  | client
  | invalidUri
  | contextUnavailable
  deriving DecidableEq

/-- The category that a category is a case of. -/
def Category.parent? : Category → Option Category
  | general => none
  | naming | client => some general
  | sourceUnavailable | missingProperty | invalidNumber | unknownClass | tlsUnavailable => some naming
  | emptyProperty => some missingProperty
  | invalidUri | contextUnavailable => some client

/-- A category and all it is a case of, the most general last. -/
def Category.lineage (c : Category) : List Category :=
  match c.parent? with
  | none => [c]
  | some p => match p.parent? with
    | none => [c, p]
    | some q => match q.parent? with
      | none => [c, p, q]
      | some r => [c, p, q, r]

/-- A failure of naming, as opposed to one of a client object. -/
def Category.isNaming (c : Category) : Bool :=
  c.lineage.contains .naming

/-- A failure as it is shown: `details` names what it is about. -/
structure Report where
  category : Category
  message : String
  code : Option String
  context : Table := []
  details : List (String × String) := []

namespace Report

def sourceUnavailable : Report :=
  { category := .sourceUnavailable
    message := "Unable to instantiate object: obj is not a Reference instance and environment table is empty"
    code := some "NAMING_SOURCE_UNAVAILABLE" }

/-- A missing property; an empty message counts as none given. -/
def missingProperty (name : String) (message : Option String)
    (code : Option String) : Report :=
  { category := .missingProperty
    message := match message with
      | some m => if m = "" then "Property [" ++ name ++ "] may not be null." else m
      | none => "Property [" ++ name ++ "] may not be null."
    code
    context := [(.text "property", .text name)]
    details := [("property_name", name)] }

def missingPropertyCode : String := "NAMING_MISSING_PROPERTY"

def emptyProperty (name : String) : Report :=
  { missingProperty name (some ("Property [" ++ name ++ "] is present but is lacking a value."))
      (some "NAMING_EMPTY_PROPERTY") with category := .emptyProperty }

def invalidNumber (name raw kind : String) : Report :=
  { category := .invalidNumber
    message := "Property [" ++ name ++ "] is present but is not " ++ kind ++ " value [" ++ raw ++ "]"
    code := some "NAMING_INVALID_NUMBER"
    context := [(.text "property", .text name), (.text "value", .text raw)]
    details := [("property_name", name), ("raw_value", raw)] }

def unknownClass (name : String) : Report :=
  { category := .unknownClass
    message := "Unknown class [" ++ name ++ "]"
    code := some "NAMING_UNKNOWN_CLASS"
    context := [(.text "class_name", .text name)]
    details := [("class_name", name)] }

def tlsUnavailable (reason : String) : Report :=
  { category := .tlsUnavailable
    message := "Error while enabling TLS: " ++ reason
    code := some "NAMING_TLS_UNAVAILABLE" }

def invalidUri (message : String) : Report :=
  { category := .invalidUri, message, code := some "JMS_INVALID_URI" }

def contextUnavailable (protocol reason : String) : Report :=
  { category := .contextUnavailable
    message := Tls.Refusal.message { protocol, reason }
    code := some "JMS_SSL_UNAVAILABLE"
    context := [(.text "protocol", .text protocol)]
    details := [("protocol", protocol)] }

end Report

/-! ## From causes to reports -/

def ClientError.report : ClientError → Report
  | invalidUri fault => .invalidUri fault.message
  | tlsUnavailable r => .contextUnavailable r.protocol r.reason

def ClientError.message (e : ClientError) : String :=
  e.report.message

/-- The property that names the class of the object to build. -/
def classNameKey : String := "className"

def NamingError.report : NamingError → Report
  | sourceUnavailable => .sourceUnavailable
  | missingType => .missingProperty classNameKey
      (some "Unable to instantiate object: type has not been specified") (some Report.missingPropertyCode)
  | missingProperty name => .missingProperty name none (some Report.missingPropertyCode)
  | emptyProperty name => .emptyProperty name
  | invalidNumber name raw kind _ => .invalidNumber name raw kind.text
  | unknownClass name => .unknownClass name
  | tlsUnavailable r => .tlsUnavailable r.message

def NamingError.message (e : NamingError) : String :=
  e.report.message

/-- What a failed resolution goes back to, where that is another failure. -/
inductive RootCause where
  | number (fault : Number.Fault)
  | client (error : ClientError)
  deriving DecidableEq

def NamingError.rootCause : NamingError → Option RootCause
  | invalidNumber _ _ _ fault => some (.number fault)
  | tlsUnavailable r => some (.client (.tlsUnavailable r))
  | _ => none

end JmsNaming
