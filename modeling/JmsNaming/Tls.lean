/-
The TLS settings of a client: protocol versions and their names, the context that a provider makes,
and the ways in which it is refused.
-/
namespace JmsNaming.Tls

/-- The least protocol version that a context accepts. The last two stand for the least and the
greatest version that the provider knows. -/
inductive Version where
  | ssl3
  | tls1
  | tls1_1
  | tls1_2
  | tls1_3
  | minimumSupported
  | maximumSupported
  deriving DecidableEq

/-- The name of a version. -/
def Version.name : Version → String
  | ssl3 => "SSLv3"
  | tls1 => "TLSv1"
  | tls1_1 => "TLSv1_1"
  | tls1_2 => "TLSv1_2"
  | tls1_3 => "TLSv1_3"
  | minimumSupported => "MINIMUM_SUPPORTED"
  | maximumSupported => "MAXIMUM_SUPPORTED"

def Version.all : List Version :=
  [ssl3, tls1, tls1_1, tls1_2, tls1_3, minimumSupported, maximumSupported]

/-- The version that a protocol text names; a dot counts as an underscore. -/
def Version.ofProtocol? (protocol : String) : Option Version :=
  let name := String.ofList (protocol.toList.map fun c => if c = '.' then '_' else c)
  all.find? (·.name == name)

/-- A client context: it trusts every certificate and checks no host name. -/
structure Context where
  checkHostname : Bool := false
  verifiesPeer : Bool := false
  minimumVersion : Version
  deriving DecidableEq

/-- Why there is no context for a protocol. -/
structure Refusal where
  protocol : String
  reason : String
  deriving DecidableEq

def Refusal.message (r : Refusal) : String :=
  r.protocol ++ " not available: " ++ r.reason

/-- What makes contexts: for each least version it may have a reason to refuse. -/
structure Provider where
  refusal : Version → Option String

/-- The provider that refuses nothing. -/
def Provider.working : Provider := ⟨fun _ => none⟩

/-- The provider that refuses everything with one reason. -/
def Provider.failing (reason : String) : Provider := ⟨fun _ => some reason⟩

/-- The version that a context reports: the greatest known one is TLS 1.3. -/
def Version.reported : Version → Version
  | maximumSupported => tls1_3
  | v => v

/-- A context of at least the protocol's version. -/
def Provider.context (p : Provider) (protocol : String) : Except Refusal Context :=
  match Version.ofProtocol? protocol with
  | none => .error { protocol, reason := "unknown protocol" }
  | some v =>
    match p.refusal v with
    | some reason => .error { protocol, reason }
    | none => .ok { minimumVersion := v.reported }

/-- The protocol that is asked for when none is named. -/
def defaultProtocol : String := "TLSv1.2"

end JmsNaming.Tls
