import JmsNaming.Number.Reading
import JmsNaming.Text.Percent
import JmsNaming.Uri.Split

/-
The settings that an AMQP URI carries: reading them from a URI, and the URI that carries them.
A part that is missing takes its default; the path is one segment, the virtual host.
-/
namespace JmsNaming

/-- Where and as whom a client connects. -/
structure Endpoint where
  ssl : Bool := false
  host : String := "localhost"
  port : Int := 5672
  username : String := "guest"
  password : String := "guest"
  virtualHost : String := "/"
  deriving DecidableEq

namespace Endpoint

/-- The port used when none is given. -/
def defaultPort (ssl : Bool) : Nat :=
  if ssl then 5671 else 5672

/-- The settings of an AMQP URI. -/
def read (uri : List Char) : Except Uri.Fault Endpoint := do
  let parts ← Uri.split uri
  let port ← Uri.portOf parts.authority
  if parts.scheme != ['a', 'm', 'q', 'p'] && parts.scheme != ['a', 'm', 'q', 'p', 's'] then
    throw (.scheme parts.scheme)
  if (parts.path.drop 1).contains '/' then throw .segments
  let ssl := parts.scheme == ['a', 'm', 'q', 'p', 's']
  let host := Uri.hostOf parts.authority
  let user := Uri.userOf parts.authority
  let decoded (s : Option (List Char)) (absent : String) : String :=
    match s with
    | some s => String.ofList (Text.percentDecode s)
    | none => absent
  return {
    ssl
    host := if host.isEmpty then "localhost" else String.ofList host
    port := port.getD (defaultPort ssl)
    username := decoded user.1 "guest"
    password := decoded user.2 "guest"
    virtualHost := if parts.path.isEmpty then "/" else String.ofList (Text.percentDecode (parts.path.drop 1)) }

/-- The host as a URI writes it: an address with colons stands in brackets. -/
def writtenHost (host : List Char) : List Char :=
  if host.contains ':' then '[' :: host ++ [']'] else host

/-- The AMQP URI that carries the settings. -/
def write (e : Endpoint) : List Char :=
  (if e.ssl then "amqps://" else "amqp://").toList ++ Text.percentEncode e.username.toList ++
    ':' :: Text.percentEncode e.password.toList ++ '@' :: writtenHost e.host.toList ++
    ':' :: (toString e.port).toList ++ '/' :: Text.percentEncode e.virtualHost.toList

end Endpoint

namespace Uri.Fault

/-- What is wrong with the form of the URI, before it is looked at as an AMQP URI. -/
def detail : Fault → List Char
  | brackets => "Invalid IPv6 URL".toList
  | futureAddress => "IPvFuture address is invalid".toList
  | bracketedIPv4 => "An IPv4 address cannot be in brackets".toList
  | notAddress host => Text.quoted host ++ " does not appear to be an IPv4 or IPv6 address".toList
  | disguised authority =>
    "netloc '".toList ++ authority ++ "' contains invalid characters under NFKC normalization".toList
  | portText port => "Port could not be cast to integer value as ".toList ++ Text.quoted port
  | portDigits count => (Number.Fault.tooLong count).message.toList
  | portRange => "Port out of range 0-65535".toList
  | scheme _ | segments => []

/-- The text of a fault. -/
def message : Fault → String
  | scheme s => "Wrong scheme in AMQP URI: " ++ String.ofList (Text.quoted s)
  | segments => "Multiple segments in path of AMQP URI"
  | fault => "Could not parse AMQP URI: " ++ String.ofList fault.detail

end Uri.Fault

end JmsNaming
