import JmsNaming.Error

/-
The connection factory: the settings with which a messaging client connects, and the three
operations that change several of them at once. An operation returns its outcome and the factory
after it.
-/
namespace JmsNaming

/-- The settings of a messaging client, with their defaults. -/
structure ConnectionFactory extends Endpoint where
  queueBrowserReadMax : Int := 0
  onMessageTimeoutMs : Int := 2000
  channelsQos : Int := -1
  terminationTimeout : Int := 15000
  cleanUpServerNamedQueuesForNonDurableTopicsOnSessionClose : Bool := false
  declareReplyToDestination : Bool := true
  uris : List String := []
  sslContext : Option Tls.Context := none
  deriving DecidableEq

namespace ConnectionFactory

/-- The URI that carries the factory's endpoint. -/
def uri (f : ConnectionFactory) : String :=
  String.ofList f.toEndpoint.write

/-- The factories agree in every setting; the TLS context is none. -/
def sameSettings (f g : ConnectionFactory) : Bool :=
  { f with sslContext := none } == { g with sslContext := none }

/-- The outcome of an operation, and the factory after it. -/
abbrev Change (ε : Type) := Except ε Unit × ConnectionFactory

/-- Turns TLS on with a context of at least the protocol's version. -/
def useSslProtocol (provider : Tls.Provider) (protocol : String) (f : ConnectionFactory) : Change Tls.Refusal :=
  match provider.context protocol with
  | .error refusal => (.error refusal, f)
  | .ok context => (.ok (), { f with ssl := true, sslContext := some context })

/-- Takes over the endpoint of an AMQP URI; one that asks for TLS also gets a context. -/
def setUri (provider : Tls.Provider) (uri : String) (f : ConnectionFactory) : Change ClientError :=
  match Endpoint.read uri.toList with
  | .error fault => (.error (.invalidUri fault), f)
  | .ok e =>
    if e.ssl then
      match f.useSslProtocol provider Tls.defaultProtocol with
      | (.error refusal, g) => (.error (.tlsUnavailable refusal), g)
      | (.ok (), g) => (.ok (), { g with toEndpoint := e })
    else (.ok (), { f with toEndpoint := e, sslContext := none })

/-- The first fault among some URIs. -/
def checkUris : List String → Except ClientError Unit
  | [] => .ok ()
  | uri :: rest =>
    match Endpoint.read uri.toList with
    | .error fault => .error (.invalidUri fault)
    | .ok _ => checkUris rest

/-- Stores the URIs of the nodes to try, all of which must be readable, and takes over the first. -/
def setUris (provider : Tls.Provider) (uris : List String) (f : ConnectionFactory) : Change ClientError :=
  match uris with
  | [] => (.ok (), { f with uris := [] })
  | first :: _ =>
    match checkUris uris with
    | .error error => (.error error, f)
    | .ok () => setUri provider first { f with uris }

end ConnectionFactory

end JmsNaming
