import JmsNaming.ConnectionFactory
import JmsNaming.Log.Event
import JmsNaming.Naming.Source

/-
Resolution: the class name of a source selects what is built, and the properties of the source say
how. A connection factory takes its endpoint from `uri`, then from the first of `uris`, and then
from the single properties; a URI that is rejected is logged and skipped.
-/
namespace JmsNaming

/-! ## Class names -/

namespace ClassName

def connectionFactory : String := "javax.jms.ConnectionFactory"
def queueConnectionFactory : String := "javax.jms.QueueConnectionFactory"
def topicConnectionFactory : String := "javax.jms.TopicConnectionFactory"
def adminConnectionFactory : String := "com.rabbitmq.jms.admin.RMQConnectionFactory"
def topic : String := "javax.jms.Topic"
def queue : String := "javax.jms.Queue"
def adminDestination : String := "com.rabbitmq.jms.admin.RMQDestination"

/-- The class names of connection factories. -/
def connectionFactories : List String :=
  [connectionFactory, queueConnectionFactory, topicConnectionFactory, adminConnectionFactory]

/-- All class names that a resource may have. -/
def supported : List String :=
  connectionFactories ++ [topic, queue, adminDestination]

end ClassName

/-- The kind of object that a class name stands for; one name leaves it to the property `isQueue`. -/
def Source.kind (s : Source) (className : String) : Except Failure ObjectKind :=
  if ClassName.connectionFactories.contains className then .ok .connectionFactory
  else if className = ClassName.topic then .ok .topic
  else if className = ClassName.queue then .ok .queue
  else if className = ClassName.adminDestination then do
    return if ← s.readBool "isQueue" false true then .queue else .topic
  else .error (.naming (.unknownClass className))

/-! ## Outcomes -/

/-- The outcome of a call and what it logged. -/
structure Logged (α : Type) where
  outcome : Except Failure α
  events : List Log.Event

/-- A resolved object. -/
inductive Resource where
  | factory (f : ConnectionFactory)
  | destination (d : Destination)
  deriving DecidableEq

def Resource.kind : Resource → ObjectKind
  | factory _ => .connectionFactory
  | destination d => d.kind

/-! ## Connection factories -/

/-- The event of a rejected URI. -/
def rejection (event : String) (name : Option String) (error : ClientError) : Log.Event :=
  { name := event, severity := .warning, fields := [("name", .optional name), ("error", .text error.message)] }

/-- The factory after a change, and the rejection that the change met. -/
def afterChange (event : String) (name : Option String) (change : ConnectionFactory.Change ClientError) :
    ConnectionFactory × List Log.Event :=
  match change with
  | (.ok (), f) => (f, [])
  | (.error error, f) => (f, [rejection event name error])

/-- The URIs in a comma-separated text, without the blanks around each. -/
def splitUris (text : String) : List String :=
  (Text.pieces ',' text.toList).map fun p => String.ofList (Text.trim p)

/-- Takes over `uri`, or the factory's own URI if there is none. -/
def applyUri (provider : Tls.Provider) (s : Source) (name : Option String) (f : ConnectionFactory) :
    Except Number.Unwritable (ConnectionFactory × List Log.Event) :=
  (s.content "uri").map fun uri =>
    afterChange "connection_factory_uri_rejected" name (f.setUri provider (uri.getD f.uri))

/-- Takes over `uris`, if there are any. -/
def applyUris (provider : Tls.Provider) (s : Source) (name : Option String) (f : ConnectionFactory) :
    Except Number.Unwritable (ConnectionFactory × List Log.Event) :=
  (s.content "uris").map fun uris =>
    match uris with
    | some text => afterChange "connection_factory_uris_rejected" name (f.setUris provider (splitUris text))
    | none => (f, [])

/-- Turns TLS on; a refusal is fatal here. -/
def requireSsl (provider : Tls.Provider) (f : ConnectionFactory) : Except NamingError ConnectionFactory :=
  match f.useSslProtocol provider Tls.defaultProtocol with
  | (.ok (), g) => .ok g
  | (.error refusal, _) => .error (.tlsUnavailable refusal)

/-- Takes over the single properties; each absent one keeps what the factory has. -/
def applyProperties (provider : Tls.Provider) (s : Source) (f : ConnectionFactory) :
    Except Failure ConnectionFactory := do
  let f := { f with host := (← s.content "host").getD f.host }
  let f := { f with password := (← s.content "password").getD f.password }
  let f := { f with port := ← s.readNumber .integer "port" false f.port }
  let f := { f with queueBrowserReadMax := ← s.readNumber .integer "queueBrowserReadMax" false f.queueBrowserReadMax }
  let f := { f with onMessageTimeoutMs := ← s.readNumber .integer "onMessageTimeoutMs" false f.onMessageTimeoutMs }
  let f := { f with channelsQos := ← s.readNumber .integer "channelsQos" false f.channelsQos }
  let f ← if ← s.readBool "ssl" false f.ssl then requireSsl provider f else pure f
  let f := { f with terminationTimeout := ← s.readNumber .long "terminationTimeout" false f.terminationTimeout }
  let f := { f with username := (← s.content "username").getD f.username }
  let f := { f with virtualHost := (← s.content "virtualHost").getD f.virtualHost }
  let cleanUp ← s.readBool "cleanUpServerNamedQueuesForNonDurableTopicsOnSessionClose" false
    f.cleanUpServerNamedQueuesForNonDurableTopicsOnSessionClose
  let declare ← s.readBool "declareReplyToDestination" false true
  return { f with
    cleanUpServerNamedQueuesForNonDurableTopicsOnSessionClose := cleanUp
    declareReplyToDestination := declare }

/-- Builds a connection factory from the defaults and the properties of a source. -/
def buildConnectionFactory (provider : Tls.Provider) (s : Source) (name : Option String) :
    Logged ConnectionFactory :=
  let start : Log.Event :=
    { name := "creating_connection_factory", severity := .debug
      fields := [("name", .optional name), ("origin", .text s.origin)] }
  match applyUri provider s name {} with
  | .error fault => { outcome := .error (.unwritable fault), events := [start] }
  | .ok (f, fromUri) =>
    match applyUris provider s name f with
    | .error fault => { outcome := .error (.unwritable fault), events := start :: fromUri }
    | .ok (f, fromUris) => { outcome := applyProperties provider s f, events := start :: fromUri ++ fromUris }

/-! ## Destinations -/

/-- The destination that the properties of a source describe. -/
def readDestination (s : Source) (topic : Bool) : Except Failure Destination := do
  let name := (← s.readText "destinationName" true none).getD ""
  if name = "" then throw (.naming (.emptyProperty "destinationName"))
  if ← s.readBool "amqp" false false then
    (Destination.amqpMapped name (← s.content "amqpExchangeName") (← s.content "amqpRoutingKey")
      (← s.content "amqpQueueName")).mapError .destination
  else (Destination.plain name (!topic)).mapError .destination

/-- Builds a destination; `topic` does not matter to one that is mapped onto AMQP names. -/
def buildDestination (s : Source) (name : Option String) (topic : Bool) : Logged Destination :=
  { outcome := readDestination s topic
    events := [{
      name := "creating_destination", severity := .debug
      fields := [("name", .optional name), ("origin", .text s.origin), ("topic", .bool topic)] }] }

/-! ## Resolution -/

/-- The class name of a source, which must not be blank. -/
def Source.requireClassName (s : Source) : Except Failure String :=
  match s.className with
  | .error fault => .error (.unwritable fault)
  | .ok (some c) => if (Text.trim c.toList).isEmpty then .error (.naming .missingType) else .ok c
  | .ok none => .error (.naming .missingType)

/-- Builds what the class name of a source asks for. -/
def resolveSource (provider : Tls.Provider) (s : Source) (name : Option String) : Logged Resource :=
  match s.requireClassName with
  | .error failure => ⟨.error failure, []⟩
  | .ok className =>
    match s.kind className with
    | .error failure => ⟨.error failure, []⟩
    | .ok .connectionFactory =>
      let built := buildConnectionFactory provider s name
      ⟨built.outcome.map .factory, built.events⟩
    | .ok kind =>
      let built := buildDestination s name (kind == .topic)
      ⟨built.outcome.map .destination, built.events⟩

/-- Resolves a reference or an environment table. -/
def resolve (provider : Tls.Provider) (input : Input) (name : Option String) (environment : Option Table) :
    Logged Resource :=
  match Source.choose input environment with
  | .error error => ⟨.error (.naming error), []⟩
  | .ok s => resolveSource provider s name

end JmsNaming
