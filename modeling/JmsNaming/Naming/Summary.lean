import JmsNaming.Naming.Resolve

/-
The fields of a resolved object as they are shown: the password is masked, and the kind comes last.
-/
namespace JmsNaming

/-- What is shown for a password. -/
def passwordMask : String := "******"

def ConnectionFactory.summary (f : ConnectionFactory) : List (String × Value) :=
  [("username", .text f.username), ("password", .text passwordMask), ("virtual_host", .text f.virtualHost),
    ("host", .text f.host), ("port", .int f.port), ("queue_browser_read_max", .int f.queueBrowserReadMax),
    ("on_message_timeout_ms", .int f.onMessageTimeoutMs), ("channels_qos", .int f.channelsQos),
    ("ssl", .bool f.ssl), ("termination_timeout", .int f.terminationTimeout),
    ("clean_up_server_named_queues_for_non_durable_topics_on_session_close",
      .bool f.cleanUpServerNamedQueuesForNonDurableTopicsOnSessionClose),
    ("declare_reply_to_destination", .bool f.declareReplyToDestination),
    ("uris", .list (f.uris.map .text))]

def Destination.summary (d : Destination) : List (String × Value) :=
  [("destination_name", .text d.name), ("is_queue", .bool d.isQueue), ("is_temporary", .bool d.isTemporary),
    ("amqp", .bool d.amqp), ("amqp_exchange_name", .optional d.amqpExchangeName),
    ("amqp_routing_key", .optional d.amqpRoutingKey), ("amqp_queue_name", .optional d.amqpQueueName)]

/-- The fields that are shown, in order. -/
def Resource.summary (r : Resource) : List (String × Value) :=
  (match r with
    | factory f => f.summary
    | destination d => d.summary) ++ [("kind", .text r.kind.text)]

end JmsNaming
