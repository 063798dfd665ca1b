import JmsNaming.ObjectKind

/-
Destinations: queues and topics, either plain, with an exchange chosen by their kind, or mapped onto
given AMQP names.
-/
namespace JmsNaming

/-- A queue or a topic. -/
structure Destination where
  name : String
  isQueue : Bool := true
  isTemporary : Bool := false
  amqp : Bool := false
  amqpExchangeName : Option String := none
  amqpRoutingKey : Option String := none
  amqpQueueName : Option String := none
  deriving DecidableEq

namespace Destination

/-- A destination must have a name. -/
inductive Fault where
  | emptyName
  deriving DecidableEq

def Fault.message : Fault → String
  | emptyName => "destination_name must not be empty"

/-- The destination, provided that it has a name. -/
def checked (d : Destination) : Except Fault Destination :=
  if d.name = "" then .error .emptyName else .ok d

/-- A plain queue or topic. -/
def plain (name : String) (isQueue : Bool) (isTemporary : Bool := false) : Except Fault Destination :=
  checked { name, isQueue, isTemporary }

/-- A destination mapped onto AMQP names; it is a queue if it has a queue to consume from. -/
def amqpMapped (name : String) (exchange routingKey queue : Option String) : Except Fault Destination :=
  checked { name, isQueue := queue.isSome, amqp := true, amqpExchangeName := exchange,
            amqpRoutingKey := routingKey, amqpQueueName := queue }

def isTopic (d : Destination) : Bool :=
  !d.isQueue

def kind (d : Destination) : ObjectKind :=
  if d.amqp then .amqpMappedDestination else if d.isQueue then .queue else .topic

/-- The exchange to publish to. -/
def exchangeName (d : Destination) : Option String :=
  if d.amqp then d.amqpExchangeName
  else if d.isQueue then some (if d.isTemporary then "jms.temp.queues" else "jms.durable.queues")
  else some (if d.isTemporary then "jms.temp.topic" else "jms.durable.topic")

/-- The routing key to publish with. -/
def routingKey (d : Destination) : Option String :=
  if d.amqp then d.amqpRoutingKey else some d.name

/-- The queue to consume from. -/
def queueName (d : Destination) : Option String :=
  if d.amqp then d.amqpQueueName else if d.isQueue then some d.name else none

end Destination

end JmsNaming
