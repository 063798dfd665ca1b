/-
The kinds of objects that a resolution produces.
-/
namespace JmsNaming

inductive ObjectKind where
  | connectionFactory
  | queue
  | topic
  | amqpMappedDestination
  deriving DecidableEq

namespace ObjectKind

def text : ObjectKind → String
  | connectionFactory => "connection-factory"
  | queue => "queue"
  | topic => "topic"
  | amqpMappedDestination => "amqp-mapped-destination"

def all : List ObjectKind :=
  [connectionFactory, queue, topic, amqpMappedDestination]

/-- The kind that a text denotes. -/
def ofText? (s : String) : Option ObjectKind :=
  all.find? (·.text == s)

def isDestination (k : ObjectKind) : Bool :=
  k != connectionFactory

end ObjectKind

end JmsNaming
