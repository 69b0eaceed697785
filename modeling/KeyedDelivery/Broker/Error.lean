/-!
# What a transport refuses
-/

namespace KeyedDelivery

/-- Why the in-memory transport refuses a request. -/
inductive TransportError where
  | notStarted
  | shutdown
  | topicNotFound (topic : String)
  | unknownQueue (queue : String)
  | sendRejected (reason : String)
  | notSubscribed
  | noListener
  | spawn (reason : String)
  deriving DecidableEq, Repr

def TransportError.kind : TransportError → String
  | .notStarted => "NotStarted"
  | .shutdown => "Shutdown"
  | .topicNotFound _ => "TopicNotFound"
  | .unknownQueue _ => "UnknownQueue"
  | .sendRejected _ => "SendRejected"
  | .notSubscribed => "NotSubscribed"
  | .noListener => "NoListener"
  | .spawn _ => "Spawn"

def TransportError.message : TransportError → String
  | .notStarted => "client is not started"
  | .shutdown => "client is shut down"
  | .topicNotFound topic => "topic not found: " ++ topic
  | .unknownQueue queue => "queue " ++ queue ++ " does not belong to this broker"
  | .sendRejected reason => "send rejected: " ++ reason
  | .notSubscribed => "no subscription registered"
  | .noListener => "no listener registered"
  | .spawn reason => "failed to spawn delivery thread: " ++ reason

end KeyedDelivery
