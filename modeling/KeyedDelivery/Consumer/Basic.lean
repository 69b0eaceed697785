import KeyedDelivery.Broker.Client
import KeyedDelivery.Config.Consumer
import KeyedDelivery.Consumer.Retry
import KeyedDelivery.Outcome
import KeyedDelivery.PackageBind
import KeyedDelivery.Permits

/-!
# Consumers

A consumer subscribes to a topic and hands what is delivered to a handler. Transport, handler and
dead-letter sink are given as functions on the state `σ` of the world.

* A `Handler` has three hooks, asked in the order of `Hook`: whether the message is to be passed
  over, whether it was handled before, and the processing itself.
* A `DeadLetter` is a message that was given up.
-/

namespace KeyedDelivery

/-- The life of a consumer. -/
inductive ConsumerState where
  | stopped
  | subscribing
  | running
  /-- Shut down, or could not be started. -/
  | terminated
  deriving DecidableEq, Repr

def ConsumerState.name : ConsumerState → String
  | .stopped => "Stopped"
  | .subscribing => "Subscribing"
  | .running => "Running"
  | .terminated => "Terminated"

/-- Why a consumer does not start, or cannot be made. -/
inductive ConsumerError where
  | config (error : ConfigError)
  | subscribe (topic reason : String)
  | start (reason : String)
  | invalidState (state : ConsumerState)
  deriving DecidableEq, Repr

def ConsumerError.kind : ConsumerError → String
  | .config _ => "Config"
  | .subscribe .. => "Subscribe"
  | .start _ => "Start"
  | .invalidState _ => "InvalidState"

def ConsumerError.message : ConsumerError → String
  | .config error => error.message
  | .subscribe topic reason => "failed to subscribe to topic " ++ topic ++ ": " ++ reason
  | .start reason => "failed to start consumer: " ++ reason
  | .invalidState state => "consumer cannot start from state " ++ state.name

/-- The figures a consumer reports. -/
structure ConsumerStats where
  received : Nat := 0
  succeeded : Nat := 0
  /-- Deliveries whose processing answered no. -/
  failed : Nat := 0
  /-- Deliveries of which a hook failed or panicked. -/
  errored : Nat := 0
  filtered : Nat := 0
  duplicates : Nat := 0
  /-- Deliveries that were asked for again. -/
  retried : Nat := 0
  /-- Deliveries that were given up. -/
  exhausted : Nat := 0
  deadLettered : Nat := 0
  /-- Deliveries the pool refused. -/
  dropped : Nat := 0
  deriving DecidableEq, Repr

/-- The hooks of a handler. -/
inductive Hook where
  | filter
  | duplicate
  | process
  deriving DecidableEq, Repr

def Hook.name : Hook → String
  | .filter => "filter"
  | .duplicate => "duplicate"
  | .process => "process"

/-- What a hook answers: yes or no, or it fails with a chain of causes, the outermost first, or it
panics. -/
abbrev HookAnswer := Outcome (Except (List String) Bool)

/-- The hooks, which see the body of a message as a text. -/
structure Handler (σ : Type) where
  ask : Hook → String → σ → HookAnswer × σ

namespace Handler

variable {σ : Type}

/-- A handler that passes nothing over. -/
def ofProcess (process : String → σ → HookAnswer × σ) : Handler σ where
  ask h body s :=
    match h with
    | .process => process body s
    | _ => (.returned (.ok false), s)

/-- A handler of package bindings. A body that is none is a failed delivery. -/
def packageBind (apply : PackageBind → σ → HookAnswer × σ) : Handler σ :=
  .ofProcess fun body s =>
    match PackageBind.ofJson body with
    | .ok b => apply b s
    | .error _ => (.returned (.ok false), s)

def acceptBinds : Handler σ := packageBind fun _ s => (.returned (.ok true), s)

end Handler

/-- A message that was given up. -/
structure DeadLetter where
  delivery : Delivery
  reason : String
  /-- How often it was delivered. -/
  attempts : UInt32
  deriving DecidableEq, Repr

/-- The dead letter of a delivery that failed. -/
def DeadLetter.ofDelivery (d : Delivery) (reason : String) : DeadLetter :=
  ⟨d, reason, DelayLevel.increment d.reconsumed⟩

/-- A transport for deliveries. Its errors are texts. -/
structure ConsumerTransport (σ : Type) where
  subscribe : String → String → σ → Except String Unit × σ
  /-- Takes the consumer's listener. -/
  listen : σ → σ
  start : σ → Except String Unit × σ
  reconsumeLater : Delivery → DelayLevel → σ → Except String Unit × σ
  shutdown : σ → σ

def ConsumerTransport.inMemory {σ : Type} (broker : σ → Broker) (setBroker : Broker → σ → σ)
    (client : σ → ConsumerClient) (setClient : ConsumerClient → σ → σ) (now : σ → Nat) :
    ConsumerTransport σ where
  subscribe topic tags s :=
    match (client s).subscribe (broker s) topic tags with
    | (.error e, b) => (.error e.message, setBroker b s)
    | (.ok c, b) => (.ok (), setClient c (setBroker b s))
  listen s := setClient (client s).listen s
  start s :=
    match (client s).start with
    | .error e => (.error e.message, s)
    | .ok (c, _) => (.ok (), setClient c s)
  reconsumeLater d level s :=
    let (r, b) := (client s).reconsumeLater (broker s) (now s) d level
    (r.mapError (·.message), setBroker b s)
  shutdown s := setClient (client s).shutdown s

/-- A consumer: its settings and what it works with. Without a sink, what is given up is
dropped. -/
structure Consumer (σ : Type) where
  config : ConsumerConfig
  transport : ConsumerTransport σ
  handler : Handler σ
  sink : Option (DeadLetter → σ → Outcome Unit × σ) := none

/-- How a consumer retries. -/
def Consumer.retry {σ : Type} (c : Consumer σ) : RetryPolicy := ⟨c.config.maxRetryTimes⟩

end KeyedDelivery
