import KeyedDelivery.Broker.Accept
import KeyedDelivery.Broker.Backlog
import KeyedDelivery.Broker.Basic
import KeyedDelivery.Broker.Client
import KeyedDelivery.Broker.Delivery
import KeyedDelivery.Broker.Error
import KeyedDelivery.Broker.Event
import KeyedDelivery.Broker.Take
import KeyedDelivery.Config.Consumer
import KeyedDelivery.Config.Environment
import KeyedDelivery.Config.Lock
import KeyedDelivery.Config.Pool
import KeyedDelivery.Config.Producer
import KeyedDelivery.Consumer.Basic
import KeyedDelivery.Consumer.Retry
import KeyedDelivery.Consumer.Run
import KeyedDelivery.Consumer.Stage
import KeyedDelivery.Decimal.Shortest
import KeyedDelivery.Delay.Level
import KeyedDelivery.Delay.Table
import KeyedDelivery.Json.Fault
import KeyedDelivery.Json.Number
import KeyedDelivery.Json.Record
import KeyedDelivery.Json.Scan
import KeyedDelivery.Json.Skip
import KeyedDelivery.Json.Value
import KeyedDelivery.Json.Writer
import KeyedDelivery.Lock.Error
import KeyedDelivery.Lock.Mutex
import KeyedDelivery.Lock.Registry
import KeyedDelivery.LogContext
import KeyedDelivery.Message
import KeyedDelivery.MessageId
import KeyedDelivery.Outcome
import KeyedDelivery.PackageBind
import KeyedDelivery.Permits
import KeyedDelivery.Pool.Basic
import KeyedDelivery.Pool.Error
import KeyedDelivery.Pool.Event
import KeyedDelivery.Pool.Serve
import KeyedDelivery.Producer.Async
import KeyedDelivery.Producer.Basic
import KeyedDelivery.Producer.Dispatch
import KeyedDelivery.Proofs.Broker.Logs
import KeyedDelivery.Queue
import KeyedDelivery.Rehearsal.Consumers
import KeyedDelivery.Rehearsal.Drain
import KeyedDelivery.Rehearsal.HandFeed
import KeyedDelivery.Rehearsal.Hooks
import KeyedDelivery.Rehearsal.LockAction
import KeyedDelivery.Rehearsal.Locks
import KeyedDelivery.Rehearsal.Pipeline
import KeyedDelivery.Rehearsal.Pool
import KeyedDelivery.Rehearsal.ScriptedLock
import KeyedDelivery.Rehearsal.Sends
import KeyedDelivery.Routing
import KeyedDelivery.Table
import KeyedDelivery.TagFilter
import KeyedDelivery.Text.Blank
import KeyedDelivery.Text.Numeral
import KeyedDelivery.Text.Printable
import KeyedDelivery.Text.Quoted
import KeyedDelivery.Text.Units16
import KeyedDelivery.Text.Utf8
import KeyedDelivery.Time
import KeyedDelivery.Validation
import KeyedDelivery.Rehearsal.Clients
import KeyedDelivery.Rehearsal.NamedContexts
import KeyedDelivery.Rehearsal.NamedPermits
import KeyedDelivery.Rehearsal.Report
import KeyedDelivery.Proofs.Broker.Taking
import KeyedDelivery.Proofs.Broker.FirstDelivery
import KeyedDelivery.Proofs.Pool.Transition
import KeyedDelivery.Proofs.Pool.Accounting
import KeyedDelivery.Proofs.Pool.Service
import KeyedDelivery.Lock.Event
import KeyedDelivery.Proofs.Lock.Exclusion
import KeyedDelivery.Proofs.Lock.Attempt
import KeyedDelivery.Proofs.Broker.Redelivery
import KeyedDelivery.Consumer.Event
import KeyedDelivery.Consumer.Session
import KeyedDelivery.Proofs.Consumer.Docket
import KeyedDelivery.Proofs.Consumer.Accounting
import KeyedDelivery.Proofs.Consumer.Session
import KeyedDelivery.Proofs.Consumer.Failures
import KeyedDelivery.Proofs.Broker.Waiting
import KeyedDelivery.Proofs.Consumer.Course
import KeyedDelivery.Proofs.Consumer.Turns
import KeyedDelivery.Proofs.Consumer.Retries
import KeyedDelivery.Proofs.Broker.Placement
import KeyedDelivery.Proofs.Broker.Numbering
import KeyedDelivery.Proofs.Broker.Backlog
import KeyedDelivery.Proofs.Broker.Subscriptions
import KeyedDelivery.Proofs.Broker.Acceptance
import KeyedDelivery.Proofs.Lock.Tokens
import KeyedDelivery.Proofs.Producer.Outcome
import KeyedDelivery.Proofs.Pool.Sizes
import KeyedDelivery.Proofs.Runs
import KeyedDelivery.Proofs.Pool.Journal
import KeyedDelivery.Proofs.Pool.Ledger
import KeyedDelivery.Proofs.Pool.Order
import KeyedDelivery.Pool.Handle
import KeyedDelivery.Proofs.Pool.Replies
import KeyedDelivery.Proofs.Pool.Handles
import KeyedDelivery.Pool.Threads
import KeyedDelivery.Proofs.Pool.Contexts
import KeyedDelivery.Proofs.Consumer.Permits
import KeyedDelivery.Consumer.Lifecycle
import KeyedDelivery.Producer.Stage
import KeyedDelivery.Producer.Traffic
import KeyedDelivery.Proofs.Producer.Traffic
import KeyedDelivery.Proofs.Producer.Exclusion
import KeyedDelivery.Proofs.Producer.Stage
import KeyedDelivery.Proofs.Producer.Agreement
import KeyedDelivery.Proofs.Producer.Solo
import KeyedDelivery.Producer.PostOffice
import KeyedDelivery.Proofs.Broker.Uniform
import KeyedDelivery.Proofs.Broker.Keys
import KeyedDelivery.Proofs.Producer.PostOffice
import KeyedDelivery.Proofs.Producer.KeyOrder
import KeyedDelivery.Proofs.Consumer.Lifecycle
import KeyedDelivery.Lock.Company
import KeyedDelivery.Proofs.Lock.Interference
import KeyedDelivery.Proofs.Lock.Passage
import KeyedDelivery.Proofs.Lock.Company
import KeyedDelivery.Proofs.Lock.Kept
import KeyedDelivery.Producer.Company
import KeyedDelivery.Producer.Pooled
import KeyedDelivery.Proofs.Producer.Company
import KeyedDelivery.Proofs.Producer.PackageBind
import KeyedDelivery.Proofs.PackageBind
import KeyedDelivery.Proofs.Json.Grammar
import KeyedDelivery.Proofs.Json.Text
import KeyedDelivery.Proofs.Json.Number
import KeyedDelivery.Proofs.Json.Passing
import KeyedDelivery.Proofs.Json.Values
import KeyedDelivery.Proofs.Json.Object
import KeyedDelivery.Proofs.Text.Utf8
import KeyedDelivery.Proofs.Broker.Unstamped
import KeyedDelivery.Proofs.Pool.Lone
import KeyedDelivery.Proofs.Producer.Pooled
import KeyedDelivery.Proofs.Producer.Kept
import KeyedDelivery.Proofs.Producer.Timing
import KeyedDelivery.Proofs.Producer.Asynchronous
import KeyedDelivery.Producer.Recorded
import KeyedDelivery.Proofs.Broker.Draining
import KeyedDelivery.Proofs.Producer.Attempts
import KeyedDelivery.Consumer.Transcript
import KeyedDelivery.Proofs.Consumer.Handling
import KeyedDelivery.Proofs.Lock.Undisturbed
import KeyedDelivery.Proofs.Text.Words
import KeyedDelivery.Proofs.Delay.Schedule
import KeyedDelivery.Proofs.Delay.Levels
import KeyedDelivery.Proofs.Config.Setting
import KeyedDelivery.Proofs.Config.Environment
import KeyedDelivery.Proofs.Text.Units16
import KeyedDelivery.Proofs.Routing
import KeyedDelivery.Proofs.Text.Trim
import KeyedDelivery.Proofs.TagFilter
import KeyedDelivery.LogContext.Event
import KeyedDelivery.Proofs.LogContext
import KeyedDelivery.Proofs.Json.List
import KeyedDelivery.Proofs.Wire
