import AtLeastOnce.Failure
import AtLeastOnce.Receiver.Totals

/-!
# Log entries

Everything that is logged, by meaning, and how each entry is written: a level, a
message and named fields.
-/

namespace AtLeastOnce

inductive LogLevel where
  | trace
  | debug
  | info
  | warn
  | error
  deriving DecidableEq, Repr

def LogLevel.name : LogLevel → String
  | .trace => "TRACE"
  | .debug => "DEBUG"
  | .info => "INFO"
  | .warn => "WARN"
  | .error => "ERROR"

/-- More severe levels have smaller ranks. -/
def LogLevel.rank : LogLevel → Nat
  | .error => 1
  | .warn => 2
  | .info => 3
  | .debug => 4
  | .trace => 5

inductive LogEntry where
  | receiverStarted (queueUrl : String) (deadLetterUrl : Option String)
      (maxInFlight batchSize : Nat) (waitSeconds : Int)
  | stateChanged (queueUrl : String) (before after : WorkerState)
  | noMessages (queueUrl : String)
  | receiveRecovered (queueUrl : String) (previousFailures : Nat)
  | surplusReceived (queueUrl : String) (requested received : Nat)
  | receiveFailed (queueUrl : String) (error : CallError) (failures backoffMilliseconds : Nat)
  | receivingGivenUp (queueUrl : String) (error : CallError) (failures : Nat)
  | draining (queueUrl : String) (inFlight graceMilliseconds : Nat)
  | graceElapsed (queueUrl : String) (stillRunning graceMilliseconds : Nat)
  | receiverStopped (queueUrl : String) (totals : Totals)
  | taskFailed (text : String)
  | processorPanicked (messageId : String) (reason : String)
  | deadLetterPublished (messageId copyId deadLetterUrl : String)
  | ackFailed (messageId queueUrl : String) (receiveCount : Nat) (reason : String)
      (error : AckError)
  | messageProcessed (messageId queueUrl : String)
  | leftForRedelivery (messageId queueUrl : String) (receiveCount : Nat) (reason : String)
  | deadLettered (messageId queueUrl : String) (receiveCount : Nat) (reason : String)
  | orderAccepted (messageId orderId event : String) (redelivery : Bool)
  | receiveCompleted (queueUrl : String) (requested received : Nat)
  | handleMissing (queueUrl messageId : String)
  | queueReachable (queueUrl arn : String)
  | endpointOverridden (endpointUrl : String)
  | listenerStarted (address : String)
  | listenerClosed (address : String) (graceMilliseconds : Nat)
  | serverStopped (address : String)
  | serverForced (address error : String)
  | signalReceived (signal : String)
  | staticCredentials (region : String)
  | workerExited (count : Nat)
  | workerFailed (error : String)
  | serverExited
  | serverFailed (error : String)
  deriving DecidableEq, Repr

namespace LogEntry

def level : LogEntry → LogLevel
  | .receiverStarted .. => .info
  | .stateChanged .. => .debug
  | .noMessages .. => .debug
  | .receiveRecovered .. => .info
  | .surplusReceived .. => .warn
  | .receiveFailed .. => .warn
  | .receivingGivenUp .. => .error
  | .draining .. => .info
  | .graceElapsed .. => .warn
  | .receiverStopped .. => .info
  | .taskFailed .. => .error
  | .processorPanicked .. => .error
  | .deadLetterPublished .. => .debug
  | .ackFailed .. => .error
  | .messageProcessed .. => .debug
  | .leftForRedelivery .. => .warn
  | .deadLettered .. => .warn
  | .orderAccepted .. => .info
  | .receiveCompleted .. => .debug
  | .handleMissing .. => .warn
  | .queueReachable .. => .info
  | .endpointOverridden .. => .debug
  | .listenerStarted .. => .info
  | .listenerClosed .. => .info
  | .serverStopped .. => .info
  | .serverForced .. => .warn
  | .signalReceived .. => .info
  | .staticCredentials .. => .info
  | .workerExited .. => .info
  | .workerFailed .. => .error
  | .serverExited => .info
  | .serverFailed .. => .error

def message : LogEntry → String
  | .receiverStarted .. => "receiver started"
  | .stateChanged .. => "worker state"
  | .noMessages .. => "no messages available"
  | .receiveRecovered .. => "receive recovered"
  | .surplusReceived .. =>
      "queue returned more messages than requested, extras left for redelivery"
  | .receiveFailed .. => "receive failed, backing off"
  | .receivingGivenUp .. => "receive keeps failing, giving up and shutting down"
  | .draining .. => "draining in-flight messages"
  | .graceElapsed .. =>
      "grace period elapsed, abandoning in-flight messages; they will be redelivered"
  | .receiverStopped .. => "receiver stopped"
  | .taskFailed .. => "message task failed"
  | .processorPanicked .. => "processor panicked"
  | .deadLetterPublished .. => "published to dead-letter queue"
  | .ackFailed .. => "ack failed, message left for redelivery"
  | .messageProcessed .. => "message processed"
  | .leftForRedelivery .. => "retryable failure, message left for redelivery"
  | .deadLettered .. => "terminal failure, message dead-lettered"
  | .orderAccepted .. => "order event accepted"
  | .receiveCompleted .. => "receive completed"
  | .handleMissing .. => "received message without receipt handle, skipping"
  | .queueReachable .. => "queue reachable"
  | .endpointOverridden .. => "overriding SQS endpoint"
  | .listenerStarted .. => "http listener started"
  | .listenerClosed .. => "http listener closed, waiting for in-flight requests"
  | .serverStopped .. => "http server stopped"
  | .serverForced .. => "forcing http server to stop"
  | .signalReceived .. => "termination signal received, starting graceful shutdown"
  | .staticCredentials .. => "using static credentials from settings"
  | .workerExited .. => "worker exited cleanly"
  | .workerFailed .. => "worker failed"
  | .serverExited => "http server exited cleanly"
  | .serverFailed .. => "http server failed"

def boolText (value : Bool) : String := if value then "true" else "false"

/-- The named fields of an entry, each written as text.  The four entries that close the
handling of a delivery also name the milliseconds that it took by the wall clock; they are
left out, since no clock of the model is behind them. -/
def fields : LogEntry → List (String × String)
  | .receiverStarted queueUrl deadLetterUrl maxInFlight batchSize waitSeconds =>
      [("queue_url", queueUrl), ("dead_letter_queue_url", deadLetterUrl.getD "none"),
        ("max_in_flight", toString maxInFlight), ("batch_size", toString batchSize),
        ("wait_time_seconds", toString waitSeconds)]
  | .stateChanged queueUrl before after =>
      [("queue_url", queueUrl), ("from", before.name), ("to", after.name)]
  | .noMessages queueUrl => [("queue_url", queueUrl)]
  | .receiveRecovered queueUrl previousFailures =>
      [("queue_url", queueUrl), ("previous_failures", toString previousFailures)]
  | .surplusReceived queueUrl requested received =>
      [("queue_url", queueUrl), ("requested", toString requested),
        ("received", toString received)]
  | .receiveFailed queueUrl error failures backoffMilliseconds =>
      [("queue_url", queueUrl), ("error_kind", error.fault.kind), ("error", error.message),
        ("consecutive_failures", toString failures),
        ("backoff_ms", toString backoffMilliseconds)]
  | .receivingGivenUp queueUrl error failures =>
      [("queue_url", queueUrl), ("error_kind", error.fault.kind), ("error", error.message),
        ("consecutive_failures", toString failures)]
  | .draining queueUrl inFlight graceMilliseconds =>
      [("queue_url", queueUrl), ("in_flight", toString inFlight),
        ("grace_ms", toString graceMilliseconds)]
  | .graceElapsed queueUrl stillRunning graceMilliseconds =>
      [("queue_url", queueUrl), ("still_running", toString stillRunning),
        ("grace_ms", toString graceMilliseconds)]
  | .receiverStopped queueUrl totals =>
      [("queue_url", queueUrl), ("processed", toString totals.processed),
        ("deleted", toString totals.acks.deleted),
        ("dead_lettered", toString totals.acks.deadLettered),
        ("left_for_redelivery", toString totals.acks.left),
        ("ack_failures", toString totals.acks.failed),
        ("abandoned", toString totals.abandoned)]
  | .taskFailed text => [("error", text)]
  | .processorPanicked messageId reason => [("message_id", messageId), ("panic", reason)]
  | .deadLetterPublished messageId copyId deadLetterUrl =>
      [("message_id", messageId), ("dead_letter_id", copyId),
        ("dead_letter_queue_url", deadLetterUrl)]
  | .ackFailed messageId queueUrl receiveCount reason error =>
      [("message_id", messageId), ("queue_url", queueUrl),
        ("receive_count", toString receiveCount), ("reason", reason),
        ("error", error.message)]
  | .messageProcessed messageId queueUrl => [("message_id", messageId), ("queue_url", queueUrl)]
  | .leftForRedelivery messageId queueUrl receiveCount reason =>
      [("message_id", messageId), ("queue_url", queueUrl),
        ("receive_count", toString receiveCount), ("reason", reason)]
  | .deadLettered messageId queueUrl receiveCount reason =>
      [("message_id", messageId), ("queue_url", queueUrl),
        ("receive_count", toString receiveCount), ("reason", reason)]
  | .orderAccepted messageId orderId event redelivery =>
      [("message_id", messageId), ("order_id", orderId), ("event", event),
        ("redelivery", boolText redelivery)]
  | .receiveCompleted queueUrl requested received =>
      [("queue_url", queueUrl), ("requested", toString requested),
        ("received", toString received)]
  | .handleMissing queueUrl messageId =>
      [("queue_url", queueUrl), ("message_id", messageId)]
  | .queueReachable queueUrl arn => [("queue_url", queueUrl), ("queue_arn", arn)]
  | .endpointOverridden endpointUrl => [("endpoint_url", endpointUrl)]
  | .listenerStarted address => [("address", address)]
  | .listenerClosed address graceMilliseconds =>
      [("address", address), ("grace_ms", toString graceMilliseconds)]
  | .serverStopped address => [("address", address)]
  | .serverForced address error => [("address", address), ("error", error)]
  | .signalReceived signal => [("signal", signal)]
  | .staticCredentials region => [("region", region)]
  | .workerExited count => [("processed", toString count)]
  | .workerFailed error => [("error", error)]
  | .serverExited => []
  | .serverFailed error => [("error", error)]

/-- The message that an entry is about, if it names one. -/
def messageId? (entry : LogEntry) : Option String :=
  entry.fields.lookup "message_id"

end LogEntry

end AtLeastOnce
