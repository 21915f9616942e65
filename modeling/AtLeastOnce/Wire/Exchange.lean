import AtLeastOnce.Event
import AtLeastOnce.Wire.Record

/-!
# Exchanges with the service

A call, what becomes of it on the way, and what it comes to for the caller.  A
call may have to be answered within a limit.
-/

namespace AtLeastOnce.Wire

/-- What becomes of a call on the way. -/
inductive Transfer where
  | answered (response : Response)
  | lost (fault : CallFault)
  deriving DecidableEq, Repr

/-- What a call comes to: entries for the log, and a result. -/
structure Exchange (α : Type) where
  notes : List LogEntry
  result : Except CallError α

/-- Whether something that takes `delay` is not there within `limit`. -/
def comesLate : Option Nat → Option Nat → Bool
  | some limit, some delay => limit < delay
  | some _, none => true
  | none, _ => false

/-- The end of a call that waits for a number of milliseconds, or without end. -/
def await (limit : Option Nat) (transfer : Timed Transfer) :
    Timed (Except CallFault Response) :=
  if comesLate limit transfer.delay then ⟨limit, .error .timeout⟩
  else
    match transfer.result with
    | .answered response => ⟨transfer.delay, .ok response⟩
    | .lost fault => ⟨transfer.delay, .error fault⟩

/-- Makes a call and reads its response. -/
def exchange (limit : Option Nat) (call : Call) (transfer : Timed Transfer)
    (read : Response → Except CallFault α) (notes : α → List LogEntry) :
    Timed (Exchange α) :=
  let answer := await limit transfer
  let result :=
    match answer.result with
    | .ok response => read response
    | .error fault => .error fault
  match result with
  | .ok value => ⟨answer.delay, notes value, .ok value⟩
  | .error fault => ⟨answer.delay, [], .error (call.error fault)⟩

/-- Publishes a message. -/
def send (limit : Option Nat) (queueUrl : String) (publication : Publication)
    (transfer : Timed Transfer) : Timed (Exchange String) :=
  exchange limit (.send queueUrl publication) transfer Response.sent fun _ => []

/-- Deletes a delivery. -/
def delete (limit : Option Nat) (queueUrl : String) (handle : ReceiptHandle)
    (transfer : Timed Transfer) : Timed (Exchange Unit) :=
  exchange limit (.delete queueUrl handle) transfer Response.deleted fun _ => []

/-- What is logged about received messages. -/
def receiveNotes (request : ReceiveRequest) (records : List Record) : List LogEntry :=
  .receiveCompleted request.queueUrl request.maxMessages records.length ::
    records.filterMap fun record => record.missing? request.queueUrl

/-- Receives messages; those without a handle are left out. -/
def receive (limit : Option Nat) (request : ReceiveRequest) (transfer : Timed Transfer) :
    Timed (Exchange (List Delivery)) :=
  let answer := exchange limit (.receive request) transfer Response.received
    (receiveNotes request)
  ⟨answer.delay, answer.result.notes,
    answer.result.result.map fun records => records.filterMap Record.delivery?⟩

/-- Makes sure that the queue can be reached, and learns its name. -/
def probe (limit : Option Nat) (queueUrl : String) (transfer : Timed Transfer) :
    Timed (Exchange String) :=
  exchange limit (.attributes queueUrl) transfer Response.arn fun arn =>
    [.queueReachable queueUrl arn]

/-- The failure of a process that cannot reach its queue. -/
def probeFailure (error : CallError) : Failure := .initialization error.message

/-- The end of a queue call, without its log entries. -/
def callEnd (exchange : Timed (Exchange α)) : Timed (CallEnd α) :=
  ⟨exchange.delay,
    match exchange.result.result with
    | .ok value => .answered value
    | .error error => .failed error⟩

end AtLeastOnce.Wire
