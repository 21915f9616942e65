import AtLeastOnce.Backoff
import AtLeastOnce.Handling.Task
import AtLeastOnce.Queue.Request

/-!
# Options of a receiver

Which queue is received from, how much at a time, and how failures and the end of
the run are dealt with.
-/

namespace AtLeastOnce

structure ReceiverOptions where
  queueUrl : String
  deadLetterUrl : Option String
  /-- Most messages of one receive, as configured. -/
  maxMessages : Int
  /-- The wait of one receive in seconds, as configured. -/
  waitSeconds : Int
  /-- Most deliveries handled at once. -/
  maxInFlight : Nat
  /-- How long deliveries may still be handled after the shutdown. -/
  gracePeriod : Duration
  backoff : Backoff
  /-- The pause after a receive that does not wait and brings nothing. -/
  emptyPollDelay : Duration
  deriving DecidableEq, Repr

namespace ReceiverOptions

/-- The options for a queue when nothing else is asked for. -/
def standard (queueUrl : String) : ReceiverOptions :=
  { queueUrl
    deadLetterUrl := none
    maxMessages := batchLimit
    waitSeconds := waitLimit
    maxInFlight := 10
    gracePeriod := .ofSeconds 30
    backoff := .standard
    emptyPollDelay := .ofSeconds 1 }

def withDeadLetterQueue (options : ReceiverOptions) (url : String) : ReceiverOptions :=
  { options with deadLetterUrl := some url }

def withBatch (options : ReceiverOptions) (maxMessages waitSeconds : Int) : ReceiverOptions :=
  { options with maxMessages, waitSeconds }

/-- Zero is raised to one, so that the receiver can make progress. -/
def withMaxInFlight (options : ReceiverOptions) (maxInFlight : Nat) : ReceiverOptions :=
  { options with maxInFlight := Max.max 1 maxInFlight }

def withGracePeriod (options : ReceiverOptions) (gracePeriod : Duration) : ReceiverOptions :=
  { options with gracePeriod }

def withBackoff (options : ReceiverOptions) (backoff : Backoff) : ReceiverOptions :=
  { options with backoff }

def withEmptyPollDelay (options : ReceiverOptions) (emptyPollDelay : Duration) :
    ReceiverOptions :=
  { options with emptyPollDelay }

/-- The number of deliveries that may be handled at once. -/
def capacity (options : ReceiverOptions) : Nat := Max.max 1 options.maxInFlight

/-- The most messages that one receive asks for. -/
def batchSize (options : ReceiverOptions) : Nat := clampNat 1 batchLimit options.maxMessages

def route (options : ReceiverOptions) : Route := ⟨options.queueUrl, options.deadLetterUrl⟩

end ReceiverOptions

end AtLeastOnce
