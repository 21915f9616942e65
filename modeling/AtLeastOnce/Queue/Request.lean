/-!
# Requests to a queue

What is asked of a queue when messages are received from it or published to it.
-/

namespace AtLeastOnce

/-- Most messages that one receive may ask for. -/
def batchLimit : Nat := 10

/-- Longest wait of one receive, in seconds. -/
def waitLimit : Nat := 20

/-- `value` moved into `[lower, upper]`. -/
def clampNat (lower upper : Nat) (value : Int) : Nat :=
  Max.max lower (Min.min upper value.toNat)

structure ReceiveRequest where
  queueUrl : String
  maxMessages : Nat
  waitSeconds : Nat
  deriving DecidableEq, Repr

/-- A request within the limits of the queue service. -/
def ReceiveRequest.clamped (queueUrl : String) (maxMessages waitSeconds : Int) :
    ReceiveRequest :=
  ⟨queueUrl, clampNat 1 batchLimit maxMessages, clampNat 0 waitLimit waitSeconds⟩

/-- A message to be published.  Group and deduplication id are for queues that
keep order. -/
structure Publication where
  body : String
  group : Option String
  deduplication : Option String
  deriving DecidableEq, Repr

def Publication.plain (body : String) : Publication := ⟨body, none, none⟩

def Publication.withOrder (publication : Publication) (group deduplication : String) :
    Publication :=
  { publication with group := some group, deduplication := some deduplication }

/-- The ending of the address of a queue that keeps order. -/
def orderedQueueEnding : String := ".fifo"

/-- Whether the address names a queue that keeps order. -/
def isOrderedQueue (queueUrl : String) : Bool :=
  orderedQueueEnding.toList.isSuffixOf queueUrl.toList

end AtLeastOnce
