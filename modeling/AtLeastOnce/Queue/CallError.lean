/-!
# Failed queue calls

The operations of a queue and the ways a call of one of them can fail.
-/

namespace AtLeastOnce

inductive QueueOperation where
  | send
  | receive
  | delete
  | attributes
  deriving DecidableEq, Repr

/-- The action of the queue service. -/
def QueueOperation.action : QueueOperation → String
  | .send => "SendMessage"
  | .receive => "ReceiveMessage"
  | .delete => "DeleteMessage"
  | .attributes => "GetQueueAttributes"

inductive CallFault where
  | timeout
  /-- The request never reached the service. -/
  | dispatch (detail : String)
  /-- The service answered with an error code. -/
  | service (code : String) (detail : String)
  /-- The answer could not be understood. -/
  | response (detail : String)
  | other (detail : String)
  deriving DecidableEq, Repr

/-- A short label for the kind of fault. -/
def CallFault.kind : CallFault → String
  | .timeout => "timeout"
  | .dispatch _ => "dispatch"
  | .service _ _ => "service"
  | .response _ => "response"
  | .other _ => "other"

structure CallError where
  operation : QueueOperation
  queueUrl : String
  fault : CallFault
  deriving DecidableEq, Repr

def CallError.message (error : CallError) : String :=
  let call := error.operation.action ++ " on " ++ error.queueUrl
  match error.fault with
  | .timeout => call ++ " timed out"
  | .dispatch detail => call ++ " could not be dispatched: " ++ detail
  | .service code detail => call ++ " rejected with " ++ code ++ ": " ++ detail
  | .response detail => call ++ " returned an unreadable response: " ++ detail
  | .other detail => call ++ " failed: " ++ detail

end AtLeastOnce
