import AtLeastOnce.Queue.CallError
import AtLeastOnce.Time.Duration

/-!
# Failures of a whole run

The errors that end a consumer, their texts, and the exit status of a process
that they end.
-/

namespace AtLeastOnce

inductive ShutdownError where
  /-- Tasks were still running at the end of the grace period. -/
  | graceExceeded (grace : Duration) (remaining : Nat)
  /-- One piece of work did not stop in time. -/
  | timeout (what : String) (grace : Duration)
  deriving DecidableEq, Repr

def ShutdownError.message : ShutdownError → String
  | .graceExceeded grace remaining =>
      "shutdown grace period of " ++ grace.text ++ " exceeded with " ++ toString remaining ++
        " task(s) still running"
  | .timeout what grace => what ++ " did not stop within " ++ grace.text

inductive Failure where
  | initialization (detail : String)
  | configuration (detail : String)
  | call (error : CallError)
  /-- Receiving failed this often in a row and was given up. -/
  | pollRetriesExhausted (queueUrl : String) (attempts : Nat) (lastError : CallError)
  | shutdown (error : ShutdownError)
  | server (detail : String)
  deriving DecidableEq, Repr

namespace Failure

def message : Failure → String
  | .initialization detail => "failed to initialize AWS SQS client: " ++ detail
  | .configuration detail => "invalid configuration: " ++ detail
  | .call error => error.message
  | .pollRetriesExhausted queueUrl attempts lastError =>
      "receiving from " ++ queueUrl ++ " failed " ++ toString attempts ++
        " consecutive times: " ++ lastError.message
  | .shutdown error => error.message
  | .server detail => "http server error: " ++ detail

/-- One when running work was cut off, two when the process could not start. -/
def exitCode : Failure → Nat
  | .shutdown _ => 1
  | .pollRetriesExhausted _ _ _ => 1
  | _ => 2

end Failure

end AtLeastOnce
