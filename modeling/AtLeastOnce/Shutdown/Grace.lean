import AtLeastOnce.Event

/-!
# Work within a grace period

Work that may go on for a grace period and is given up then.
-/

namespace AtLeastOnce

/-- Waits for work begun at `now`, for the grace period at most.  Tells what came
of it and when; work that ends with the grace period still counts. -/
def drainWithin (what : String) (grace : Duration) (now : Nat) (work : Timed α) :
    Except ShutdownError α × Nat :=
  let deadline := now + grace.timerMilliseconds
  match work.endFrom now with
  | none => (.error (.timeout what grace), deadline)
  | some moment =>
      if moment ≤ deadline then (.ok work.result, moment)
      else (.error (.timeout what grace), deadline)

end AtLeastOnce
