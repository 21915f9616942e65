import AtLeastOnce.Shutdown

/-!
# Waiting for the shutdown

The flag on a clock that counts milliseconds, with triggers that lie ahead and with
waiters that return as soon as the flag is up.
-/

namespace AtLeastOnce.Shutdown

structure Timeline where
  now : Nat
  shutdown : Shutdown
  /-- The moments of the triggers that lie ahead. -/
  ahead : List Nat
  /-- How many waiters wait, or have waited, in the background. -/
  waiters : Nat
  deriving DecidableEq, Repr

namespace Timeline

def start : Timeline := ⟨0, .idle, [], 0⟩

/-- Raises the flag, and says whether it was down before. -/
def trigger (timeline : Timeline) : Timeline × Bool :=
  let (shutdown, flipped) := timeline.shutdown.trigger
  ({ timeline with shutdown }, flipped)

/-- Lets time pass up to a moment; the triggers that come due raise the flag. -/
def passTo (moment : Nat) (timeline : Timeline) : Timeline :=
  let due := timeline.ahead.filter fun trigger => trigger ≤ moment
  { timeline with
    now := Max.max timeline.now moment
    shutdown := if due = [] then timeline.shutdown else timeline.shutdown.trigger.1
    ahead := timeline.ahead.filter fun trigger => moment < trigger }

def sleep (milliseconds : Nat) (timeline : Timeline) : Timeline :=
  timeline.passTo (timeline.now + milliseconds)

/-- Sets a trigger that many milliseconds ahead. -/
def triggerLater (milliseconds : Nat) (timeline : Timeline) : Timeline :=
  { timeline with ahead := timeline.ahead ++ [timeline.now + milliseconds] }

def spawnWaiter (timeline : Timeline) : Timeline :=
  { timeline with waiters := timeline.waiters + 1 }

/-- The first trigger that lies ahead. -/
def nextTrigger? (timeline : Timeline) : Option Nat := timeline.ahead.min?

/-- Waits for the flag, but at most so long.  Says whether it came up. -/
def waitFor (milliseconds : Nat) (timeline : Timeline) : Timeline × Bool :=
  let deadline := timeline.now + milliseconds
  if timeline.shutdown.triggered then (timeline, true)
  else
    match timeline.nextTrigger? with
    | some moment =>
        if moment ≤ deadline then (timeline.passTo moment, true)
        else (timeline.passTo deadline, false)
    | none => (timeline.passTo deadline, false)

/-- Looks after a millisecond which of the waiters have returned. -/
def checkWaiters (timeline : Timeline) : Timeline × List Bool :=
  let timeline := timeline.sleep 1
  (timeline, List.replicate timeline.waiters timeline.shutdown.triggered)

end Timeline

end AtLeastOnce.Shutdown
