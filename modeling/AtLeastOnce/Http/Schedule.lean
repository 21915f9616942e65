import AtLeastOnce.Handling.Task
import AtLeastOnce.Http.Server

/-!
# Running the listener on a virtual clock

Requests come in and the shutdown is triggered at given moments; answers are sent
as soon as they are there.
-/

namespace AtLeastOnce.Http.Server

/-- A request and the moment at which it comes in. -/
structure Arrival where
  time : Nat
  request : Request
  deriving DecidableEq, Repr

structure Run where
  state : State
  /-- Requests that have not come in yet. -/
  arrivals : List Arrival
  triggerAt : Option Nat

/-- The number of the first exchange whose answer is there. -/
def dueReply? (state : State) : Option Nat :=
  (state.opened.find? fun exchange => isDue state.now exchange.endsAt).map Exchange.number

/-- The next moment at which anything happens. -/
def nextMoment? (run : Run) : Option Nat :=
  earliest? (run.triggerAt ::
    (moments run.state ++ run.arrivals.map fun arrival => some arrival.time))

/-- The action that the schedule picks: requests first, then answers, then the
trigger, then the server. -/
def choose? (options : Options) (run : Run) : Option Action :=
  match run.arrivals.find? fun arrival => arrival.time ≤ run.state.now with
  | some arrival => some (.accept arrival.request)
  | none =>
      match dueReply? run.state with
      | some number => some (.reply number)
      | none =>
          if isDue run.state.now run.triggerAt then some .trigger
          else if (loopStep? options false run.state).isSome then some (.loop false)
          else (nextMoment? run).map .advance

/-- Takes the chosen action.  A request that comes too late is not accepted. -/
def advance? (options : Options) (run : Run) : Option Run :=
  if isStopped run.state then none
  else
    (choose? options run).bind fun action =>
      match action with
      | .accept _ =>
          let due := run.arrivals.find? fun arrival => arrival.time ≤ run.state.now
          some { run with
            state := (step? options run.state action).getD run.state
            arrivals := run.arrivals.eraseP fun arrival => some arrival = due }
      | .trigger =>
          (step? options run.state action).map fun state =>
            { run with state, triggerAt := none }
      | _ => (step? options run.state action).map fun state => { run with state }

/-- Takes up to `limit` actions. -/
def runUpTo (options : Options) : Nat → Run → Run
  | 0, run => run
  | limit + 1, run =>
      match advance? options run with
      | none => run
      | some next => runUpTo options limit next

/-- Serves until the server has stopped or waits forever. -/
def run (options : Options) (shutdown : Shutdown) (triggerAt : Option Nat)
    (arrivals : List Arrival) : Run :=
  runUpTo options (4 * arrivals.length + 8) ⟨start options shutdown, arrivals, triggerAt⟩

end AtLeastOnce.Http.Server
