import AtLeastOnce.Receiver.Machine

/-!
# Running a receiver on a virtual clock

A schedule picks the next action of the machine: the loop before the tasks, the
tasks in the order of their dispatch, and the clock only when nothing else can
move.  It then jumps to the next moment that anything waits for.
-/

namespace AtLeastOnce.Receiver

/-- A run in progress: the state, what has happened, and the moment at which the
shutdown is going to be triggered from outside. -/
structure Run where
  state : State
  history : List Occurrence
  triggerAt : Option Nat

/-- The moment that the loop waits for. -/
def Phase.wakeTime? : Phase → Option Nat
  | .receiving _ until? => until?
  | .pausing until? => until?
  | .backingOff until? => until?
  | .draining deadline => some deadline
  | _ => none

/-- The last moment of a run that is followed. -/
def horizon : Nat := 86400000

/-- The moments that somebody waits for. -/
def moments (run : Run) : List (Option Nat) :=
  run.triggerAt :: run.state.phase.wakeTime? ::
    run.state.inFlight.map fun task => task.stage.wakeTime?

/-- The next moment that somebody waits for, within the horizon. -/
def nextMoment? (run : Run) : Option Nat :=
  (earliest? (moments run)).filter fun moment =>
    run.state.now < moment && moment ≤ horizon

/-- The first task in flight that can move. -/
def movableTask? (options : ReceiverOptions) (world : World) (state : State) : Option Nat :=
  (state.inFlight.find? fun task =>
    (task.step? world.peers options.route state.now).isSome).map fun task => task.number

/-- The first task in flight that is still running. -/
def runningTask? (state : State) : Option Nat :=
  (state.inFlight.find? fun task => !task.isFinished).map fun task => task.number

/-- The action that the schedule picks. -/
def choose? (options : ReceiverOptions) (world : World) (run : Run) : Option Action :=
  let state := run.state
  if state.phase.isOver then none
  else if (loopStep? options world false state).isSome then some (.loop false)
  else
    match state.phase with
    | .abandoning => (runningTask? state).map .cut
    | _ =>
        if isDue state.now run.triggerAt then some .trigger
        else
          match movableTask? options world state with
          | some number => some (.task number)
          | none => (nextMoment? run).map .advance

/-- Takes the chosen action. -/
def advance? (options : ReceiverOptions) (world : World) (run : Run) : Option Run :=
  (choose? options world run).bind fun action =>
    (step? options world run.state action).map fun (state, events) =>
      { state
        history := run.history ++ events
        triggerAt := if action = .trigger then none else run.triggerAt }

/-- Takes up to `limit` actions. -/
def runUpTo (options : ReceiverOptions) (world : World) : Nat → Run → Run
  | 0, run => run
  | limit + 1, run =>
      match advance? options world run with
      | none => run
      | some next => runUpTo options world limit next

/-- Begins a run.  A shutdown at the very beginning has been triggered before. -/
def Run.start (triggerAt : Option Nat) : Run :=
  { state := Receiver.start ⟨triggerAt = some 0⟩
    history := []
    triggerAt := triggerAt.filter fun moment => moment ≠ 0 }

/-- Runs a receiver for at most `limit` actions. -/
def run (options : ReceiverOptions) (world : World) (triggerAt : Option Nat) (limit : Nat) :
    Run :=
  runUpTo options world limit (Run.start triggerAt)

end AtLeastOnce.Receiver
