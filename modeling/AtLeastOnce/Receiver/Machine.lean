import AtLeastOnce.Receiver.Options
import AtLeastOnce.Shutdown

/-!
# The receiver as a machine

The receive loop, the tasks of the deliveries it has dispatched, the permits that
bound their number, the shutdown flag and a clock, as one state.  `step?` is one
step of one of them; which of them moves next is left open.
-/

namespace AtLeastOnce.Receiver

/-- Everything around a receiver: how its calls end and how delays are spread. -/
structure World where
  peers : Peers
  /-- The receive with a number, counted from zero. -/
  receive : Nat → ReceiveRequest → Timed (CallEnd (List Delivery))
  /-- The spread of the delay after the receive with a number. -/
  sampler : Nat → Backoff.Sampler

/-- What the loop does next or waits for. -/
inductive Phase where
  | starting
  /-- At the head of the loop. -/
  | reaping
  /-- Waiting for a permit. -/
  | acquiring
  /-- About to receive, with as many permits as messages asked for. -/
  | requesting (request : ReceiveRequest)
  | receiving (request : ReceiveRequest) (until? : Option Nat)
  /-- Pausing after a receive that brought nothing at once. -/
  | pausing (until? : Option Nat)
  /-- Pausing after a failed receive. -/
  | backingOff (until? : Option Nat)
  | draining (deadline : Nat)
  /-- Waiting for the tasks that were cut off. -/
  | abandoning
  | stopped (result : Except Failure Totals)
  /-- The run panicked. -/
  | crashed

structure State where
  now : Nat
  shutdown : Shutdown
  phase : Phase
  worker : WorkerState
  /-- Failed receives since the last one that was answered. -/
  failures : Nat
  /-- Receives begun so far. -/
  receives : Nat
  /-- Deliveries dispatched so far. -/
  dispatched : Nat
  /-- Permits that nobody holds. -/
  free : Nat
  /-- Tasks that have not been joined. -/
  inFlight : List Task
  totals : Totals
  /-- The error with which receiving was given up. -/
  givenUp : Option Failure

/-- The permits that a semaphore can hold. -/
def permitLimit : Nat := 2305843009213693951

/-- The greatest number of failures that is counted. -/
def failureLimit : Nat := 4294967295

def start (shutdown : Shutdown) : State :=
  { now := 0
    shutdown
    phase := .starting
    worker := .idle
    failures := 0
    receives := 0
    dispatched := 0
    free := 0
    inFlight := []
    totals := .zero
    givenUp := none }

/-- A step's result: the next state and the events of the step. -/
abbrev Result := State × List Event

/-- Enters a worker state; only a change is logged. -/
def enter (options : ReceiverOptions) (state : State) (next : WorkerState) : Result :=
  if state.worker = next then (state, [])
  else
    ({ state with worker := next },
      [.logged (.stateChanged options.queueUrl state.worker next)])

/-- Counts a joined task. -/
def countTask (totals : Totals) (task : Task) : Totals :=
  match task.stage with
  | .done report => totals.addReport report
  | .cut => totals.addAbandoned
  | _ => totals

/-- What is logged when a task is joined. -/
def joinEvents (task : Task) : List Event :=
  match task.stage with
  | .broken text => [.logged (.taskFailed text)]
  | _ => []

/-- Joins every task that has finished. -/
def reap (state : State) : Result :=
  let finished := state.inFlight.filter fun task => task.isFinished
  ({ state with
      inFlight := state.inFlight.filter fun task => !task.isFinished
      totals := finished.foldl countTask state.totals },
    finished.flatMap joinEvents)

/-- Leaves the loop: announces the tasks in flight and sets the deadline. -/
def beginDrain (options : ReceiverOptions) (state : State) : Result :=
  let (state, events) := enter options state .draining
  let announcement : List Event :=
    if state.inFlight.isEmpty then []
    else
      [.logged (.draining options.queueUrl state.inFlight.length
        options.gracePeriod.wholeMilliseconds)]
  ({ state with phase := .draining (state.now + options.gracePeriod.timerMilliseconds) },
    events ++ announcement)

/-- The result of a run that has come to its end. -/
def finalResult (options : ReceiverOptions) (state : State) : Except Failure Totals :=
  match state.givenUp with
  | some failure => .error failure
  | none =>
      if 0 < state.totals.abandoned then
        .error (.shutdown (.graceExceeded options.gracePeriod state.totals.abandoned))
      else .ok state.totals

/-- Ends the run. -/
def finish (options : ReceiverOptions) (state : State) : Result :=
  let (state, events) := enter options state .stopped
  ({ state with phase := .stopped (finalResult options state) },
    events ++ [.logged (.receiverStopped options.queueUrl state.totals)])

/-- Starts a task for each delivery, numbered on from those before. -/
def newTasks (dispatched : Nat) (deliveries : List Delivery) : List Task :=
  (deliveries.zipIdx dispatched).map fun (delivery, number) => Task.start number delivery

/-- Acts on an answer to a receive. -/
def onDeliveries (options : ReceiverOptions) (state : State) (request : ReceiveRequest)
    (deliveries : List Delivery) : Result :=
  let recovered : List Event :=
    if 0 < state.failures then
      [.logged (.receiveRecovered options.queueUrl state.failures)]
    else []
  let state := { state with failures := 0 }
  if deliveries.isEmpty then
    let phase : Phase :=
      if request.waitSeconds = 0 then
        .pausing (some (state.now + options.emptyPollDelay.timerMilliseconds))
      else .reaping
    ({ state with phase, free := state.free + request.maxMessages },
      recovered ++ [.logged (.noMessages options.queueUrl)])
  else
    let surplus : List Event :=
      if request.maxMessages < deliveries.length then
        [.logged (.surplusReceived options.queueUrl request.maxMessages deliveries.length)]
      else []
    let accepted := deliveries.take request.maxMessages
    let (state, entered) := enter options state .dispatching
    ({ state with
        phase := .reaping
        free := state.free + (request.maxMessages - accepted.length)
        dispatched := state.dispatched + accepted.length
        inFlight := state.inFlight ++ newTasks state.dispatched accepted },
      recovered ++ surplus ++ entered)

/-- Acts on a failed receive. -/
def onReceiveError (options : ReceiverOptions) (world : World) (state : State)
    (request : ReceiveRequest) (error : CallError) : Result :=
  let failures := Min.min (state.failures + 1) failureLimit
  let state := { state with failures, free := state.free + request.maxMessages }
  if options.backoff.allowsRetry failures then
    match options.backoff.delay? (world.sampler (state.receives - 1)) (failures - 1) with
    | none => ({ state with phase := .crashed }, [])
    | some delay =>
        ({ state with phase := .backingOff (some (state.now + delay.timerMilliseconds)) },
          [.logged (.receiveFailed options.queueUrl error failures delay.wholeMilliseconds)])
  else
    let failure := Failure.pollRetriesExhausted options.queueUrl failures error
    let (state, events) :=
      beginDrain options
        { state with shutdown := state.shutdown.trigger.1, givenUp := some failure }
    (state, .logged (.receivingGivenUp options.queueUrl error failures) :: events)

/-- Acts on the end of a receive. -/
def onReceiveEnd (options : ReceiverOptions) (world : World) (state : State)
    (request : ReceiveRequest) : Result :=
  let result := (world.receive (state.receives - 1) request).result
  let (state, events) :=
    match result with
    | .answered deliveries => onDeliveries options state request deliveries
    | .failed error => onReceiveError options world state request error
    | .panicked _ =>
        ({ state with phase := .crashed, free := state.free + request.maxMessages }, [])
  (state, .receiveEnded result :: events)

/-- Goes on with the loop after a pause, or leaves it.  When the pause is over at
the moment of the trigger, either may come first. -/
def afterPause? (options : ReceiverOptions) (timerFirst : Bool) (state : State)
    (until? : Option Nat) : Option Result :=
  if isDue state.now until? && (timerFirst || !state.shutdown.triggered) then
    some ({ state with phase := .reaping }, [])
  else if state.shutdown.triggered then some (beginDrain options state)
  else none

/-- One step of the loop, unless it has to wait. -/
def loopStep? (options : ReceiverOptions) (world : World) (timerFirst : Bool) (state : State) :
    Option Result :=
  match state.phase with
  | .starting =>
      if permitLimit < options.capacity then some ({ state with phase := .crashed }, [])
      else
        some ({ state with phase := .reaping, free := options.capacity },
          [.logged (.receiverStarted options.queueUrl options.deadLetterUrl options.maxInFlight
            options.batchSize options.waitSeconds)])
  | .reaping =>
      let (state, joined) := reap state
      if state.shutdown.triggered then
        let (state, events) := beginDrain options state
        some (state, joined ++ events)
      else some ({ state with phase := .acquiring }, joined)
  | .acquiring =>
      if state.shutdown.triggered then some (beginDrain options state)
      else if state.free = 0 then none
      else
        let permits := Min.min state.free options.batchSize
        let request := ReceiveRequest.clamped options.queueUrl permits options.waitSeconds
        let (state, events) := enter options state .polling
        some ({ state with phase := .requesting request, free := state.free - permits }, events)
  | .requesting request =>
      if state.shutdown.triggered then
        some (beginDrain options { state with free := state.free + request.maxMessages })
      else
        let call := world.receive state.receives request
        some ({ state with
            phase := .receiving request (call.endFrom state.now)
            receives := state.receives + 1 },
          [.receiveCalled request])
  | .receiving request until? =>
      if state.shutdown.triggered then
        some (beginDrain options { state with free := state.free + request.maxMessages })
      else if isDue state.now until? then some (onReceiveEnd options world state request)
      else none
  | .pausing until? => afterPause? options timerFirst state until?
  | .backingOff until? => afterPause? options timerFirst state until?
  | .draining deadline =>
      let (reaped, joined) := reap state
      if reaped.inFlight.isEmpty then
        let (state, events) := finish options reaped
        some (state, joined ++ events)
      else if deadline ≤ state.now then
        some ({ reaped with phase := .abandoning },
          joined ++ [.logged (.graceElapsed options.queueUrl reaped.inFlight.length
            options.gracePeriod.wholeMilliseconds)])
      else if state.inFlight.any fun task => task.isFinished then some (reaped, joined)
      else none
  | .abandoning =>
      let (reaped, joined) := reap state
      if reaped.inFlight.isEmpty then
        let (state, events) := finish options reaped
        some (state, joined ++ events)
      else if state.inFlight.any fun task => task.isFinished then some (reaped, joined)
      else none
  | .stopped _ => none
  | .crashed => none

/-- Whether the run has come to an end. -/
def Phase.isOver : Phase → Bool
  | .stopped _ => true
  | .crashed => true
  | _ => false

/-- Puts a task in the place of the one with its number. -/
def replaceTask (tasks : List Task) (next : Task) : List Task :=
  tasks.map fun task => if task.number = next.number then next else task

/-- Stores a task after a step; a task that has finished gives its permit back. -/
def putTask (state : State) (next : Task) : State :=
  { state with
    inFlight := replaceTask state.inFlight next
    free := if next.isFinished then state.free + 1 else state.free }

/-- The task in flight that has a number. -/
def findTask? (state : State) (number : Nat) : Option Task :=
  state.inFlight.find? fun task => task.number = number

/-- One step of a task, unless it has to wait. -/
def taskStep? (options : ReceiverOptions) (world : World) (state : State) (number : Nat) :
    Option Result :=
  if state.phase.isOver then none
  else
    (findTask? state number).bind fun task =>
      (task.step? world.peers options.route state.now).map fun (next, events) =>
        (putTask state next, events)

/-- Cuts off a task that is still running, once the grace period has elapsed. -/
def cutStep? (state : State) (number : Nat) : Option Result :=
  match state.phase with
  | .abandoning =>
      (findTask? state number).bind fun task =>
        if task.isFinished then none
        else some (putTask state { task with stage := .cut }, [])
  | _ => none

/-- Who moves. -/
inductive Action where
  /-- Somebody outside triggers the shutdown. -/
  | trigger
  /-- The loop; `timerFirst` settles a tie between a timer and the trigger. -/
  | loop (timerFirst : Bool)
  | task (number : Nat)
  /-- The runtime cuts off a task. -/
  | cut (number : Nat)
  /-- The clock. -/
  | advance (time : Nat)
  deriving DecidableEq, Repr

/-- One step of the machine, with its events. -/
def step? (options : ReceiverOptions) (world : World) (state : State) :
    Action → Option (State × List Occurrence)
  | .trigger =>
      let (shutdown, flipped) := state.shutdown.trigger
      some ({ state with shutdown }, occurrences state.now none [.shutdownTriggered flipped])
  | .loop timerFirst =>
      (loopStep? options world timerFirst state).map fun (next, events) =>
        (next, occurrences state.now none events)
  | .task number =>
      (taskStep? options world state number).map fun (next, events) =>
        (next, occurrences state.now (some number) events)
  | .cut number => (cutStep? state number).map fun (next, _) => (next, [])
  | .advance time => if state.now < time then some ({ state with now := time }, []) else none

/-- The states that are reached by steps, each with what has happened up to it. -/
inductive Reaches (options : ReceiverOptions) (world : World) (shutdown : Shutdown) :
    State → List Occurrence → Prop where
  | start : Reaches options world shutdown (start shutdown) []
  | step {state next : State} {history events : List Occurrence} {action : Action} :
      Reaches options world shutdown state history →
      step? options world state action = some (next, events) →
      Reaches options world shutdown next (history ++ events)

end AtLeastOnce.Receiver
