import AtLeastOnce.Proofs.Handling.Renaming
import AtLeastOnce.Proofs.Receiver.Schedule
import AtLeastOnce.Proofs.Receiver.Transition
import Mathlib.Logic.Function.Basic

/-!
# Runs under other handles

Two worlds that differ in nothing but the handles of their deliveries.  The states of
the one are those of the other under `State.rename`, step by step, and so are the
histories.  Only the deletes, and the deliveries themselves, tell two such runs apart.
-/

namespace AtLeastOnce.Receiver

def State.rename (rho : Renaming) (state : State) : State :=
  { state with inFlight := state.inFlight.map (Task.rename rho) }

/-- A step's result under the other handles. -/
def renameResult (rho : Renaming) (result : Result) : Result :=
  (result.1.rename rho, result.2.map (Event.rename rho))

/-- A second world that hands out the deliveries of the first under other handles and
treats each as the first does. -/
structure World.Renamed (rho : Renaming) (world other : World) : Prop where
  peers : Peers.Renamed rho world.peers other.peers
  receive : ∀ number request,
    other.receive number request =
      ⟨(world.receive number request).delay,
        (world.receive number request).result.rename rho⟩
  sampler : other.sampler = world.sampler

/-- The world that looks each handle up before it treats a delivery. -/
def World.rename (rho back : Renaming) (world : World) : World :=
  { peers :=
      { process := fun number delivery => world.peers.process number (delivery.rename back)
        send := world.peers.send
        delete := fun number queueUrl handle =>
          world.peers.delete number queueUrl (back handle) }
    receive := fun number request =>
      ⟨(world.receive number request).delay,
        (world.receive number request).result.rename rho⟩
    sampler := world.sampler }

theorem World.renamed_rename {rho back : Renaming} (inverse : Function.LeftInverse back rho)
    (world : World) : World.Renamed rho world (world.rename rho back) := by
  constructor
  · constructor
    · intro number delivery
      simp [World.rename, Delivery.rename, inverse delivery.handle]
    · rfl
    · intro number queueUrl handle
      simp [World.rename, inverse handle]
  · intro number request
    rfl
  · rfl

/-- Handles can be exchanged in every world, as long as no two become the same. -/
theorem World.exists_renamed {rho : Renaming} (injective : Function.Injective rho)
    (world : World) : ∃ other, World.Renamed rho world other := by
  have : Nonempty ReceiptHandle := ⟨⟨""⟩⟩
  obtain ⟨back, inverse⟩ := injective.hasLeftInverse
  exact ⟨world.rename rho back, World.renamed_rename inverse world⟩

/-! ## The parts of a step -/

section

variable {rho : Renaming} (options : ReceiverOptions) (state : State)

@[simp] theorem rename_now : (state.rename rho).now = state.now := rfl

@[simp] theorem rename_shutdown : (state.rename rho).shutdown = state.shutdown := rfl

@[simp] theorem rename_phase : (state.rename rho).phase = state.phase := rfl

@[simp] theorem rename_worker : (state.rename rho).worker = state.worker := rfl

@[simp] theorem rename_failures : (state.rename rho).failures = state.failures := rfl

@[simp] theorem rename_receives : (state.rename rho).receives = state.receives := rfl

@[simp] theorem rename_dispatched : (state.rename rho).dispatched = state.dispatched := rfl

@[simp] theorem rename_free : (state.rename rho).free = state.free := rfl

@[simp] theorem rename_totals : (state.rename rho).totals = state.totals := rfl

@[simp] theorem rename_givenUp : (state.rename rho).givenUp = state.givenUp := rfl

@[simp] theorem rename_inFlight :
    (state.rename rho).inFlight = state.inFlight.map (Task.rename rho) := rfl

theorem enter_rename (next : WorkerState) :
    enter options (state.rename rho) next = renameResult rho (enter options state next) := by
  unfold enter
  split
  · next same => simp [show state.worker = next from same, renameResult]
  · next changed => simp [show state.worker ≠ next from changed, renameResult, State.rename]

theorem joinEvents_rename (task : Task) :
    (joinEvents task).map (Event.rename rho) = joinEvents task := by
  unfold joinEvents
  cases task.stage with
  | broken => rfl
  | queued | processing | publishing | deleting | done | cut => rfl

theorem reap_rename : reap (state.rename rho) = renameResult rho (reap state) := by
  have finished : (state.inFlight.map (Task.rename rho)).filter Task.isFinished =
      (state.inFlight.filter Task.isFinished).map (Task.rename rho) := by
    rw [List.filter_map]
    rfl
  have running : ((state.inFlight.map (Task.rename rho)).filter fun task => !task.isFinished) =
      (state.inFlight.filter fun task => !task.isFinished).map (Task.rename rho) := by
    rw [List.filter_map]
    rfl
  have counted : ∀ totals task, countTask totals (Task.rename rho task) = countTask totals task :=
    fun _ _ => rfl
  have told : ∀ task, joinEvents (Task.rename rho task) = joinEvents task := fun _ => rfl
  simp [reap, finished, running, renameResult, State.rename, List.foldl_map, counted,
    List.flatMap_map, List.map_flatMap, told, joinEvents_rename]

theorem beginDrain_rename :
    beginDrain options (state.rename rho) = renameResult rho (beginDrain options state) := by
  unfold beginDrain
  rw [enter_rename]
  cases empty : (enter options state .draining).1.inFlight.isEmpty with
  | true => simp_all [renameResult, State.rename]
  | false => simp_all [renameResult, State.rename]

theorem finish_rename :
    finish options (state.rename rho) = renameResult rho (finish options state) := by
  unfold finish
  rw [enter_rename]
  simp only [renameResult, List.map_append]
  rfl

theorem newTasks_rename (dispatched : Nat) (deliveries : List Delivery) :
    newTasks dispatched (deliveries.map (Delivery.rename rho)) =
      (newTasks dispatched deliveries).map (Task.rename rho) := by
  unfold newTasks
  rw [List.zipIdx_map]
  simp [Function.comp_def, Task.rename, Task.start]

theorem map_rename_ite_logged (condition : Prop) [Decidable condition] (entry : LogEntry) :
    (if condition then [Event.logged entry] else []).map (Event.rename rho) =
      if condition then [Event.logged entry] else [] := by
  split <;> rfl

theorem onDeliveries_rename (request : ReceiveRequest) (deliveries : List Delivery) :
    onDeliveries options (state.rename rho) request (deliveries.map (Delivery.rename rho)) =
      renameResult rho (onDeliveries options state request deliveries) := by
  have entered : enter options { state.rename rho with failures := 0 } .dispatching =
      renameResult rho (enter options { state with failures := 0 } .dispatching) :=
    enter_rename options { state with failures := 0 } .dispatching
  have accepted : (deliveries.map (Delivery.rename rho)).take request.maxMessages =
      (deliveries.take request.maxMessages).map (Delivery.rename rho) := List.map_take.symm
  unfold onDeliveries
  simp only [List.isEmpty_map, List.length_map, accepted, newTasks_rename, entered]
  cases deliveries.isEmpty with
  | true =>
      simp only [if_true, renameResult, List.map_append, map_rename_ite_logged]
      rfl
  | false =>
      simp only [Bool.false_eq_true, if_false, renameResult, List.map_append,
        map_rename_ite_logged]
      refine Prod.ext ?_ rfl
      simp [State.rename]

theorem onReceiveError_of_exhausted {world : World} {request : ReceiveRequest}
    {error : CallError}
    (exhausted : options.backoff.allowsRetry (failuresAfter state) = false) :
    onReceiveError options world state request error =
      ((beginDrain options (givingUp options state request error)).1,
        .logged (.receivingGivenUp options.queueUrl error (failuresAfter state)) ::
          (beginDrain options (givingUp options state request error)).2) := by
  unfold failuresAfter at exhausted
  simp only [onReceiveError, exhausted]
  rfl

theorem onReceiveError_rename {world other : World} (sampler : other.sampler = world.sampler)
    (request : ReceiveRequest) (error : CallError) :
    onReceiveError options other (state.rename rho) request error =
      renameResult rho (onReceiveError options world state request error) := by
  cases retry : options.backoff.allowsRetry (failuresAfter state) with
  | true =>
      unfold failuresAfter at retry
      cases sampled : options.backoff.delay? (world.sampler (state.receives - 1))
          (min (state.failures + 1) failureLimit - 1) with
      | none | some =>
          simp only [onReceiveError, sampler, rename_failures, rename_receives, retry,
            sampled]
          rfl
  | false =>
      have same : givingUp options (state.rename rho) request error =
          (givingUp options state request error).rename rho := rfl
      rw [onReceiveError_of_exhausted options state retry,
        onReceiveError_of_exhausted options (state.rename rho) retry, same,
        beginDrain_rename]
      rfl

variable {world other : World} (renamed : World.Renamed rho world other)
include renamed

theorem onReceiveEnd_rename (request : ReceiveRequest) :
    onReceiveEnd options other (state.rename rho) request =
      renameResult rho (onReceiveEnd options world state request) := by
  unfold onReceiveEnd
  rw [renamed.receive]
  simp only [rename_receives]
  cases (world.receive (state.receives - 1) request).result with
  | answered deliveries =>
      simp only [CallEnd.rename, onDeliveries_rename]
      rfl
  | failed error =>
      simp only [CallEnd.rename, onReceiveError_rename options state renamed.sampler]
      rfl
  | panicked => rfl

omit renamed in
theorem afterPause?_rename (timerFirst : Bool) (until? : Option Nat) :
    afterPause? options timerFirst (state.rename rho) until? =
      (afterPause? options timerFirst state until?).map (renameResult rho) := by
  unfold afterPause?
  simp only [rename_now, rename_shutdown, beginDrain_rename]
  cases isDue state.now until? && (timerFirst || !state.shutdown.triggered) with
  | true => rfl
  | false =>
      cases state.shutdown.triggered with
      | true | false => rfl

omit renamed in
theorem any_isFinished_rename (tasks : List Task) :
    (tasks.map (Task.rename rho)).any Task.isFinished = tasks.any Task.isFinished := by
  rw [List.any_map]
  rfl

theorem loopStep?_rename (timerFirst : Bool) :
    loopStep? options other timerFirst (state.rename rho) =
      (loopStep? options world timerFirst state).map (renameResult rho) := by
  unfold loopStep?
  rw [rename_phase]
  cases state.phase with
  | starting =>
      simp only
      split <;> rfl
  | reaping =>
      simp only [reap_rename, renameResult, rename_shutdown, beginDrain_rename]
      split
      · simp [renameResult]
      · rfl
  | acquiring =>
      simp only [beginDrain_rename, enter_rename, rename_shutdown, rename_free]
      cases state.shutdown.triggered with
      | true => rfl
      | false =>
          by_cases none_free : state.free = 0
          · simp [none_free]
          · simp [none_free, renameResult]
            rfl
  | requesting request =>
      have drained := @beginDrain_rename rho options
        { state with
          phase := .requesting request
          free := state.free + request.maxMessages }
      have endsAlike : ∀ number now,
          (other.receive number request).endFrom now =
            (world.receive number request).endFrom now := fun number now => by
        rw [renamed.receive, Timed.endFrom, Timed.endFrom]
      cases triggered : state.shutdown.triggered with
      | true =>
          simp only [rename_shutdown, triggered]
          exact congrArg some drained
      | false =>
          simp only [rename_shutdown, triggered, endsAlike]
          rfl
  | receiving request until? =>
      have drained := @beginDrain_rename rho options
        { state with
          phase := .receiving request until?
          free := state.free + request.maxMessages }
      simp only [rename_shutdown, rename_now, onReceiveEnd_rename options state renamed]
      cases state.shutdown.triggered with
      | true => exact congrArg some drained
      | false =>
          cases isDue state.now until? with
          | true | false => rfl
  | pausing until? | backingOff until? => exact afterPause?_rename options state timerFirst until?
  | draining deadline =>
      simp only [reap_rename, renameResult, rename_inFlight, List.isEmpty_map, finish_rename,
        List.length_map, rename_now, any_isFinished_rename]
      cases (reap state).1.inFlight.isEmpty with
      | true => simp [renameResult]
      | false =>
          by_cases passed : deadline ≤ state.now
          · simp [passed, renameResult]
            rfl
          · cases state.inFlight.any Task.isFinished with
            | true | false => simp [passed, renameResult]
  | abandoning =>
      simp only [reap_rename, renameResult, rename_inFlight, List.isEmpty_map, finish_rename,
        any_isFinished_rename]
      cases (reap state).1.inFlight.isEmpty with
      | true => simp [renameResult]
      | false =>
          cases state.inFlight.any Task.isFinished with
          | true | false => simp [renameResult]
  | stopped | crashed => rfl

/-! ## One step of the machine -/

omit renamed in
theorem findTask?_rename (number : Nat) :
    findTask? (state.rename rho) number = (findTask? state number).map (Task.rename rho) := by
  unfold findTask?
  rw [rename_inFlight, List.find?_map]
  rfl

omit renamed in
theorem putTask_rename (next : Task) :
    putTask (state.rename rho) (next.rename rho) = (putTask state next).rename rho := by
  have placed : replaceTask (state.inFlight.map (Task.rename rho)) (next.rename rho) =
      (replaceTask state.inFlight next).map (Task.rename rho) := by
    simp only [replaceTask, List.map_map]
    apply List.map_congr_left
    intro task _
    by_cases same : task.number = next.number
    · simp [same]
    · simp [same]
  simp only [putTask, rename_inFlight, placed]
  rfl

theorem taskStep?_rename (number : Nat) :
    taskStep? options other (state.rename rho) number =
      (taskStep? options world state number).map (renameResult rho) := by
  unfold taskStep?
  rw [rename_phase, findTask?_rename]
  split
  · rfl
  · cases findTask? state number with
    | none => rfl
    | some task =>
        simp only [Option.map_some, Option.bind_some, rename_now,
          Task.step?_rename options.route state.now renamed.peers, Option.map_map]
        apply Option.map_congr
        rintro ⟨next, events⟩ _
        simp only [Function.comp_apply, putTask_rename]
        rfl

omit renamed in
theorem cutStep?_rename (number : Nat) :
    cutStep? (state.rename rho) number =
      (cutStep? state number).map (renameResult rho) := by
  unfold cutStep?
  rw [rename_phase, findTask?_rename]
  cases state.phase with
  | abandoning =>
      cases findTask? state number with
      | none => rfl
      | some task =>
          have put := @putTask_rename rho state { task with stage := .cut }
          simp only [Option.map_some, Option.bind_some]
          cases finished : task.isFinished with
          | true => simp [finished]
          | false =>
              simp only [Task.rename_isFinished, finished, Bool.false_eq_true, if_false,
                Option.map_some, renameResult, ← put]
              rfl
  | starting | reaping | acquiring | requesting | receiving | pausing | backingOff
  | draining | stopped | crashed => rfl

/-- A state and what has happened up to it, under the other handles. -/
def renamePoint (rho : Renaming) (point : State × List Occurrence) :
    State × List Occurrence :=
  (point.1.rename rho, point.2.map (Occurrence.rename rho))

theorem step?_rename (action : Action) :
    step? options other (state.rename rho) action =
      (step? options world state action).map (renamePoint rho) := by
  cases action with
  | trigger => rfl
  | loop timerFirst =>
      simp only [step?, loopStep?_rename options state renamed, Option.map_map]
      apply Option.map_congr
      rintro ⟨next, events⟩ _
      simp [renameResult, renamePoint]
  | task number =>
      simp only [step?, taskStep?_rename options state renamed, Option.map_map]
      apply Option.map_congr
      rintro ⟨next, events⟩ _
      simp [renameResult, renamePoint]
  | cut number =>
      simp only [step?, cutStep?_rename, Option.map_map]
      rfl
  | advance time =>
      by_cases later : state.now < time
      · simp only [step?, rename_now, later, if_true, Option.map_some]
        rfl
      · simp [step?, later]

end

end AtLeastOnce.Receiver
