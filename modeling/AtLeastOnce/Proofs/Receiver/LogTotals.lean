import AtLeastOnce.Proofs.Handling.Entries
import AtLeastOnce.Proofs.Receiver.Deadline

/-!
# The log and the totals

The totals count acknowledgements as tasks are joined; the log words outcomes while the
tasks still run.  `receiverEvents` is all that the receiver does itself, its loop and
its tasks.  In it, each of the four entries that close the handling of a delivery stands
as often as its counter says, and a broken task is named for each delivery that no
counter covers.
-/

namespace AtLeastOnce.Receiver

/-! ## What the receiver does itself -/

section

variable (world : World) (history : List Occurrence)

/-- The events of the receiver: those of its loop, and those of its tasks after their
processors have ended. -/
def receiverEvents : List Event :=
  loopEvents history ++ (handedOut history).zipIdx.flatMap fun (delivery, number) =>
    Task.handling world.peers number delivery (eventsOf number history)

/-- The events up to the end of the processors, with what is logged of that end. -/
def processorEvents : List Event :=
  (handedOut history).zipIdx.flatMap fun (delivery, number) =>
    Task.beginning world.peers number delivery (eventsOf number history)

end

/-- The occurrences of the tasks below a number, task by task. -/
theorem filter_task_perm (history : List Occurrence) (limit : Nat) :
    (history.filter fun occurrence => occurrence.task.any fun number => number < limit).Perm
      ((List.range limit).flatMap fun number =>
        history.filter fun occurrence => occurrence.task = some number) := by
  induction limit with
  | zero => simp
  | succ limit induction =>
      have split := List.filter_append_perm
        (fun occurrence : Occurrence => occurrence.task.any fun number => number < limit)
        (history.filter fun occurrence =>
          occurrence.task.any fun number => number < limit + 1)
      rw [List.filter_filter, List.filter_filter] at split
      have below : (history.filter fun occurrence =>
          (occurrence.task.any fun number => number < limit) &&
            occurrence.task.any fun number => number < limit + 1) =
          history.filter fun occurrence =>
            occurrence.task.any fun number => number < limit := by
        apply List.filter_congr
        intro occurrence _
        cases occurrence.task with
        | none => rfl
        | some number => grind
      have last : (history.filter fun occurrence =>
          (!occurrence.task.any fun number => number < limit) &&
            occurrence.task.any fun number => number < limit + 1) =
          history.filter fun occurrence => occurrence.task = some limit := by
        apply List.filter_congr
        intro occurrence _
        cases occurrence.task with
        | none => rfl
        | some number => grind
      rw [below, last] at split
      rw [List.range_succ, List.flatMap_append, List.flatMap_singleton]
      exact split.symm.trans (induction.append_right _)

variable {options : ReceiverOptions} {world : World} {shutdown : Shutdown}
  {state next : State} {history events : List Occurrence} {joined : List Task}

/-- A history is what its loop has done and what each of its tasks has done. -/
theorem Ledger.events_perm (ledger : Ledger options world state history joined) :
    (history.map Occurrence.event).Perm
      (loopEvents history ++
        (List.range state.dispatched).flatMap fun number => eventsOf number history) := by
  have tasked : (history.filter fun occurrence => !decide (occurrence.task = none)) =
      history.filter fun occurrence =>
        occurrence.task.any fun number => number < state.dispatched := by
    apply List.filter_congr
    intro occurrence member
    cases task : occurrence.task with
    | none => rfl
    | some number =>
        have own : occurrence.event ∈ eventsOf number history :=
          mem_eventsOf.mpr ⟨occurrence.time, by rw [← task]; exact member⟩
        have given : number < state.dispatched := by
          by_contra beyond
          rw [ledger.unused number (Nat.le_of_not_lt beyond)] at own
          cases own
        simp [given]
  have split := List.filter_append_perm
    (fun occurrence : Occurrence => decide (occurrence.task = none)) history
  rw [tasked] at split
  have whole := split.symm.trans ((filter_task_perm history state.dispatched).append_left _)
  have mapped := whole.map Occurrence.event
  rw [List.map_append, List.map_flatMap] at mapped
  exact mapped

/-- Of those, the receiver's and the processors' make up all. -/
theorem Ledger.receiverEvents_perm (ledger : Ledger options world state history joined) :
    (history.map Occurrence.event).Perm
      (receiverEvents world history ++ processorEvents world history) := by
  have numbers : ((List.range state.dispatched).flatMap fun number =>
      eventsOf number history) =
      (handedOut history).zipIdx.flatMap fun (delivery, number) =>
        Task.beginning world.peers number delivery (eventsOf number history) ++
          Task.handling world.peers number delivery (eventsOf number history) := by
    rw [← ledger.handed, List.range_eq_range', ← List.zipIdx_map_snd 0, List.flatMap_map]
    apply List.flatMap_congr
    rintro ⟨delivery, number⟩ _
    exact (List.take_append_drop _ _).symm
  have parts := List.flatMap_append_perm (handedOut history).zipIdx
    (fun (delivery, number) =>
      Task.beginning world.peers number delivery (eventsOf number history))
    (fun (delivery, number) =>
      Task.handling world.peers number delivery (eventsOf number history))
  have whole := ledger.events_perm
  rw [numbers] at whole
  rw [receiverEvents, List.append_assoc]
  exact whole.trans ((parts.symm.trans List.perm_append_comm).append_left _)

/-! ## What the loop says -/

theorem Reaches.ofLoop_or_trigger {event : Event}
    (reached : Reaches options world shutdown state history)
    (member : event ∈ loopEvents history) :
    (∃ flipped, event = .shutdownTriggered flipped) ∨
      ∃ before after, OfLoop options before after event := by
  induction reached with
  | start => cases member
  | step _ stepped induction =>
      rw [loopEvents_append] at member
      rcases List.mem_append.mp member with earlier | now
      · exact induction earlier
      · cases step?_cases stepped with
        | trigger =>
            rw [loopEvents_occurrences_none] at now
            exact .inl ⟨_, List.mem_singleton.mp now⟩
        | loop move =>
            rw [loopEvents_occurrences_none] at now
            exact .inr ⟨_, _, move.ofLoop now⟩
        | task =>
            rw [loopEvents_occurrences_some] at now
            cases now
        | cut | advance => cases now

/-- The loop closes the handling of no delivery. -/
theorem OfLoop.bears_message {event : Event} (ofLoop : OfLoop options state next event)
    (kind : AckKind) : event.bears kind.message = false := by
  cases ofLoop <;> cases kind <;> simp [Event.bears, LogEntry.message, AckKind.message]

theorem OfLoop.bears_taskFailed {event : Event} (ofLoop : OfLoop options state next event) :
    event.bears "message task failed" = isTaskFailed event := by
  cases ofLoop <;> simp [Event.bears, LogEntry.message, isTaskFailed]

theorem Reaches.countP_bears_message
    (reached : Reaches options world shutdown state history) (kind : AckKind) :
    (loopEvents history).countP (Event.bears kind.message) = 0 := by
  refine List.countP_eq_zero.mpr ?_
  intro event member
  rcases reached.ofLoop_or_trigger member with ⟨_, rfl⟩ | ⟨_, _, ofLoop⟩
  · exact Bool.false_ne_true
  · rw [ofLoop.bears_message kind]
    exact Bool.false_ne_true

theorem Reaches.countP_bears_taskFailed
    (reached : Reaches options world shutdown state history) :
    (loopEvents history).countP (Event.bears "message task failed") =
      (loopEvents history).countP isTaskFailed := by
  apply List.countP_congr
  intro event member
  rcases reached.ofLoop_or_trigger member with ⟨_, rfl⟩ | ⟨_, _, ofLoop⟩
  · rfl
  · rw [ofLoop.bears_taskFailed]

/-! ## What the tasks say -/

/-- If each of some lists holds one event of a kind or none, they are as many as those
that hold one. -/
theorem countP_flatMap_of_each {α : Type} {items : List α} {made : α → List Event}
    {counts : Event → Bool} {holds : α → Bool}
    (each : ∀ item ∈ items, (made item).countP counts = if holds item then 1 else 0) :
    (items.flatMap made).countP counts = items.countP holds := by
  induction items with
  | nil => rfl
  | cons item items induction =>
      rw [List.flatMap_cons, List.countP_append, each item List.mem_cons_self,
        induction fun other member => each other (List.mem_cons_of_mem _ member),
        List.countP_cons, Nat.add_comm]

namespace Ledger

section

variable (ledger : Ledger options world state history joined)
include ledger

theorem handles {task : Task} (member : task ∈ joined) :
    Task.Handles task.stage
      (Task.handling world.peers task.number task.delivery
        (eventsOf task.number history)) :=
  (ledger.onCourse task (List.mem_append_left _ member)).course.handles

/-- Counting what the receiver does is counting what its loop and its joined tasks do. -/
theorem countP_receiverEvents (nothingLeft : state.inFlight = []) (counts : Event → Bool) :
    (receiverEvents world history).countP counts =
      (loopEvents history).countP counts +
        (joined.flatMap fun task =>
          Task.handling world.peers task.number task.delivery
            (eventsOf task.number history)).countP counts := by
  have tasks := (ledger.deliveries_perm nothingLeft).flatMap_right
    fun (delivery, number) =>
      Task.handling world.peers number delivery (eventsOf number history)
  rw [List.flatMap_map] at tasks
  rw [receiverEvents, List.countP_append, tasks.countP_eq]

/-- Among the events of the processors there are only words of their own. -/
theorem countP_processorEvents (nothingLeft : state.inFlight = []) {message : String}
    (other : message ≠ "processor panicked")
    (unused : ∀ number delivery, ∀ entry ∈ (world.peers.process number delivery).result.notes,
      entry.message ≠ message) :
    (processorEvents world history).countP (Event.bears message) = 0 := by
  refine List.countP_eq_zero.mpr ?_
  intro event member
  obtain ⟨⟨delivery, number⟩, given, inside⟩ := List.mem_flatMap.mp member
  have joined := (ledger.deliveries_perm nothingLeft).mem_iff.mpr given
  obtain ⟨task, member, same⟩ := List.mem_map.mp joined
  cases same
  have course := (ledger.onCourse task (List.mem_append_left _ member)).course
  rw [Task.bears_of_mem_opening other (unused _ _) (course.mem_opening inside)]
  exact Bool.false_ne_true

theorem countP_message (run : Reaches options world shutdown state history)
    (nothingLeft : state.inFlight = []) (kind : AckKind) :
    (receiverEvents world history).countP (Event.bears kind.message) =
      state.totals.acks.get kind := by
  rw [ledger.countP_receiverEvents nothingLeft, run.countP_bears_message, Nat.zero_add,
    ledger.acks]
  exact countP_flatMap_of_each fun task member => (ledger.handles member).countP_bears kind

/-- No task says of itself that it has failed, so all that say so are of the loop. -/
theorem countP_taskFailed (run : Reaches options world shutdown state history)
    (nothingLeft : state.inFlight = []) :
    (receiverEvents world history).countP (Event.bears "message task failed") =
      (loopEvents history).countP isTaskFailed := by
  have untold : (joined.flatMap fun task =>
      Task.handling world.peers task.number task.delivery
        (eventsOf task.number history)).countP (Event.bears "message task failed") =
      joined.countP fun _ => false :=
    countP_flatMap_of_each fun task member => (ledger.handles member).countP_bears_taskFailed
  rw [ledger.countP_receiverEvents nothingLeft, run.countP_bears_taskFailed, untold]
  simp

theorem countP_of_cut {task : Task} (member : task ∈ joined)
    (cut : task.stage.isCut = true) (kind : AckKind) :
    (Task.handling world.peers task.number task.delivery
      (eventsOf task.number history)).countP (Event.bears kind.message) = 0 := by
  rw [(ledger.handles member).countP_bears kind]
  cases stage : task.stage with
  | cut => rfl
  | queued | processing | publishing | deleting | done | broken =>
      rw [stage] at cut
      cases cut

end

end Ledger

/-! ## Every run that returns -/

/-- How the log of a run agrees with its totals. -/
structure LogsAgree (world : World) (state : State) (history : List Occurrence)
    (joined : List Task) : Prop where
  /-- Apart from what the receiver does there are only its processors. -/
  whole : (history.map Occurrence.event).Perm
    (receiverEvents world history ++ processorEvents world history)
  /-- Where the processors do not use a message, counting it in all of the log is counting
  it in what the receiver does. -/
  unmixed : ∀ message, message ≠ "processor panicked" →
    (∀ number delivery, ∀ entry ∈ (world.peers.process number delivery).result.notes,
      entry.message ≠ message) →
    (history.map Occurrence.event).countP (Event.bears message) =
      (receiverEvents world history).countP (Event.bears message)
  /-- The totals are those that are announced. -/
  totals : (loopEvents history).filterMap stoppedTotals? = [state.totals]
  deleted :
    (receiverEvents world history).countP (Event.bears "message processed") =
      state.totals.acks.deleted
  left :
    (receiverEvents world history).countP
        (Event.bears "retryable failure, message left for redelivery") =
      state.totals.acks.left
  deadLettered :
    (receiverEvents world history).countP
        (Event.bears "terminal failure, message dead-lettered") =
      state.totals.acks.deadLettered
  failed :
    (receiverEvents world history).countP
        (Event.bears "ack failed, message left for redelivery") =
      state.totals.acks.failed
  /-- What is neither processed nor abandoned is said to have failed. -/
  broken :
    (receiverEvents world history).countP (Event.bears "message task failed") =
      (handedOut history).length - state.totals.processed - state.totals.abandoned
  covered : state.totals.processed + state.totals.abandoned ≤ (handedOut history).length
  /-- A task that was cut off has closed nothing. -/
  silent : ∀ task ∈ joined, task.stage.isCut = true → ∀ kind : AckKind,
    (Task.handling world.peers task.number task.delivery
      (eventsOf task.number history)).countP (Event.bears kind.message) = 0

theorem Joins.logsAgree {result : Except Failure Totals}
    (run : Joins options world shutdown state history joined)
    (stopped : state.phase = .stopped result) :
    LogsAgree world state history joined := by
  have ledger := run.ledger
  have closing := run.reaches.closing
  have nothingLeft := (closing.result result stopped).2
  have whole := ledger.receiverEvents_perm
  have closed := ledger.countP_message run.reaches nothingLeft
  have said := ledger.countP_taskFailed run.reaches nothingLeft
  rw [run.countP_isTaskFailed] at said
  have sameLength := (ledger.numbers_perm nothingLeft).length_eq
  rw [List.length_map, List.length_range, length_eq_of_finished ledger.finished,
    ← ledger.processed, ← ledger.abandoned] at sameLength
  exact
    { whole
      unmixed := by
        intro message other unused
        rw [whole.countP_eq, List.countP_append,
          ledger.countP_processorEvents nothingLeft other unused]
        rfl
      totals := by rw [closing.announced, announced, stopped]
      deleted := closed .deleted
      left := closed .left
      deadLettered := closed .deadLettered
      failed := closed .failed
      broken := by omega
      covered := by omega
      silent := fun _ member cut kind => ledger.countP_of_cut member cut kind }

/-- One letter is deleted in time, the other is cut off at the end of the grace period. -/
theorem logsAgree_oneStuck :
    ∃ joined,
      Joins shortGrace oneStuck .idle (run shortGrace oneStuck (some 2) 60).state
        (run shortGrace oneStuck (some 2) 60).history joined ∧
      (run shortGrace oneStuck (some 2) 60).state.phase =
        .stopped (.error (.shutdown (.graceExceeded (.ofMilliseconds 30) 1))) ∧
      (run shortGrace oneStuck (some 2) 60).state.totals = ⟨1, ⟨1, 0, 0, 0⟩, 1⟩ ∧
      LogsAgree oneStuck (run shortGrace oneStuck (some 2) 60).state
        (run shortGrace oneStuck (some 2) 60).history joined := by
  obtain ⟨joined, joins⟩ := (run_reaches shortGrace oneStuck (some 2) 60).joins
  exact ⟨joined, joins, rfl, rfl, joins.logsAgree rfl⟩

end AtLeastOnce.Receiver
