import AtLeastOnce.Proofs.Handling.Calls
import AtLeastOnce.Proofs.Receiver.TaskChange

/-!
# The ledger of the tasks

`Ledger` relates a state of the receiver to its history: every delivery that was
handed out has one task, joined or in flight, the events of that task are those of
its stage, and the totals are what the joined tasks add up to.  It holds in every
run, because each of the changes that `TaskChange` lists keeps it.
-/

namespace AtLeastOnce.Receiver

/-! ## The ledger -/

/-- The task has the delivery that was handed out under its number, and has done
what brings it to its stage. -/
structure OnCourse (options : ReceiverOptions) (world : World)
    (history : List Occurrence) (task : Task) : Prop where
  delivery : (handedOut history)[task.number]? = some task.delivery
  course : Task.Course world.peers options.route task.number task.delivery
    task.stage
    (eventsOf task.number history)

structure Ledger (options : ReceiverOptions) (world : World) (state : State)
    (history : List Occurrence) (joined : List Task) : Prop where
  numbers :
    ((joined ++ state.inFlight).map Task.number).Perm (List.range state.dispatched)
  handed : (handedOut history).length = state.dispatched
  onCourse : ∀ task ∈ joined ++ state.inFlight, OnCourse options world history task
  /-- A number that has not been given out has no events. -/
  unused : ∀ number, state.dispatched ≤ number → eventsOf number history = []
  finished : ∀ task ∈ joined, task.isFinished = true
  totals : state.totals = joined.foldl countTask .zero
  requested : ∀ request until?, state.phase = .receiving request until? →
    (intakeOf history).requested = request.maxMessages

variable {options : ReceiverOptions} {world : World} {shutdown : Shutdown}
  {state next : State} {history events : List Occurrence} {joined : List Task}

theorem OnCourse.extend {task : Task} {later : List Occurrence}
    (onCourse : OnCourse options world history task)
    (longer : handedOut history <+: handedOut later)
    (same : eventsOf task.number later = eventsOf task.number history) :
    OnCourse options world later task where
  delivery := by
    obtain ⟨added, equality⟩ := longer
    rw [← equality]
    have within := (List.getElem?_eq_some_iff.mp onCourse.delivery).1
    rw [List.getElem?_append_left within]
    exact onCourse.delivery
  course := by
    rw [same]
    exact onCourse.course

theorem OnCourse.keep {task : Task} {later : List Occurrence}
    (onCourse : OnCourse options world history task)
    (handed : handedOut later = handedOut history)
    (same : eventsOf task.number later = eventsOf task.number history) :
    OnCourse options world later task := by
  refine onCourse.extend ⟨[], ?_⟩ same
  rw [List.append_nil, handed]

namespace Ledger

theorem start (options : ReceiverOptions) (world : World) (shutdown : Shutdown) :
    Ledger options world (start shutdown) [] [] where
  numbers := by simp [Receiver.start]
  handed := rfl
  onCourse := by simp [Receiver.start]
  unused := fun _ _ => rfl
  finished := by simp
  totals := rfl
  requested := by simp [Receiver.start]

section

variable (ledger : Ledger options world state history joined)
include ledger

theorem distinct : ((joined ++ state.inFlight).map Task.number).Nodup :=
  ledger.numbers.nodup_iff.mpr List.nodup_range

theorem distinctInFlight : (state.inFlight.map Task.number).Nodup := by
  have distinct := ledger.distinct
  rw [List.map_append] at distinct
  exact distinct.of_append_right

theorem number_lt {task : Task} (member : task ∈ joined ++ state.inFlight) :
    task.number < state.dispatched :=
  List.mem_range.mp (ledger.numbers.mem_iff.mp (List.mem_map_of_mem member))

/-- A task in flight shares its number with none that has been joined. -/
theorem number_ne {task other : Task} (found : task ∈ state.inFlight)
    (earlier : other ∈ joined) : other.number ≠ task.number := by
  intro equal
  have distinct := ledger.distinct
  rw [List.map_append] at distinct
  apply List.disjoint_of_nodup_append distinct (List.mem_map_of_mem earlier)
  rw [equal]
  exact List.mem_map_of_mem found

/-- Every number that was given out belongs to a task. -/
theorem exists_task {number : Nat} (given : number < state.dispatched) :
    ∃ task ∈ joined ++ state.inFlight, task.number = number :=
  List.mem_map.mp (ledger.numbers.mem_iff.mpr (List.mem_range.mpr given))

end

end Ledger

/-! ## What the steps keep -/

theorem intakeOf_append_others (history : List Occurrence) (time : Nat)
    (task : Option Nat)
    {more : List Event} (others : ∀ event ∈ more, isIntake event = false) :
    intakeOf (history ++ occurrences time task more) = intakeOf history := by
  rw [intakeOf_append_occurrences, foldl_record_of_isIntake _ others]

/-- What is asked for is handed out of the answer, and the rest of it is not. -/
theorem handedOut_append_answer {request : ReceiveRequest} {more : List Event}
    (time : Nat)
    (deliveries : List Delivery)
    (requested : (intakeOf history).requested = request.maxMessages)
    (others : ∀ event ∈ more, isIntake event = false) :
    handedOut (history ++
        occurrences time none (.receiveEnded (.answered deliveries) :: more)) =
      handedOut history ++ deliveries.take request.maxMessages := by
  rw [handedOut, intakeOf_append_occurrences, List.foldl_cons,
    foldl_record_of_isIntake _ others]
  simp [Intake.record, handedOut, requested]

/-- The task of a delivery does not receive. -/
theorem isReceive_of_course {peers : Peers} {route : Route} {number : Nat}
    {delivery : Delivery} {stage : Stage} {made : List Event} {event : Event}
    (course : Task.Course peers route number delivery stage made)
    (member : event ∈ made) : isReceive event = false := by
  rcases course.mem_cases member with opened | ⟨entry, rfl⟩ |
    ⟨_, _, _, _, rfl | rfl⟩ | ⟨_, rfl | rfl⟩
  · simp only [Task.opening, List.mem_cons, List.mem_map] at opened
    rcases opened with rfl | rfl | ⟨entry, _, rfl⟩ <;> rfl
  all_goals rfl

namespace Ledger

section

variable (ledger : Ledger options world state history joined)
include ledger

/-- Events that no task makes and that hand nothing out. -/
theorem sameTasks {later : List Occurrence} (same : SameTasks state next)
    (handed : handedOut later = handedOut history)
    (unchanged : ∀ number, eventsOf number later = eventsOf number history)
    (requested : ∀ request until?, next.phase = .receiving request until? →
      (intakeOf later).requested = request.maxMessages) :
    Ledger options world next later (joined ++ joinedTasks state next) := by
  have nothing : joinedTasks state next = [] :=
    joinedTasks_of_appended (by rw [same.inFlight, List.append_nil])
  rw [nothing, List.append_nil]
  exact
    { numbers := by
        rw [same.inFlight, same.dispatched]
        exact ledger.numbers
      handed := by rw [handed, same.dispatched, ledger.handed]
      onCourse := by
        intro task member
        rw [same.inFlight] at member
        exact (ledger.onCourse task member).keep handed (unchanged _)
      unused := by
        intro number beyond
        rw [same.dispatched] at beyond
        rw [unchanged, ledger.unused number beyond]
      finished := ledger.finished
      totals := by rw [same.totals, ledger.totals]
      requested }

theorem keeps {more : List Event} (same : SameTasks state next)
    (phase : ∀ request until?, next.phase = .receiving request until? →
      state.phase = .receiving request until?)
    (others : ∀ event ∈ more, isIntake event = false) :
    Ledger options world next (history ++ occurrences state.now none more)
      (joined ++ joinedTasks state next) := by
  have intake := intakeOf_append_others history state.now none others
  refine ledger.sameTasks same (congrArg Intake.deliveries intake) ?_ ?_
  · intro number
    simp
  · intro request until? receiving
    rw [intake]
    exact ledger.requested request until? (phase request until? receiving)

theorem calls {request : ReceiveRequest} {until? : Option Nat}
    (same : SameTasks state next) (phase : next.phase = .receiving request until?) :
    Ledger options world next
      (history ++ occurrences state.now none [.receiveCalled request])
      (joined ++ joinedTasks state next) := by
  refine ledger.sameTasks same (by simp [handedOut, Intake.record]) ?_ ?_
  · intro number
    simp
  · intro asked until? receiving
    rw [phase] at receiving
    cases receiving
    simp [Intake.record]

theorem joins {more : List Event}
    (inFlight : next.inFlight = runningTasks state.inFlight)
    (totals : next.totals =
      (finishedTasks state.inFlight).foldl countTask state.totals)
    (dispatched : next.dispatched = state.dispatched)
    (phase : ∀ request until?, next.phase = .receiving request until? →
      state.phase = .receiving request until?)
    (others : ∀ event ∈ more, isIntake event = false) :
    Ledger options world next (history ++ occurrences state.now none more)
      (joined ++ joinedTasks state next) := by
  have intake := intakeOf_append_others history state.now none others
  rw [joinedTasks_of_running ledger.distinctInFlight inFlight]
  have rearranged : ((joined ++ finishedTasks state.inFlight) ++ next.inFlight).Perm
      (joined ++ state.inFlight) := by
    rw [inFlight, List.append_assoc]
    exact (finishedTasks_append_runningTasks state.inFlight).append_left joined
  exact
    { numbers := by
        rw [dispatched]
        exact (rearranged.map Task.number).trans ledger.numbers
      handed := by rw [handedOut, intake, dispatched, ← ledger.handed, handedOut]
      onCourse := by
        intro task member
        have before := ledger.onCourse task (rearranged.mem_iff.mp member)
        refine before.keep (congrArg Intake.deliveries intake) ?_
        simp
      unused := by
        intro number beyond
        rw [dispatched] at beyond
        simp [ledger.unused number beyond]
      finished := by
        intro task member
        rcases List.mem_append.mp member with earlier | now
        · exact ledger.finished task earlier
        · exact (mem_finishedTasks.mp now).2
      totals := by rw [totals, ledger.totals, List.foldl_append]
      requested := by
        intro request until? receiving
        rw [intake]
        exact ledger.requested request until? (phase request until? receiving) }

theorem handsOut {more : List Event} {request : ReceiveRequest}
    {until? : Option Nat} {deliveries : List Delivery}
    (before : state.phase = .receiving request until?)
    (inFlight : next.inFlight =
      state.inFlight ++
        newTasks state.dispatched (deliveries.take request.maxMessages))
    (totals : next.totals = state.totals)
    (dispatched : next.dispatched =
      state.dispatched + (deliveries.take request.maxMessages).length)
    (phase : ∀ request until?, next.phase ≠ .receiving request until?)
    (others : ∀ event ∈ more, isIntake event = false) :
    Ledger options world next
      (history ++ occurrences state.now none
        (.receiveEnded (.answered deliveries) :: more))
      (joined ++ joinedTasks state next) := by
  rw [joinedTasks_of_appended inFlight, List.append_nil]
  have handed := handedOut_append_answer state.now deliveries
    (ledger.requested request until? before) others
  have unchanged : ∀ number, eventsOf number (history ++
      occurrences state.now none (.receiveEnded (.answered deliveries) :: more)) =
        eventsOf number history := by
    intro number
    simp
  exact
    { numbers := by
        rw [inFlight, ← List.append_assoc, List.map_append, map_number_newTasks,
          dispatched, List.range_add, ← List.range'_eq_map_range]
        exact ledger.numbers.append_right _
      handed := by rw [handed, List.length_append, ledger.handed, dispatched]
      onCourse := by
        intro task member
        rw [inFlight, ← List.append_assoc] at member
        rcases List.mem_append.mp member with earlier | added
        · refine (ledger.onCourse task earlier).extend ?_ (unchanged _)
          rw [handed]
          exact List.prefix_append _ _
        · obtain ⟨stage, beyond, place⟩ := mem_newTasks added
          constructor
          · rw [← ledger.handed] at beyond
            rw [handed, List.getElem?_append_right beyond, ledger.handed]
            exact place
          · rw [unchanged, ledger.unused task.number beyond, stage]
            exact .queued
      unused := by
        intro number beyond
        rw [dispatched] at beyond
        rw [unchanged, ledger.unused number (by omega)]
      finished := ledger.finished
      totals := by rw [totals, ledger.totals]
      requested := by
        intro request until? receiving
        exact (phase request until? receiving).elim }

/-- One task moves on, and nothing is said of the others. -/
theorem replaces {task after : Task} {more : List Event}
    (found : task ∈ state.inFlight)
    (sameNumber : after.number = task.number)
    (sameDelivery : after.delivery = task.delivery)
    (course : Task.Course world.peers options.route task.number task.delivery
      after.stage
      (eventsOf task.number history ++ more)) :
    Ledger options world (putTask state after)
      (history ++ occurrences state.now (some task.number) more)
      (joined ++ joinedTasks state (putTask state after)) := by
  rw [joinedTasks_of_replaced rfl, List.append_nil]
  have intake := intakeOf_append_others history state.now (some task.number)
    fun event member =>
      isIntake_of_isReceive
        (isReceive_of_course course (List.mem_append_right _ member))
  have member : task ∈ joined ++ state.inFlight := List.mem_append_right _ found
  have onCourse := ledger.onCourse task member
  have unchanged : ∀ {other : Task}, other.number ≠ task.number →
      OnCourse options world history other →
        OnCourse options world
          (history ++ occurrences state.now (some task.number) more) other := by
    intro other different before
    refine before.keep (congrArg Intake.deliveries intake) ?_
    simp [eventsOf_occurrences_other, different.symm]
  exact
    { numbers := by
        simp only [putTask, List.map_append, map_number_replaceTask]
        rw [← List.map_append]
        exact ledger.numbers
      handed := by rw [handedOut, intake, ← handedOut, ledger.handed, putTask]
      onCourse := by
        intro other inside
        rcases List.mem_append.mp inside with earlier | present
        · apply unchanged (ledger.number_ne found earlier)
          exact ledger.onCourse other (List.mem_append_left _ earlier)
        · rcases mem_replaceTask present with rfl | ⟨kept, different⟩
          · constructor
            · rw [handedOut, intake, ← handedOut, sameNumber, sameDelivery]
              exact onCourse.delivery
            · simpa [sameNumber, sameDelivery] using course
          · rw [sameNumber] at different
            exact unchanged different
              (ledger.onCourse other (List.mem_append_right _ kept))
      unused := by
        intro number beyond
        have different : task.number ≠ number := by
          have within := ledger.number_lt member
          simp only [putTask] at beyond
          omega
        simp [eventsOf_occurrences_other, different, ledger.unused number beyond]
      finished := ledger.finished
      totals := ledger.totals
      requested := by
        intro request until? receiving
        rw [intake]
        exact ledger.requested request until? receiving }

/-- Whatever a step does to the tasks, the ledger is kept. -/
theorem change (taskChange : TaskChange options world state next events) :
    Ledger options world next (history ++ events)
      (joined ++ joinedTasks state next) := by
  cases taskChange with
  | keeps same phase others => exact ledger.keeps same phase others
  | calls same phase => exact ledger.calls same phase
  | joins inFlight totals dispatched phase others =>
      exact ledger.joins inFlight totals dispatched phase others
  | handsOut before inFlight totals dispatched phase others =>
      exact ledger.handsOut before inFlight totals dispatched phase others
  | @moves task after more found stepped =>
      obtain ⟨changed, _⟩ := Task.step?_eq_some stepped
      have course := (ledger.onCourse task (List.mem_append_right _ found)).course
      exact ledger.replaces found (by rw [changed]) (by rw [changed])
        (course.step stepped)
  | @cuts task found unfinished =>
      have course := (ledger.onCourse task (List.mem_append_right _ found)).course
      have cut : Task.Course world.peers options.route task.number task.delivery .cut
          (eventsOf task.number history ++ []) := by
        rw [List.append_nil]
        exact course.cut unfinished
      have replaced :
        Ledger options world (putTask state { task with stage := .cut })
          (history ++ occurrences state.now (some task.number) []) _ :=
        ledger.replaces found rfl rfl cut
      exact replaced

end

end Ledger

/-- Every run keeps its ledger. -/
theorem Joins.ledger (run : Joins options world shutdown state history joined) :
    Ledger options world state history joined := by
  induction run with
  | start => exact .start options world shutdown
  | step _ stepped induction =>
      exact induction.change (step?_cases stepped).taskChange

end AtLeastOnce.Receiver
