import AtLeastOnce.Proofs.Handling.Counts
import AtLeastOnce.Proofs.Handling.Ending
import AtLeastOnce.Proofs.Receiver.Closing
import AtLeastOnce.Proofs.Receiver.Ledger
import AtLeastOnce.Proofs.Receiver.Schedule
import Mathlib.Data.List.Perm.Subperm

/-!
# Every delivery is accounted for

When a run has stopped, each delivery that was handed out has been joined once,
and the totals are those of the deliveries themselves: what handling each of them
comes to, which of them were cut off, and on which a queue call panicked.  The
order in which their tasks ended, and when the loop joined them, makes no
difference.
-/

namespace AtLeastOnce

namespace Receiver

/-! ## What joined tasks add up to -/

/-- Whether a stage ends with an acknowledgement of a kind. -/
def endsWith (kind : AckKind) (stage : Stage) : Bool :=
  stage.report?.any fun report => AckKind.of report.ack = kind

/-- A counter that goes up by one for some of the tasks counts those tasks. -/
theorem foldl_countTask (counter : Totals → Nat) (counts : Stage → Bool)
    (step : ∀ totals task, counter (countTask totals task) =
      counter totals + if counts task.stage then 1 else 0)
    (tasks : List Task) (totals : Totals) :
    counter (tasks.foldl countTask totals) =
      counter totals + tasks.countP fun task => counts task.stage := by
  induction tasks generalizing totals with
  | nil => rfl
  | cons task tasks induction =>
      rw [List.foldl_cons, induction, step, List.countP_cons]
      omega

section

variable (totals : Totals) (task : Task)

theorem acks_countTask (kind : AckKind) :
    (countTask totals task).acks.get kind =
      totals.acks.get kind + if endsWith kind task.stage then 1 else 0 := by
  unfold countTask
  cases task.stage with
  | done report =>
      simp [Totals.addReport, AckCounts.get_record, endsWith, Stage.report?]
  | queued | processing | publishing | deleting | broken | cut => rfl

theorem total_countTask :
    (countTask totals task).acks.total =
      totals.acks.total + if task.stage.report?.isSome then 1 else 0 := by
  unfold countTask
  cases task.stage with
  | done report => exact AckCounts.total_record _ _
  | queued | processing | publishing | deleting | broken | cut => rfl

theorem processed_countTask :
    (countTask totals task).processed =
      totals.processed + if task.stage.report?.isSome then 1 else 0 := by
  unfold countTask
  cases task.stage with
  | queued | processing | publishing | deleting | done | broken | cut => rfl

theorem abandoned_countTask :
    (countTask totals task).abandoned =
      totals.abandoned + if task.stage.isCut then 1 else 0 := by
  unfold countTask
  cases task.stage with
  | queued | processing | publishing | deleting | done | broken | cut => rfl

end

/-- A task that has finished reported, was cut off or broke, and only one of the
three. -/
theorem length_eq_of_finished {tasks : List Task}
    (finished : ∀ task ∈ tasks, task.isFinished = true) :
    tasks.length =
      tasks.countP (fun task => task.stage.report?.isSome) +
        tasks.countP (fun task => task.stage.isCut) +
        tasks.countP (fun task => task.stage.isBroken) := by
  induction tasks with
  | nil => rfl
  | cons task tasks induction =>
      have rest := induction fun other member =>
        finished other (List.mem_cons_of_mem _ member)
      have ended := finished task List.mem_cons_self
      simp only [List.length_cons, List.countP_cons, rest]
      unfold Task.isFinished at ended
      cases stage : task.stage with
      | done | cut | broken =>
          simp only [Stage.report?, Stage.isCut, Stage.isBroken, Option.isSome,
            ↓reduceIte, Bool.false_eq_true]
          omega
      | queued | processing | publishing | deleting =>
          rw [stage] at ended
          cases ended

/-! ## What the deliveries come to -/

/-- Whether the task with a number was cut off. -/
def wasCut (joined : List Task) (number : Nat) : Bool :=
  joined.any fun task => task.number = number && task.stage.isCut

/-- Whether a queue call of the task with a number panicked. -/
def hasBroken (history : List Occurrence) (number : Nat) : Bool :=
  (eventsOf number history).any Event.isCallPanic

/-- Whether handling a delivery comes to an acknowledgement of a kind. -/
def comesTo (options : ReceiverOptions) (world : World) (kind : AckKind)
    (number : Nat) (delivery : Delivery) : Bool :=
  (Task.ack? world.peers options.route number delivery).any fun ack =>
    AckKind.of ack = kind

/-- The totals of some deliveries, read off how each of them is handled and which
of their tasks are cut off. -/
def tally (options : ReceiverOptions) (world : World) (deliveries : List Delivery)
    (cut : Nat → Bool) : Totals :=
  let count (kind : AckKind) : Nat :=
    deliveries.zipIdx.countP fun (delivery, number) =>
      !cut number && comesTo options world kind number delivery
  { processed := count .deleted + count .deadLettered + count .left + count .failed
    acks := ⟨count .deleted, count .deadLettered, count .left, count .failed⟩
    abandoned := (List.range deliveries.length).countP cut }

variable {options : ReceiverOptions} {world : World} {shutdown : Shutdown}
  {state : State} {history : List Occurrence} {joined : List Task}

namespace Ledger

section

variable (ledger : Ledger options world state history joined)
include ledger

theorem acks (kind : AckKind) :
    state.totals.acks.get kind = joined.countP fun task =>
      endsWith kind task.stage := by
  rw [ledger.totals,
    foldl_countTask (fun totals => totals.acks.get kind) (endsWith kind)
      fun totals task => acks_countTask totals task kind]
  cases kind <;> exact Nat.zero_add _

theorem processed :
    state.totals.processed = joined.countP fun task =>
      task.stage.report?.isSome := by
  rw [ledger.totals,
    foldl_countTask Totals.processed (fun stage => stage.report?.isSome)
      processed_countTask]
  exact Nat.zero_add _

theorem abandoned :
    state.totals.abandoned = joined.countP fun task => task.stage.isCut := by
  rw [ledger.totals,
    foldl_countTask Totals.abandoned Stage.isCut abandoned_countTask]
  exact Nat.zero_add _

theorem processed_eq_total : state.totals.processed = state.totals.acks.total := by
  have total := foldl_countTask (fun totals => totals.acks.total)
    (fun stage => stage.report?.isSome) total_countTask joined .zero
  rw [ledger.processed, ledger.totals, total]
  exact (Nat.zero_add _).symm

theorem distinctJoined : (joined.map Task.number).Nodup := by
  have distinct := ledger.distinct
  rw [List.map_append] at distinct
  exact distinct.of_append_left

theorem wasCut_eq {task : Task} (member : task ∈ joined) :
    wasCut joined task.number = task.stage.isCut := by
  rw [Bool.eq_iff_iff, wasCut, List.any_eq_true]
  constructor
  · rintro ⟨other, inside, both⟩
    simp only [Bool.and_eq_true, decide_eq_true_eq] at both
    rw [← eq_of_number_eq ledger.distinctJoined inside member both.1]
    exact both.2
  · intro cut
    exact ⟨task, member, by simp [cut]⟩

theorem hasBroken_eq {task : Task} (member : task ∈ joined) :
    hasBroken history task.number = task.stage.isBroken :=
  (ledger.onCourse task (List.mem_append_left _ member)).course.any_isCallPanic

/-- A joined task ends as handling its delivery does, unless it was cut off. -/
theorem endsWith_eq {task : Task} (member : task ∈ joined) (kind : AckKind) :
    endsWith kind task.stage =
      (!wasCut joined task.number &&
        comesTo options world kind task.number task.delivery) := by
  have course := (ledger.onCourse task (List.mem_append_left _ member)).course
  have ended := ledger.finished task member
  rw [ledger.wasCut_eq member]
  unfold Task.isFinished at ended
  cases stage : task.stage with
  | done report =>
      rw [stage] at course
      simp [endsWith, comesTo, Stage.report?, Stage.isCut,
        Task.ack?, course.handled_of_report rfl,
        Except.toOption]
  | broken =>
      rw [stage] at course
      simp [endsWith, comesTo, Stage.report?, Task.ack?, course.handled_of_broken,
        Except.toOption]
  | cut => rfl
  | queued | processing | publishing | deleting =>
      rw [stage] at ended
      cases ended

section

variable (nothingLeft : state.inFlight = [])
include nothingLeft

theorem numbers_perm :
    (joined.map Task.number).Perm (List.range (handedOut history).length) := by
  have numbers := ledger.numbers
  rw [nothingLeft, List.append_nil, ← ledger.handed] at numbers
  exact numbers

/-- The joined tasks have the deliveries that were handed out, each under its
number. -/
theorem deliveries_perm :
    (joined.map fun task => (task.delivery, task.number)).Perm
      (handedOut history).zipIdx := by
  have distinct : (joined.map fun task => (task.delivery, task.number)).Nodup := by
    apply List.Nodup.of_map Prod.snd
    rw [List.map_map]
    exact ledger.distinctJoined
  have inside : (joined.map fun task => (task.delivery, task.number)) ⊆
      (handedOut history).zipIdx := by
    intro pair member
    obtain ⟨task, found, rfl⟩ := List.mem_map.mp member
    exact List.mk_mem_zipIdx_iff_getElem?.mpr
      (ledger.onCourse task (List.mem_append_left _ found)).delivery
  have sameLength := (ledger.numbers_perm nothingLeft).length_eq
  refine (distinct.subperm inside).perm_of_length_le ?_
  simp only [List.length_map, List.length_range] at sameLength
  simp [sameLength]

/-- Counting joined tasks by number is counting numbers. -/
theorem countP_number (counts : Nat → Bool) :
    (joined.countP fun task => counts task.number) =
      (List.range (handedOut history).length).countP counts := by
  rw [← (ledger.numbers_perm nothingLeft).countP_eq, List.countP_map]
  rfl

theorem acks_eq_countP (kind : AckKind) :
    state.totals.acks.get kind =
      (handedOut history).zipIdx.countP fun (delivery, number) =>
        !wasCut joined number && comesTo options world kind number delivery := by
  rw [ledger.acks, ← (ledger.deliveries_perm nothingLeft).countP_eq,
    List.countP_map]
  apply List.countP_congr
  intro task member
  rw [ledger.endsWith_eq member]
  rfl

theorem abandoned_eq_countP :
    state.totals.abandoned =
      (List.range (handedOut history).length).countP (wasCut joined) := by
  rw [ledger.abandoned, ← ledger.countP_number nothingLeft]
  apply List.countP_congr
  intro task member
  rw [ledger.wasCut_eq member]

theorem totals_eq_tally :
    state.totals = tally options world (handedOut history) (wasCut joined) := by
  have deleted := ledger.acks_eq_countP nothingLeft .deleted
  have deadLettered := ledger.acks_eq_countP nothingLeft .deadLettered
  have left := ledger.acks_eq_countP nothingLeft .left
  have failed := ledger.acks_eq_countP nothingLeft .failed
  have processed := ledger.processed_eq_total
  have abandoned := ledger.abandoned_eq_countP nothingLeft
  simp only [AckCounts.get] at deleted deadLettered left failed
  rw [AckCounts.total, deleted, deadLettered, left, failed] at processed
  have parts : state.totals =
      ⟨state.totals.processed,
        ⟨state.totals.acks.deleted, state.totals.acks.deadLettered,
          state.totals.acks.left, state.totals.acks.failed⟩,
        state.totals.abandoned⟩ := rfl
  rw [parts, deleted, deadLettered, left, failed, processed, abandoned]
  rfl

/-- Every delivery has been handled to an end, cut off, or broken. -/
theorem length_handedOut :
    (handedOut history).length =
      state.totals.processed + state.totals.abandoned +
        (List.range (handedOut history).length).countP (hasBroken history) := by
  have broken : (joined.countP fun task => task.stage.isBroken) =
      (List.range (handedOut history).length).countP (hasBroken history) := by
    rw [← ledger.countP_number nothingLeft]
    apply List.countP_congr
    intro task member
    rw [ledger.hasBroken_eq member]
  have sameLength := (ledger.numbers_perm nothingLeft).length_eq
  rw [List.length_map, List.length_range,
    length_eq_of_finished ledger.finished] at sameLength
  rw [← broken, ledger.processed, ledger.abandoned, sameLength]

end

end

end Ledger

/-! ## Broken tasks -/

/-- Whether the loop says that a task has broken. -/
def isTaskFailed : Event → Bool
  | .logged (.taskFailed _) => true
  | _ => false

section

variable {next : State} {made : List Event}

theorem countP_joinEvents (tasks : List Task) :
    (tasks.flatMap joinEvents).countP isTaskFailed =
      tasks.countP fun task => task.stage.isBroken := by
  induction tasks with
  | nil => rfl
  | cons task tasks induction =>
      rw [List.flatMap_cons, List.countP_append, induction, List.countP_cons, Nat.add_comm]
      unfold joinEvents
      cases task.stage with
      | queued | processing | publishing | deleting | done | broken | cut => rfl

theorem countP_beginDrain : (beginDrain options state).2.countP isTaskFailed = 0 := by
  refine List.countP_eq_zero.mpr ?_
  intro event member
  rcases mem_beginDrain_events member with rfl | rfl <;> exact Bool.false_ne_true

theorem countP_finish : (finish options state).2.countP isTaskFailed = 0 := by
  refine List.countP_eq_zero.mpr ?_
  intro event member
  rcases mem_finish_events member with rfl | rfl <;> exact Bool.false_ne_true

/-- A broken task is logged when it is joined, and nothing else is. -/
theorem LoopMove.countP_isTaskFailed (move : LoopMove options world state (next, made))
    (distinct : (state.inFlight.map Task.number).Nodup) :
    made.countP isTaskFailed =
      (joinedTasks state next).countP fun task => task.stage.isBroken := by
  have keeps : ∀ added, next.inFlight = state.inFlight ++ added →
      made.countP isTaskFailed = 0 →
        made.countP isTaskFailed =
          (joinedTasks state next).countP fun task => task.stage.isBroken := by
    intro added inFlight unlogged
    rw [unlogged, joinedTasks_of_appended inFlight]
    rfl
  have joins : next.inFlight = runningTasks state.inFlight →
      made.countP isTaskFailed = (reap state).2.countP isTaskFailed →
        made.countP isTaskFailed =
          (joinedTasks state next).countP fun task => task.stage.isBroken := by
    intro inFlight logged
    rw [logged, joinedTasks_of_running distinct inFlight]
    exact countP_joinEvents (finishedTasks state.inFlight)
  generalize same : (next, made) = result at move
  cases move with
  | refuse | begin | call | retry | unsampled | breakOff | resume =>
      cases same
      exact keeps [] (List.append_nil _).symm rfl
  | ask =>
      cases same
      refine keeps [] (List.append_nil _).symm (List.countP_eq_zero.mpr ?_)
      intro event member
      rw [mem_enter_events member]
      exact Bool.false_ne_true
  | leave =>
      cases same
      refine keeps [] ?_ countP_beginDrain
      rw [beginDrain_fst]
      exact (List.append_nil state.inFlight).symm
  | giveUp =>
      cases same
      refine keeps [] ?_ ?_
      · rw [beginDrain_fst, List.append_nil]
        rfl
      · rw [List.countP_cons, List.countP_cons, countP_beginDrain]
        rfl
  | answer =>
      cases same
      refine keeps _ (by rw [onDeliveries_fst]) (List.countP_eq_zero.mpr ?_)
      intro event member
      rcases List.mem_cons.mp member with rfl | later
      · exact Bool.false_ne_true
      · rcases mem_onDeliveries_events later with rfl | rfl | rfl | rfl <;>
          exact Bool.false_ne_true
  | goOn | join =>
      cases same
      exact joins rfl rfl
  | leaveHead =>
      cases same
      refine joins (by simp [reap_eq]) ?_
      rw [List.countP_append, countP_beginDrain, Nat.add_zero]
  | abandon =>
      cases same
      refine joins rfl ?_
      rw [List.countP_append]
      rfl
  | finish =>
      cases same
      refine joins (by simp [reap_eq]) ?_
      rw [List.countP_append, countP_finish, Nat.add_zero]

end

theorem Joins.countP_isTaskFailed
    (run : Joins options world shutdown state history joined) :
    (loopEvents history).countP isTaskFailed =
      joined.countP fun task => task.stage.isBroken := by
  induction run with
  | start => rfl
  | @step state next history events joined action run stepped induction =>
      have distinct := run.ledger.distinctInFlight
      have unlogged : joinedTasks state next = [] →
          (loopEvents events).countP isTaskFailed = 0 →
            (loopEvents (history ++ events)).countP isTaskFailed =
              (joined ++ joinedTasks state next).countP fun task => task.stage.isBroken := by
        intro nothing zero
        rw [nothing, List.append_nil, loopEvents_append, List.countP_append, zero, induction]
        rfl
      cases step?_cases stepped with
      | loop move =>
          rw [loopEvents_append, loopEvents_occurrences_none, List.countP_append,
            List.countP_append, induction, move.countP_isTaskFailed distinct]
      | trigger =>
          refine unlogged (joinedTasks_of_appended (List.append_nil _).symm) ?_
          rw [loopEvents_occurrences_none]
          rfl
      | advance => exact unlogged (joinedTasks_of_appended (List.append_nil _).symm) rfl
      | task =>
          refine unlogged (joinedTasks_of_replaced rfl) ?_
          rw [loopEvents_occurrences_some]
          rfl
      | cut => exact unlogged (joinedTasks_of_replaced rfl) rfl

/-! ## The totals of a run -/

/-- What is true of a run that has stopped. -/
structure Accounted (options : ReceiverOptions) (world : World) (state : State)
    (history : List Occurrence) (joined : List Task)
    (result : Except Failure Totals) : Prop where
  /-- Every delivery that was handed out has a task of its own, joined once. -/
  joinedOnce : (joined.map Task.number).Perm (List.range (handedOut history).length)
  own : ∀ task ∈ joined, (handedOut history)[task.number]? = some task.delivery
  nothingLeft : state.inFlight = []
  balanced : state.totals.processed =
    state.totals.acks.deleted + state.totals.acks.deadLettered +
      state.totals.acks.left + state.totals.acks.failed
  complete : (handedOut history).length =
    state.totals.processed + state.totals.abandoned +
      (List.range (handedOut history).length).countP (hasBroken history)
  /-- The totals depend on what was handed out and on what was cut off, and on
  nothing else. -/
  totals : state.totals = tally options world (handedOut history) (wasCut joined)
  /-- They are announced once. -/
  announced : (loopEvents history).filterMap stoppedTotals? = [state.totals]
  returned : ∀ totals, result = .ok totals → totals = state.totals
  /-- Without giving up, only tasks that were cut off make the run fail. -/
  result : (loopEvents history).any isGivingUp = false →
    result =
      if 0 < state.totals.abandoned then
        .error (.shutdown
          (.graceExceeded options.gracePeriod state.totals.abandoned))
      else .ok state.totals

theorem finalResult_eq_ok {totals : Totals}
    (ended : finalResult options state = .ok totals) :
    totals = state.totals := by
  unfold finalResult at ended
  split at ended
  · cases ended
  · split at ended <;> cases ended
    rfl

/-- Every run that stops has accounted for what it handed out. -/
theorem Joins.accounted {result : Except Failure Totals}
    (run : Joins options world shutdown state history joined)
    (stopped : state.phase = .stopped result) :
    Accounted options world state history joined result := by
  have ledger := run.ledger
  have closing := run.reaches.closing
  obtain ⟨final, nothingLeft⟩ := closing.result result stopped
  exact
    { joinedOnce := ledger.numbers_perm nothingLeft
      own := by
        intro task member
        exact (ledger.onCourse task (List.mem_append_left _ member)).delivery
      nothingLeft
      balanced := ledger.processed_eq_total
      complete := ledger.length_handedOut nothingLeft
      totals := ledger.totals_eq_tally nothingLeft
      announced := by
        rw [closing.announced, Receiver.announced, stopped]
      returned := by
        intro totals ok
        rw [final] at ok
        exact finalResult_eq_ok ok
      result := by
        intro unsaid
        rw [closing.givenUp, Option.isSome_eq_false_iff,
          Option.isNone_iff_eq_none] at unsaid
        rw [final, finalResult, unsaid] }

/-- The two letters are deleted, the second of them after it has been copied. -/
theorem accounted_twoLetters :
    ∃ joined,
      Joins letterOptions twoLetters .idle
        (run letterOptions twoLetters (some 5) 60).state
        (run letterOptions twoLetters (some 5) 60).history joined ∧
      Accounted letterOptions twoLetters
        (run letterOptions twoLetters (some 5) 60).state
        (run letterOptions twoLetters (some 5) 60).history joined
        (.ok ⟨2, ⟨1, 1, 0, 0⟩, 0⟩) := by
  obtain ⟨joined, joins⟩ := (run_reaches letterOptions twoLetters (some 5) 60).joins
  exact ⟨joined, joins, joins.accounted rfl⟩

end Receiver

end AtLeastOnce
