import AtLeastOnce.Proofs.Handling.Course
import AtLeastOnce.Proofs.Receiver.TaskList

/-!
# What a step does to the tasks

Seen from the tasks, a step of the machine does one of six things: it leaves them
alone, begins a receive, joins those that have finished, hands out the deliveries
of an answer, moves one task on, or cuts one off.
-/

namespace AtLeastOnce.Receiver

/-- A step that leaves the tasks and what is counted of them alone. -/
structure SameTasks (state next : State) : Prop where
  inFlight : next.inFlight = state.inFlight
  totals : next.totals = state.totals
  dispatched : next.dispatched = state.dispatched

inductive TaskChange (options : ReceiverOptions) (world : World) (state : State) :
    State → List Occurrence → Prop where
  | keeps {next : State} {events : List Event}
      (same : SameTasks state next)
      (phase : ∀ request until?, next.phase = .receiving request until? →
        state.phase = .receiving request until?)
      (others : ∀ event ∈ events, isIntake event = false) :
      TaskChange options world state next (occurrences state.now none events)
  | calls {next : State} {request : ReceiveRequest} {until? : Option Nat}
      (same : SameTasks state next)
      (phase : next.phase = .receiving request until?) :
      TaskChange options world state next
        (occurrences state.now none [.receiveCalled request])
  | joins {next : State} {events : List Event}
      (inFlight : next.inFlight = runningTasks state.inFlight)
      (totals :
        next.totals = (finishedTasks state.inFlight).foldl countTask state.totals)
      (dispatched : next.dispatched = state.dispatched)
      (phase : ∀ request until?, next.phase = .receiving request until? →
        state.phase = .receiving request until?)
      (others : ∀ event ∈ events, isIntake event = false) :
      TaskChange options world state next (occurrences state.now none events)
  | handsOut {next : State} {events : List Event} {request : ReceiveRequest}
      {until? : Option Nat} {deliveries : List Delivery}
      (before : state.phase = .receiving request until?)
      (inFlight : next.inFlight =
        state.inFlight ++
          newTasks state.dispatched (deliveries.take request.maxMessages))
      (totals : next.totals = state.totals)
      (dispatched : next.dispatched =
        state.dispatched + (deliveries.take request.maxMessages).length)
      (phase : ∀ request until?, next.phase ≠ .receiving request until?)
      (others : ∀ event ∈ events, isIntake event = false) :
      TaskChange options world state next
        (occurrences state.now none
          (.receiveEnded (.answered deliveries) :: events))
  | moves {task after : Task} {events : List Event}
      (found : task ∈ state.inFlight)
      (stepped : task.step? world.peers options.route state.now =
        some (after, events)) :
      TaskChange options world state (putTask state after)
        (occurrences state.now (some task.number) events)
  | cuts {task : Task}
      (found : task ∈ state.inFlight)
      (unfinished : task.isFinished = false)
      (phase : state.phase = .abandoning) :
      TaskChange options world state (putTask state { task with stage := .cut }) []

variable {options : ReceiverOptions} {world : World} {state next : State}

theorem isIntake_of_beginDrain :
    ∀ event ∈ (beginDrain options state).2, isIntake event = false := by
  intro event member
  rcases mem_beginDrain_events member with rfl | rfl <;> rfl

theorem isIntake_of_reap : ∀ event ∈ (reap state).2, isIntake event = false := by
  intro event member
  obtain ⟨text, rfl⟩ := mem_reap_events member
  rfl

theorem LoopMove.taskChange {events : List Event}
    (move : LoopMove options world state (next, events)) :
    TaskChange options world state next (occurrences state.now none events) := by
  generalize made : (next, events) = result at move
  cases move with
  | refuse | resume =>
      cases made
      exact .keeps ⟨rfl, rfl, rfl⟩ (by simp) (by simp)
  | begin =>
      cases made
      exact .keeps ⟨rfl, rfl, rfl⟩ (by simp) (by simp [isIntake])
  | ask =>
      cases made
      refine .keeps ⟨rfl, rfl, rfl⟩ (by simp) ?_
      intro event member
      rw [mem_enter_events member]
      rfl
  | call =>
      cases made
      exact .calls ⟨rfl, rfl, rfl⟩ rfl
  | leave =>
      cases made
      exact .keeps ⟨by simp, by simp, by simp⟩ (by simp) isIntake_of_beginDrain
  | goOn =>
      cases made
      exact .joins rfl rfl rfl (by simp) isIntake_of_reap
  | join =>
      cases made
      exact .joins rfl rfl rfl (fun _ _ phase => phase) isIntake_of_reap
  | leaveHead =>
      cases made
      refine .joins (by simp [reap_eq]) (by simp [reap_eq]) (by simp [reap_eq])
        (by simp) ?_
      intro event member
      rcases List.mem_append.mp member with first | later
      · exact isIntake_of_reap event first
      · exact isIntake_of_beginDrain event later
  | abandon =>
      cases made
      refine .joins rfl rfl rfl (by simp) ?_
      intro event member
      rcases List.mem_append.mp member with first | later
      · exact isIntake_of_reap event first
      · rw [List.mem_singleton.mp later]
        rfl
  | finish =>
      cases made
      refine .joins (by simp [reap_eq]) (by simp [reap_eq]) (by simp [reap_eq])
        (by simp) ?_
      intro event member
      rcases List.mem_append.mp member with first | later
      · exact isIntake_of_reap event first
      · rcases mem_finish_events later with rfl | rfl <;> rfl
  | answer phase =>
      cases made
      refine .handsOut phase (by simp) (by simp) (by simp) ?_ ?_
      · intro request until?
        simp only [onDeliveries_fst]
        split <;> simp
      · intro event member
        rcases mem_onDeliveries_events member with rfl | rfl | rfl | rfl <;> rfl
  | retry | unsampled | breakOff =>
      cases made
      refine .keeps ⟨rfl, rfl, rfl⟩ (by simp) ?_
      intro event member
      simp only [List.mem_cons, List.not_mem_nil, or_false] at member
      rcases member with rfl | rfl <;> rfl
  | giveUp =>
      cases made
      refine .keeps ⟨by simp [givingUp], by simp [givingUp], by simp [givingUp]⟩
        (by simp) ?_
      intro event member
      simp only [List.mem_cons] at member
      rcases member with rfl | rfl | later
      · rfl
      · rfl
      · exact isIntake_of_beginDrain event later

/-- Every step does one of these things to the tasks. -/
theorem Move.taskChange {events : List Occurrence}
    (move : Move options world state next events) :
    TaskChange options world state next events := by
  cases move with
  | trigger =>
      exact .keeps ⟨rfl, rfl, rfl⟩ (fun _ _ phase => phase) (by simp [isIntake])
  | loop move => exact move.taskChange
  | task _ found stepped => exact .moves found stepped
  | cut phase found unfinished => exact .cuts found unfinished phase
  | @advance time _ =>
      have change : TaskChange options world state { state with now := time }
          (occurrences state.now none []) :=
        .keeps ⟨rfl, rfl, rfl⟩ (fun _ _ phase => phase) (by simp)
      exact change

/-! ## One task -/

/-- What a step makes of a task that is in flight. -/
inductive TaskMove (options : ReceiverOptions) (world : World) (state : State)
    (task : Task) : Task → Prop where
  | stays : TaskMove options world state task task
  | steps {after : Task} {events : List Event}
      (stepped : task.step? world.peers options.route state.now =
        some (after, events)) :
      TaskMove options world state task after
  | cut (phase : state.phase = .abandoning) (unfinished : task.isFinished = false) :
      TaskMove options world state task { task with stage := .cut }

namespace TaskMove

variable {task after : Task}

theorem number_eq (move : TaskMove options world state task after) :
    after.number = task.number ∧ after.delivery = task.delivery := by
  cases move with
  | stays | cut => exact ⟨rfl, rfl⟩
  | steps stepped =>
      rw [(Task.step?_eq_some stepped).1]
      exact ⟨rfl, rfl⟩

end TaskMove

namespace TaskChange

variable {events : List Occurrence} {task after : Task}

/-- No task is lost: it has been joined or is still in flight. -/
theorem exists_after (change : TaskChange options world state next events)
    (distinct : (state.inFlight.map Task.number).Nodup)
    (member : task ∈ state.inFlight) :
    ∃ after ∈ joinedTasks state next ++ next.inFlight,
      TaskMove options world state task after := by
  have replaced : ∀ {other after : Task}, other ∈ state.inFlight →
      after.number = other.number → TaskMove options world state other after →
        ∃ last ∈ joinedTasks state (putTask state after) ++
            (putTask state after).inFlight,
          TaskMove options world state task last := by
    intro other after found same moved
    by_cases equal : task.number = other.number
    · obtain rfl := eq_of_number_eq distinct member found equal
      exact ⟨after, List.mem_append_right _ (mem_replaceTask_self member same.symm),
        moved⟩
    · refine ⟨task, List.mem_append_right _ (mem_replaceTask_other member ?_), .stays⟩
      rw [same]
      exact equal
  cases change with
  | keeps same | calls same =>
      refine ⟨task, List.mem_append_right _ ?_, .stays⟩
      rw [same.inFlight]
      exact member
  | joins inFlight =>
      refine ⟨task, ?_, .stays⟩
      rw [joinedTasks_of_running distinct inFlight, inFlight]
      exact (finishedTasks_append_runningTasks state.inFlight).mem_iff.mpr member
  | handsOut _ inFlight =>
      refine ⟨task, List.mem_append_right _ ?_, .stays⟩
      rw [inFlight]
      exact List.mem_append_left _ member
  | moves found stepped =>
      exact replaced found (by rw [(Task.step?_eq_some stepped).1]) (.steps stepped)
  | cuts found unfinished phase => exact replaced found rfl (.cut phase unfinished)

/-- No task comes from nowhere: it was in flight, or it has just been handed out. -/
theorem exists_before (change : TaskChange options world state next events)
    (member : after ∈ next.inFlight) :
    (∃ task ∈ state.inFlight, TaskMove options world state task after) ∨
      after.stage = .queued ∧
        ∃ request until?, state.phase = .receiving request until? := by
  cases change with
  | keeps same | calls same =>
      rw [same.inFlight] at member
      exact .inl ⟨after, member, .stays⟩
  | joins inFlight =>
      rw [inFlight] at member
      exact .inl ⟨after, (mem_runningTasks.mp member).1, .stays⟩
  | handsOut before inFlight =>
      rw [inFlight] at member
      rcases List.mem_append.mp member with earlier | added
      · exact .inl ⟨after, earlier, .stays⟩
      · exact .inr ⟨(mem_newTasks added).1, _, _, before⟩
  | moves found stepped =>
      rcases mem_replaceTask member with rfl | ⟨kept, _⟩
      · exact .inl ⟨_, found, .steps stepped⟩
      · exact .inl ⟨after, kept, .stays⟩
  | cuts found unfinished phase =>
      rcases mem_replaceTask member with rfl | ⟨kept, _⟩
      · exact .inl ⟨_, found, .cut phase unfinished⟩
      · exact .inl ⟨after, kept, .stays⟩

end TaskChange

end AtLeastOnce.Receiver
