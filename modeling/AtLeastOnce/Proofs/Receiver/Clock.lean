import AtLeastOnce.Proofs.Receiver.Journal

/-!
# Nobody is kept waiting, and nobody gets stuck

In a run on the virtual clock no moment that somebody waits for goes by, and as
long as the run is not over there is always a step to take.
-/

namespace AtLeastOnce.Receiver

variable {options : ReceiverOptions} {world : World} {shutdown : Shutdown}
  {state next : State} {journal later : Journal}

/-! ## Nobody is kept waiting -/

/-- No moment that somebody waits for has gone by. -/
def Punctual (state : State) : Prop := ∀ moment, Awaits state moment → state.now ≤ moment

theorem Punctual.task {task : Task} (punctual : Punctual state)
    (member : task ∈ state.inFlight) :
    ∀ moment, task.stage.wakeTime? = some moment → state.now ≤ moment := by
  intro moment waits
  exact punctual moment (.inr ⟨task, member, waits⟩)

theorem LoopMove.le_of_wakeTime? {made : List Event} {moment : Nat}
    (move : LoopMove options world state (next, made))
    (ahead : ∀ moment, state.phase.wakeTime? = some moment → state.now ≤ moment)
    (awaits : next.phase.wakeTime? = some moment) : state.now ≤ moment := by
  generalize same : (next, made) = result at move
  cases move with
  | refuse | begin | goOn | ask | unsampled | breakOff | resume | abandon =>
      cases same
      cases awaits
  | finish =>
      cases same
      simp [Phase.wakeTime?] at awaits
  | leaveHead | leave | giveUp =>
      cases same
      simp only [beginDrain_fst, Phase.wakeTime?, Option.some.injEq] at awaits
      rw [← awaits]
      exact Nat.le_add_right state.now _
  | call =>
      cases same
      exact Timed.le_of_endFrom awaits
  | retry =>
      cases same
      rw [← Option.some.inj awaits]
      exact Nat.le_add_right state.now _
  | answer =>
      cases same
      simp only [onDeliveries_fst] at awaits
      split at awaits
      · rw [← Option.some.inj awaits]
        exact Nat.le_add_right state.now _
      · cases awaits
  | join =>
      cases same
      exact ahead moment awaits

theorem TaskMove.le_of_wakeTime? {task after : Task} {moment : Nat}
    (move : TaskMove options world state task after)
    (ahead : ∀ moment, task.stage.wakeTime? = some moment → state.now ≤ moment)
    (awaits : after.stage.wakeTime? = some moment) : state.now ≤ moment := by
  cases move with
  | stays => exact ahead moment awaits
  | steps stepped => exact (Task.step?_timely stepped ahead).ahead moment awaits
  | cut => cases awaits

theorem OwnMove.punctual {events : List Occurrence} (punctual : Punctual state)
    (own : OwnMove options world state next events) : Punctual next := by
  have tasks : ∀ task ∈ next.inFlight, ∀ moment,
      task.stage.wakeTime? = some moment → state.now ≤ moment := by
    intro task member moment awaits
    rcases own.move.taskChange.exists_before member with
      ⟨before, found, moved⟩ | ⟨queued, _⟩
    · exact moved.le_of_wakeTime? (punctual.task found) awaits
    · rw [queued] at awaits
      cases awaits
  cases own with
  | loop move =>
      rintro moment (phase | ⟨task, member, awaits⟩)
      · rw [move.now_eq]
        refine move.le_of_wakeTime? ?_ phase
        intro earlier waited
        exact punctual earlier (.inl waited)
      · rw [move.now_eq]
        exact tasks task member moment awaits
  | task | cut =>
      rintro moment (phase | ⟨task, member, awaits⟩)
      · exact punctual moment (.inl phase)
      · exact tasks task member moment awaits
  | advance _ _ awaited => exact awaited

namespace Journal

theorem Step.punctual {action : Action} (step : Step options world journal action later)
    (punctual : Punctual journal.state) : Punctual later.state := by
  rcases step.cases with rfl | own
  · exact punctual
  · obtain ⟨_, move, _⟩ := own.cases
    exact move.punctual punctual

theorem Reached.punctual (reached : Reached options world shutdown journal) :
    Punctual journal.state := by
  induction reached with
  | refl =>
      rintro moment (phase | ⟨task, member, _⟩)
      · cases phase
      · cases member
  | tail _ step induction =>
      obtain ⟨action, step⟩ := step
      exact step.punctual induction

end Journal

/-! ## Nobody gets stuck -/

/-- Everything that can make the loop wait. -/
inductive LoopWaits (state : State) : Prop where
  | acquiring
      (phase : state.phase = .acquiring)
      (untriggered : state.shutdown.triggered = false)
      (exhausted : state.free = 0)
  | receiving {request : ReceiveRequest} {until? : Option Nat}
      (phase : state.phase = .receiving request until?)
      (untriggered : state.shutdown.triggered = false)
      (early : isDue state.now until? = false)
  | pausing {until? : Option Nat}
      (phase : state.phase = .pausing until? ∨ state.phase = .backingOff until?)
      (untriggered : state.shutdown.triggered = false)
      (early : isDue state.now until? = false)
  | draining {deadline : Nat}
      (phase : state.phase = .draining deadline)
      (remaining : runningTasks state.inFlight ≠ [])
      (early : state.now < deadline)
  | abandoning
      (phase : state.phase = .abandoning)
      (remaining : runningTasks state.inFlight ≠ [])
  | gone (gone : state.phase.isOver = true)

theorem loopWaits_of_afterPause? {timerFirst : Bool} {until? : Option Nat}
    (phase : state.phase = .pausing until? ∨ state.phase = .backingOff until?)
    (none : afterPause? options timerFirst state until? = none) : LoopWaits state := by
  unfold afterPause? at none
  split at none
  · cases none
  · rename_i notReady
    split at none
    · cases none
    · rename_i untriggered
      have down := eq_false_of_ne_true untriggered
      refine .pausing phase down ?_
      simpa [down] using notReady

theorem loopWaits_of_loopStep? {timerFirst : Bool}
    (none : loopStep? options world timerFirst state = none) : LoopWaits state := by
  unfold loopStep? at none
  cases phase : state.phase with
  | starting | reaping | requesting =>
      rw [phase] at none
      dsimp only at none
      split at none <;> cases none
  | acquiring =>
      rw [phase] at none
      dsimp only at none
      split at none
      · cases none
      · rename_i untriggered
        split at none
        · rename_i exhausted
          exact .acquiring phase (eq_false_of_ne_true untriggered) exhausted
        · cases none
  | receiving request until? =>
      rw [phase] at none
      dsimp only at none
      split at none
      · cases none
      · rename_i untriggered
        split at none
        · cases none
        · rename_i early
          exact .receiving phase (eq_false_of_ne_true untriggered)
            (eq_false_of_ne_true early)
  | pausing until? =>
      rw [phase] at none
      exact loopWaits_of_afterPause? (.inl phase) none
  | backingOff until? =>
      rw [phase] at none
      exact loopWaits_of_afterPause? (.inr phase) none
  | draining deadline =>
      rw [phase] at none
      dsimp only at none
      split at none
      · cases none
      · rename_i remaining
        split at none
        · cases none
        · rename_i early
          exact .draining phase (mt List.isEmpty_iff.mpr remaining)
            (Nat.lt_of_not_le early)
  | abandoning =>
      rw [phase] at none
      dsimp only at none
      split at none
      · cases none
      · rename_i remaining
        exact .abandoning phase (mt List.isEmpty_iff.mpr remaining)
  | stopped | crashed => exact .gone (by rw [phase]; rfl)

theorem findTask?_of_mem {task : Task}
    (distinct : (state.inFlight.map Task.number).Nodup)
    (member : task ∈ state.inFlight) : findTask? state task.number = some task := by
  cases found : findTask? state task.number with
  | none =>
      have absent := List.find?_eq_none.mp found task member
      simp at absent
  | some other =>
      obtain ⟨inside, same⟩ := findTask?_eq_some found
      rw [eq_of_number_eq distinct inside member same]

namespace Idle

variable {task : Task} (idle : Idle options world state)
include idle

theorem loopWaits : LoopWaits state :=
  loopWaits_of_loopStep? (Option.map_eq_none_iff.mp (idle (.loop true) rfl))

theorem task_step? (distinct : (state.inFlight.map Task.number).Nodup)
    (running : state.phase.isOver = false) (member : task ∈ state.inFlight) :
    task.step? world.peers options.route state.now = none := by
  have still := Option.map_eq_none_iff.mp (idle (.task task.number) rfl)
  rw [taskStep?, running, findTask?_of_mem distinct member] at still
  exact Option.map_eq_none_iff.mp still

/-- A task that is still running waits for something that has not come. -/
theorem waits (distinct : (state.inFlight.map Task.number).Nodup)
    (running : state.phase.isOver = false) (member : task ∈ state.inFlight)
    (unfinished : task.isFinished = false) :
    task.stage ≠ .queued ∧ isDue state.now task.stage.wakeTime? = false := by
  have still := idle.task_step? distinct running member
  constructor
  · intro queued
    have moves :
        (task.step? world.peers options.route state.now).isSome = true :=
      Task.step?_isSome unfinished (.inl queued)
    rw [still] at moves
    cases moves
  · refine eq_false_of_ne_true ?_
    intro due
    have moves :
        (task.step? world.peers options.route state.now).isSome = true :=
      Task.step?_isSome unfinished (.inr due)
    rw [still] at moves
    cases moves

/-- What is to be cut off can be cut off. -/
theorem not_abandoning (distinct : (state.inFlight.map Task.number).Nodup) :
    state.phase ≠ .abandoning := by
  intro phase
  have remaining : runningTasks state.inFlight ≠ [] := by
    cases idle.loopWaits with
    | abandoning _ remaining => exact remaining
    | acquiring other | receiving other | draining other =>
        rw [phase] at other
        cases other
    | pausing other => rcases other with other | other <;> rw [phase] at other <;> cases other
    | gone gone =>
        rw [phase] at gone
        cases gone
  obtain ⟨task, member⟩ := List.exists_mem_of_ne_nil _ remaining
  obtain ⟨found, unfinished⟩ := mem_runningTasks.mp member
  have still := Option.map_eq_none_iff.mp (idle (.cut task.number) rfl)
  rw [cutStep?, phase] at still
  simp [findTask?_of_mem distinct found, unfinished] at still

/-- While nobody can move, everything that somebody waits for is still to come. -/
theorem lt_of_awaits {moment : Nat} (distinct : (state.inFlight.map Task.number).Nodup)
    (running : state.phase.isOver = false) (awaits : Awaits state moment) :
    state.now < moment := by
  have later : ∀ {until?}, until? = some moment → isDue state.now until? = false →
      state.now < moment := by
    rintro until? rfl early
    simpa [isDue] using early
  rcases awaits with phase | ⟨task, member, wakes⟩
  · cases idle.loopWaits with
    | acquiring other | abandoning other =>
        rw [other] at phase
        cases phase
    | receiving other _ early =>
        rw [other] at phase
        exact later phase early
    | pausing other _ early =>
        rcases other with other | other <;> rw [other] at phase <;>
          exact later phase early
    | draining other _ early =>
        rw [other] at phase
        rw [← Option.some.inj phase]
        exact early
    | gone gone =>
        rw [gone] at running
        cases running
  · have unfinished := Task.unfinished_of_wakeTime? wakes
    exact later wakes (idle.waits distinct running member unfinished).2

end Idle

theorem idle_or_moves (options : ReceiverOptions) (world : World) (state : State) :
    Idle options world state ∨
      ∃ action next events,
        action.isMove = true ∧ step? options world state action = some (next, events) := by
  by_cases idle : Idle options world state
  · exact .inl idle
  · unfold Idle at idle
    push Not at idle
    obtain ⟨action, isMove, possible⟩ := idle
    obtain ⟨⟨next, events⟩, stepped⟩ := Option.ne_none_iff_exists'.mp possible
    exact .inr ⟨action, next, events, isMove, stepped⟩

theorem onTime_of_isMove {action : Action} (isMove : action.isMove = true) :
    OnTime options world state action := by
  cases action with
  | advance => cases isMove
  | trigger | loop | task | cut => trivial

namespace Journal

theorem Reached.exists_own (reached : Reached options world shutdown journal)
    (running : journal.state.phase.isOver = false) :
    ∃ next, Own options world journal next := by
  have distinct := reached.joins.ledger.distinctInFlight
  rcases idle_or_moves options world journal.state with
    idle | ⟨action, next, events, isMove, stepped⟩
  -- A single tick is always allowed: nobody waits for a moment that has come.
  · have stepped : step? options world journal.state (.advance (journal.state.now + 1)) =
        some ({ journal.state with now := journal.state.now + 1 }, []) :=
      if_pos (Nat.lt_succ_self journal.state.now)
    refine ⟨_, .advance (journal.state.now + 1), by simp, .intro ⟨idle, ?_⟩ stepped⟩
    intro moment awaits
    exact idle.lt_of_awaits distinct running awaits
  · refine ⟨_, action, ?_, .intro (onTime_of_isMove isMove) stepped⟩
    rintro rfl
    cases isMove

end Journal

/-! ## The schedule keeps to the clock -/

/-- A tie between a timer and the trigger leaves something to do either way. -/
theorem loopStep?_eq_none {timerFirst : Bool}
    (none : loopStep? options world false state = none) :
    loopStep? options world timerFirst state = Option.none := by
  have pause : ∀ until?, afterPause? options false state until? = Option.none →
      afterPause? options timerFirst state until? = Option.none := by
    intro until? still
    unfold afterPause? at still ⊢
    cases down : state.shutdown.triggered <;> simp_all
  cases phase : state.phase with
  | pausing until? | backingOff until? =>
      unfold loopStep? at none ⊢
      rw [phase] at none ⊢
      exact pause until? none
  | starting | reaping | acquiring | requesting | receiving | draining | abandoning =>
      unfold loopStep? at none ⊢
      rw [phase] at none ⊢
      exact none
  | stopped | crashed =>
      unfold loopStep?
      rw [phase]

theorem idle_of_movableTask? (still : loopStep? options world false state = none)
    (phase : state.phase ≠ .abandoning)
    (unmovable : movableTask? options world state = none) :
    Idle options world state := by
  intro action moves
  cases action with
  | trigger | advance => cases moves
  | loop timerFirst => simp [step?, loopStep?_eq_none still]
  | cut number =>
      have uncut : cutStep? state number = none := by
        unfold cutStep?
        split
        · rename_i abandoning
          exact (phase abandoning).elim
        · rfl
      simp [step?, uncut]
  | task number =>
      refine Option.map_eq_none_iff.mpr ?_
      unfold taskStep?
      split
      · rfl
      · refine Option.bind_eq_none_iff.mpr ?_
        intro task found
        have waits := List.find?_eq_none.mp (Option.map_eq_none_iff.mp unmovable) task
          (findTask?_eq_some found).1
        rw [Option.not_isSome_iff_eq_none] at waits
        rw [waits, Option.map_none]

theorem onTime_of_choose? {current : Run} {action : Action}
    (chosen : choose? options world current = some action) :
    OnTime options world current.state action := by
  cases action with
  | trigger | loop | task | cut => trivial
  | advance time =>
      unfold choose? at chosen
      dsimp only at chosen
      split at chosen
      · cases chosen
      split at chosen
      · cases chosen
      rename_i still
      rw [Option.not_isSome_iff_eq_none] at still
      split at chosen
      · simp at chosen
      rename_i phase
      split at chosen
      · cases chosen
      split at chosen
      · cases chosen
      rename_i unmovable
      simp only [Option.map_eq_some_iff, Action.advance.injEq, exists_eq_right] at chosen
      obtain ⟨earliest, _⟩ := Option.filter_eq_some_iff.mp chosen
      refine ⟨idle_of_movableTask? still phase unmovable, ?_⟩
      intro moment awaits
      refine le_of_earliest? earliest ?_
      rcases awaits with waits | ⟨task, member, wakes⟩
      · rw [← waits]
        exact List.mem_cons_of_mem _ List.mem_cons_self
      · rw [← wakes]
        exact List.mem_cons_of_mem _
          (List.mem_cons_of_mem _ (List.mem_map_of_mem member))

namespace Journal

theorem runUpTo_reached (limit : Nat) {before : Run} {joined : List Task}
    (reached : Reached options world shutdown ⟨before.state, before.history, joined⟩) :
    ∃ joined, Reached options world shutdown
      ⟨(runUpTo options world limit before).state,
        (runUpTo options world limit before).history, joined⟩ := by
  induction limit generalizing before joined with
  | zero => exact ⟨joined, reached⟩
  | succ limit induction =>
      unfold runUpTo
      cases advanced : advance? options world before with
      | none => exact ⟨joined, reached⟩
      | some after =>
          obtain ⟨action, chosen, taken⟩ := Option.bind_eq_some_iff.mp advanced
          obtain ⟨⟨state, events⟩, stepped, rfl⟩ := Option.map_eq_some_iff.mp taken
          exact induction (reached.tail ⟨action, onTime_of_choose? chosen, stepped⟩)

theorem run_reached (options : ReceiverOptions) (world : World)
    (triggerAt : Option Nat) (limit : Nat) :
    ∃ joined, Reached options world ⟨triggerAt = some 0⟩
      ⟨(run options world triggerAt limit).state,
        (run options world triggerAt limit).history, joined⟩ :=
  runUpTo_reached limit .refl

end Journal

end AtLeastOnce.Receiver
