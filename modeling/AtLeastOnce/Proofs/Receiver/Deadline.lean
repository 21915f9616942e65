import AtLeastOnce.Proofs.Receiver.Draining
import AtLeastOnce.Proofs.Receiver.Permits

/-!
# The deadline of the drain

A task that would end before the deadline comes to its own end, one that would end
after it is cut off there, and the run returns with the last of those that end, or at
the deadline.
-/

namespace AtLeastOnce.Receiver

/-- When a task comes to its own end that is running as the loop is left. -/
def Journal.endOf? (options : ReceiverOptions) (world : World) (left : Journal)
    (task : Task) : Option Nat :=
  task.end? world.peers options.route left.state.now

/-- What the run that has left its loop has come to when it stops. -/
structure Drained (options : ReceiverOptions) (world : World) (left : Journal)
    (deadline : Nat) (final : Journal) : Prop where
  nothingLeft : final.state.inFlight = []
  /-- Before the deadline, a task ends with its own report, or breaks. -/
  own : ∀ task ∈ runningTasks left.state.inFlight, ∀ moment,
    left.endOf? options world task = some moment → moment < deadline →
      ∃ done ∈ final.joined,
        done.number = task.number ∧ done.delivery = task.delivery ∧
          done.stage =
            Task.lastStage world.peers options.route task.number task.delivery ∧
          wasCut final.joined task.number = false
  /-- A task that would end later, or never, is cut off. -/
  cut : ∀ task ∈ runningTasks left.state.inFlight,
    (∀ moment, left.endOf? options world task = some moment → deadline < moment) →
      ∃ done ∈ final.joined,
        done.number = task.number ∧ done.delivery = task.delivery ∧ done.stage = .cut ∧
          wasCut final.joined task.number = true
  /-- The reports are counted, and so is what was cut off; what broke is logged. -/
  totals : final.state.totals =
    tally options world (handedOut final.history) (wasCut final.joined)
  abandoned : final.state.totals.abandoned =
    final.joined.countP fun task => task.stage.isCut
  failed : (loopEvents final.history).countP isTaskFailed =
    final.joined.countP fun task => task.stage.isBroken
  /-- If all end before the deadline, the run returns with the last of them. -/
  early : (∀ task ∈ runningTasks left.state.inFlight,
      ∃ moment, left.endOf? options world task = some moment ∧ moment < deadline) →
    (∀ task ∈ runningTasks left.state.inFlight, ∀ moment,
      left.endOf? options world task = some moment → moment ≤ final.state.now) ∧
      (runningTasks left.state.inFlight = [] ∧ final.state.now = left.state.now ∨
        ∃ task ∈ runningTasks left.state.inFlight,
          left.endOf? options world task = some final.state.now)
  /-- Otherwise it returns at the deadline. -/
  late : (∃ task ∈ runningTasks left.state.inFlight, ∀ moment,
      left.endOf? options world task = some moment → deadline ≤ moment) →
    final.state.now = deadline

variable {options : ReceiverOptions} {world : World} {shutdown : Shutdown}
  {journal left later final : Journal} {deadline : Nat}

theorem Journal.Step.now_of_stopped {action : Action} {result : Except Failure Totals}
    (step : Step options world later action final)
    (ending : later.state.phase.isEnding = true)
    (stopped : final.state.phase = .stopped result) :
    final.state.now = later.state.now := by
  obtain ⟨_, move, _⟩ := step.move
  obtain ⟨_, loopMove⟩ := move.loopMove <| by
    intro same
    rw [← same, stopped] at ending
    cases ending
  exact loopMove.now_eq

theorem Journal.Reached.le_of_endOf? {task : Task} {moment : Nat}
    (reached : Reached options world shutdown left)
    (member : task ∈ runningTasks left.state.inFlight)
    (ends : left.endOf? options world task = some moment) : left.state.now ≤ moment :=
  Task.le_of_end? (reached.punctual.task (mem_runningTasks.mp member).1) ends

namespace Drains

variable (drains : Drains options world left deadline final)
  (nothingLeft : final.state.inFlight = [])
  (finished : ∀ task ∈ final.joined, task.isFinished = true)
include drains nothingLeft finished

/-- When nothing is left, every task that was running has been joined, after its own
end or after it was cut off. -/
theorem joined :
    ∀ task ∈ runningTasks left.state.inFlight, ∃ done ∈ final.joined,
      done.number = task.number ∧ done.delivery = task.delivery ∧
        (done.stage.isCut = false ∧
            (∃ moment, left.endOf? options world task = some moment ∧
              moment ≤ final.state.now) ∨
          done.stage = .cut ∧ deadline ≤ final.state.now ∧
            ∀ moment, left.endOf? options world task = some moment →
              deadline ≤ moment) := by
  intro task member
  obtain ⟨done, place, number, delivery, fate⟩ := drains.fates task member
  rw [nothingLeft, List.append_nil] at place
  refine ⟨done, place, number, delivery, ?_⟩
  cases fate with
  | runs unfinished =>
      rw [finished done place] at unfinished
      cases unfinished
  | ended _ uncut ends passed => exact .inl ⟨uncut, _, ends, passed⟩
  | cut cut elapsed late => exact .inr ⟨cut, elapsed, late⟩

variable {task : Task} (member : task ∈ runningTasks left.state.inFlight)
include member

theorem ended_of_early {moment : Nat}
    (ends : left.endOf? options world task = some moment) (early : moment < deadline) :
    moment ≤ final.state.now ∧
      ∃ done ∈ final.joined, done.number = task.number ∧ done.delivery = task.delivery ∧
        done.stage.isCut = false := by
  obtain ⟨done, place, number, delivery, ⟨uncut, other, same, passed⟩ | ⟨_, _, late⟩⟩ :=
    drains.joined nothingLeft finished task member
  · rw [ends] at same
    rw [Option.some.inj same]
    exact ⟨passed, done, place, number, delivery, uncut⟩
  · exact (Nat.not_lt.mpr (late moment ends) early).elim

theorem cut_of_late (within : final.state.now ≤ deadline)
    (late : ∀ moment, left.endOf? options world task = some moment → deadline < moment) :
    ∃ done ∈ final.joined, done.number = task.number ∧ done.delivery = task.delivery ∧
      done.stage = .cut := by
  obtain ⟨done, place, number, delivery, ⟨_, moment, ends, passed⟩ | ⟨cut, _⟩⟩ :=
    drains.joined nothingLeft finished task member
  · have beyond := late moment ends
    omega
  · exact ⟨done, place, number, delivery, cut⟩

theorem deadline_le_of_late
    (late : ∀ moment, left.endOf? options world task = some moment → deadline ≤ moment) :
    deadline ≤ final.state.now := by
  obtain ⟨_, _, _, _, ⟨_, moment, ends, passed⟩ | ⟨_, elapsed, _⟩⟩ :=
    drains.joined nothingLeft finished task member
  · exact Nat.le_trans (late moment ends) passed
  · exact elapsed

omit member in
/-- If all the tasks end before the deadline, the run ends with the last of them: time
has passed for the sake of one of them, or not at all. -/
theorem ends_with_last (reached : Journal.Reached options world shutdown left)
    (awaited : final.state.now = left.state.now ∨
      ∃ task ∈ runningTasks left.state.inFlight, ∀ moment,
        left.endOf? options world task = some moment → final.state.now ≤ moment)
    (early : ∀ task ∈ runningTasks left.state.inFlight,
      ∃ moment, left.endOf? options world task = some moment ∧ moment < deadline) :
    (∀ task ∈ runningTasks left.state.inFlight, ∀ moment,
      left.endOf? options world task = some moment → moment ≤ final.state.now) ∧
      (runningTasks left.state.inFlight = [] ∧ final.state.now = left.state.now ∨
        ∃ task ∈ runningTasks left.state.inFlight,
          left.endOf? options world task = some final.state.now) := by
  have passed : ∀ task ∈ runningTasks left.state.inFlight, ∀ moment,
      left.endOf? options world task = some moment → moment ≤ final.state.now := by
    intro task member moment ends
    obtain ⟨other, same, before⟩ := early task member
    rw [ends] at same
    rw [← Option.some.inj same] at before
    exact (drains.ended_of_early nothingLeft finished member ends before).1
  have last : ∀ task ∈ runningTasks left.state.inFlight,
      (∀ moment, left.endOf? options world task = some moment →
        final.state.now ≤ moment) →
      left.endOf? options world task = some final.state.now := by
    intro task member least
    obtain ⟨moment, ends, _⟩ := early task member
    rw [ends, Nat.le_antisymm (passed task member moment ends) (least moment ends)]
  refine ⟨passed, ?_⟩
  rcases awaited with unmoved | ⟨task, member, least⟩
  · by_cases none : runningTasks left.state.inFlight = []
    · exact .inl ⟨none, unmoved⟩
    · obtain ⟨task, member⟩ := List.exists_mem_of_ne_nil _ none
      refine .inr ⟨task, member, last task member ?_⟩
      intro moment ends
      rw [unmoved]
      exact reached.le_of_endOf? member ends
  · exact .inr ⟨task, member, last task member least⟩

end Drains

theorem Journal.Leaves.drained {action : Action} {result : Except Failure Totals}
    (leaves : Leaves options world journal left deadline)
    (reached : Reached options world shutdown journal)
    (leads : Leads options world left later)
    (ending : later.state.phase.isEnding = true)
    (step : Step options world later action final)
    (stopped : final.state.phase = .stopped result) :
    Drained options world left deadline final := by
  have before := leaves.drains reached leads
  have after := leaves.drains reached (leads.tail ⟨action, step⟩)
  have run := (leaves.reached reached (leads.tail ⟨action, step⟩)).joins
  have ledger := run.ledger
  have nothingLeft := (run.reaches.closing.result result stopped).2
  have finished := ledger.finished
  have sameTime := step.now_of_stopped ending stopped
  have within : final.state.now ≤ deadline := by
    rw [sameTime]
    exact before.now_le ending
  exact
    { nothingLeft
      own := by
        intro task member moment ends early
        obtain ⟨_, done, place, number, delivery, uncut⟩ :=
          after.ended_of_early nothingLeft finished member ends early
        have course := (ledger.onCourse done (List.mem_append_left _ place)).course
        refine ⟨done, place, number, delivery, ?_⟩
        rw [← number, ← delivery, ledger.wasCut_eq place]
        exact ⟨course.stage_eq (finished done place) uncut, uncut⟩
      cut := by
        intro task member late
        obtain ⟨done, place, number, delivery, cut⟩ :=
          after.cut_of_late nothingLeft finished member within late
        refine ⟨done, place, number, delivery, cut, ?_⟩
        rw [← number, ledger.wasCut_eq place, cut]
        rfl
      totals := ledger.totals_eq_tally nothingLeft
      abandoned := ledger.abandoned
      failed := run.countP_isTaskFailed
      early := by
        refine after.ends_with_last nothingLeft finished (leaves.reached reached .refl) ?_
        rw [sameTime]
        exact before.awaited ending
      late := by
        rintro ⟨task, member, late⟩
        exact Nat.le_antisymm within
          (after.deadline_le_of_late nothingLeft finished member late) }

/-- What is true of a run from the moment on at which it leaves its loop. -/
structure CutsAtDeadline (options : ReceiverOptions) (world : World) (left : Journal)
    (deadline : Nat) : Prop where
  /-- It comes to an end. -/
  returns : ∀ {later}, Journal.Leads options world left later →
    Inevitably (Journal.Own options world)
      (fun final => ∃ result, final.state.phase = .stopped result) later
  /-- The step in which it ends brings it to this. -/
  drained : ∀ {later action final result}, Journal.Leads options world left later →
    later.state.phase.isEnding = true →
      Journal.Step options world later action final →
        final.state.phase = .stopped result →
          Drained options world left deadline final
  /-- No task is cut off before the deadline, nor after it, -/
  cuts : ∀ {later number next}, Journal.Leads options world left later →
    Journal.Step options world later (.cut number) next → later.state.now = deadline
  /-- and no task does anything after the deadline. -/
  quiet : ∀ {later}, Journal.Leads options world left later →
    ∀ occurrence ∈ later.history,
      occurrence.task.isSome = true → occurrence.time ≤ deadline

/-- A run that leaves its loop, with whatever tasks and wherever each of them stands,
cuts them off at the deadline and not before. -/
theorem Journal.Reached.cutsAtDeadline
    (reached : Reached options world shutdown journal)
    (leaves : Leaves options world journal left deadline) :
    left.state.now = journal.state.now ∧
      runningTasks left.state.inFlight = runningTasks journal.state.inFlight ∧
      deadline = journal.state.now + options.gracePeriod.timerMilliseconds ∧
      CutsAtDeadline options world left deadline := by
  refine ⟨leaves.now_eq, leaves.runningTasks_eq, leaves.deadline_eq, ?_⟩
  exact
    { returns := leaves.stops reached
      drained := leaves.drained reached
      cuts := by
        intro later number next leads step
        obtain ⟨_, stepped⟩ := step
        obtain ⟨⟨after, made⟩, moved, _⟩ := Option.map_eq_some_iff.mp stepped
        have phase := (cutStep?_cases moved).1
        have drains := leaves.drains reached leads
        have early := drains.now_le (by rw [phase]; rfl)
        exact Nat.le_antisymm early (drains.elapsed phase)
      quiet := fun leads => (leaves.drains reached leads).quiet }

def shortGrace : ReceiverOptions :=
  letterOptions.withGracePeriod (.ofMilliseconds 30)

/-- The first of the two letters takes five milliseconds, the second never ends. -/
def oneStuck : World :=
  { twoLetters with
    peers :=
      { twoLetters.peers with
        process := fun number _ =>
          ⟨if number = 0 then some 5 else none, ⟨[], .returns .success⟩⟩ } }

/-- The loop is left after two milliseconds, with both letters in flight. -/
theorem cutsAtDeadline_oneStuck :
    ∃ journal left,
      Journal.Reached shortGrace oneStuck .idle journal ∧
        Journal.Leaves shortGrace oneStuck journal left 32 ∧
        journal.state.now = 2 ∧ unfinished left.state = 2 ∧
        CutsAtDeadline shortGrace oneStuck left 32 := by
  obtain ⟨joined, reached⟩ := Journal.run_reached shortGrace oneStuck (some 2) 12
  have moves : (step? shortGrace oneStuck (run shortGrace oneStuck (some 2) 12).state
      (.loop false)).isSome = true := rfl
  have step : Journal.Step shortGrace oneStuck
      ⟨(run shortGrace oneStuck (some 2) 12).state,
        (run shortGrace oneStuck (some 2) 12).history, joined⟩ (.loop false) _ :=
    .intro trivial (Option.some_get moves).symm
  have leaves : Journal.Leaves shortGrace oneStuck _ _ 32 := ⟨⟨_, step⟩, rfl, rfl⟩
  obtain ⟨_, _, _, cuts⟩ := reached.cutsAtDeadline leaves
  exact ⟨_, _, reached, leaves, rfl, rfl, cuts⟩

end AtLeastOnce.Receiver
