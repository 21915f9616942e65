import AtLeastOnce.Proofs.Receiver.Accounting
import AtLeastOnce.Proofs.Receiver.Effort

/-!
# The drain

Once the loop has been left, a deadline is set and the tasks go on.  `Drains` says
what has become of each of them at any later moment: it still runs, has come to its
own end, or was cut off at the deadline.  It holds all along, and every run comes to
the end of its drain.
-/

namespace AtLeastOnce.Receiver

variable {options : ReceiverOptions} {world : World} {shutdown : Shutdown}
  {state next : State} {journal left later final : Journal}

/-! ## Leaving the loop -/

/-- The loop is left for the drain, and tasks that are still running go on. -/
theorem LoopMove.leaving {made : List Event} {deadline : Nat}
    (move : LoopMove options world state (next, made))
    (before : state.phase.isEnding = false) (phase : next.phase = .draining deadline) :
    deadline = state.now + options.gracePeriod.timerMilliseconds ∧
      next.shutdown.triggered = true ∧
      runningTasks next.inFlight = runningTasks state.inFlight := by
  generalize same : (next, made) = result at move
  cases move with
  | leaveHead _ triggered =>
      cases same
      simp only [beginDrain_fst, Phase.draining.injEq] at phase
      refine ⟨phase.symm, ?_, ?_⟩
      · rw [beginDrain_fst]
        exact triggered
      · rw [beginDrain_fst]
        exact runningTasks_runningTasks state.inFlight
  | leave _ triggered =>
      cases same
      simp only [beginDrain_fst, Phase.draining.injEq] at phase
      exact ⟨phase.symm, by rw [beginDrain_fst]; exact triggered, by simp⟩
  | giveUp =>
      cases same
      simp only [beginDrain_fst, Phase.draining.injEq, givingUp] at phase
      exact ⟨phase.symm, by simp [givingUp, Shutdown.trigger], by simp [givingUp]⟩
  | join ending =>
      rw [before] at ending
      cases ending
  | finish =>
      cases same
      simp at phase
  | answer =>
      cases same
      simp only [onDeliveries_fst] at phase
      split at phase <;> cases phase
  | refuse | begin | goOn | ask | call | retry | unsampled | breakOff | resume | abandon =>
      cases same
      cases phase

/-- A step by which a run leaves its loop, with the deadline that it sets. -/
structure Journal.Leaves (options : ReceiverOptions) (world : World)
    (journal left : Journal) (deadline : Nat) : Prop where
  step : ∃ action, Journal.Step options world journal action left
  before : journal.state.phase.isEnding = false
  after : left.state.phase = .draining deadline

namespace Journal.Leaves

variable {deadline : Nat} (leaves : Leaves options world journal left deadline)
include leaves

theorem leads : Leads options world journal left := .single leaves.step

theorem loopMove : ∃ made, LoopMove options world journal.state (left.state, made) := by
  obtain ⟨action, step⟩ := leaves.step
  obtain ⟨_, move, _⟩ := step.move
  refine move.loopMove ?_
  intro same
  have before := leaves.before
  rw [← same, leaves.after] at before
  cases before

theorem now_eq : left.state.now = journal.state.now := by
  obtain ⟨_, move⟩ := leaves.loopMove
  exact move.now_eq

theorem deadline_eq :
    deadline = journal.state.now + options.gracePeriod.timerMilliseconds := by
  obtain ⟨_, move⟩ := leaves.loopMove
  exact (move.leaving leaves.before leaves.after).1

theorem triggered : left.state.shutdown.triggered = true := by
  obtain ⟨_, move⟩ := leaves.loopMove
  exact (move.leaving leaves.before leaves.after).2.1

theorem runningTasks_eq :
    runningTasks left.state.inFlight = runningTasks journal.state.inFlight := by
  obtain ⟨_, move⟩ := leaves.loopMove
  exact (move.leaving leaves.before leaves.after).2.2

theorem now_le : left.state.now ≤ deadline := by
  rw [leaves.deadline_eq, leaves.now_eq]
  exact Nat.le_add_right journal.state.now _

end Journal.Leaves

/-! ## What becomes of a task -/

/-- What has become, by a moment, of a task that was to end at another, if at all. -/
inductive Fate (peers : Peers) (route : Route) (deadline : Nat) (ending? : Option Nat)
    (now : Nat) (task : Task) : Prop where
  | runs (unfinished : task.isFinished = false)
      (ends : task.end? peers route now = ending?)
  | ended {moment : Nat} (finished : task.isFinished = true)
      (uncut : task.stage.isCut = false) (ends : ending? = some moment)
      (passed : moment ≤ now)
  | cut (cut : task.stage = .cut) (elapsed : deadline ≤ now)
      (late : ∀ moment, ending? = some moment → deadline ≤ moment)

namespace Fate

variable {deadline now : Nat} {ending? : Option Nat} {task after : Task}

theorem settled {moment : Nat} {peers : Peers} {route : Route}
    (fate : Fate peers route deadline ending? now task)
    (finished : task.isFinished = true) (passes : now ≤ moment) :
    Fate peers route deadline ending? moment task := by
  cases fate with
  | runs unfinished =>
      rw [finished] at unfinished
      cases unfinished
  | ended _ uncut ends passed =>
      exact .ended finished uncut ends (Nat.le_trans passed passes)
  | cut cut elapsed late => exact .cut cut (Nat.le_trans elapsed passes) late

/-- A step takes a task to its own end or nearer to it; only at the deadline can it be
cut off instead. -/
theorem step
    (fate : Fate world.peers options.route deadline ending? state.now task)
    (move : TaskMove options world state task after)
    (ahead : ∀ moment, task.stage.wakeTime? = some moment → state.now ≤ moment)
    (elapsed : state.phase = .abandoning → deadline ≤ state.now) :
    Fate world.peers options.route deadline ending? state.now after := by
  cases fate with
  | ended finished uncut ends passed =>
      cases move with
      | stays => exact .ended finished uncut ends passed
      | steps stepped =>
          rw [(Task.step?_eq_some stepped).2] at finished
          cases finished
      | cut _ unfinished =>
          rw [finished] at unfinished
          cases unfinished
  | cut cut passed late =>
      have finished : task.isFinished = true := by
        rw [Task.isFinished, cut]
        rfl
      cases move with
      | stays => exact .cut cut passed late
      | steps stepped =>
          rw [(Task.step?_eq_some stepped).2] at finished
          cases finished
      | cut _ unfinished =>
          rw [finished] at unfinished
          cases unfinished
  | runs unfinished ends =>
      cases move with
      | stays => exact .runs unfinished ends
      | steps stepped =>
          have timely := Task.step?_timely stepped ahead
          rw [ends] at timely
          cases finished : after.isFinished with
          | false => exact .runs finished timely.ends
          | true =>
              have now : ending? = some state.now :=
                timely.ends.symm.trans (Task.end?_of_finished finished)
              exact .ended finished (Task.step?_isCut stepped) now (Nat.le_refl _)
      | cut phase =>
          refine .cut rfl (elapsed phase) ?_
          intro moment same
          rw [← ends] at same
          exact Nat.le_trans (elapsed phase) (Task.le_of_end? ahead same)

/-- A task that waits does not notice that time passes. -/
theorem waits {moment : Nat}
    (fate : Fate world.peers options.route deadline ending? state.now task)
    (begun : task.isFinished = false → task.stage ≠ .queued)
    (passes : state.now ≤ moment) :
    Fate world.peers options.route deadline ending? moment task := by
  cases finished : task.isFinished with
  | true => exact fate.settled finished passes
  | false =>
      cases fate with
      | runs _ ends =>
          rw [← Task.end?_of_waits finished (begun finished)] at ends
          exact .runs finished ends
      | ended ended =>
          rw [finished] at ended
          cases ended
      | cut cut =>
          rw [Task.isFinished, cut] at finished
          cases finished

end Fate

/-! ## The drain as a whole -/

/-- Where a run stands that has left its loop, with the deadline that was set. -/
structure Drains (options : ReceiverOptions) (world : World) (left : Journal)
    (deadline : Nat) (later : Journal) : Prop where
  stage :
    later.state.phase = .draining deadline ∧ later.state.now ≤ deadline ∨
      later.state.phase = .abandoning ∧ later.state.now = deadline ∨
      ∃ result, later.state.phase = .stopped result
  /-- No task does anything after the deadline. -/
  quiet : ∀ occurrence ∈ later.history,
    occurrence.task.isSome = true → occurrence.time ≤ deadline
  fates : ∀ task ∈ runningTasks left.state.inFlight,
    ∃ after ∈ later.joined ++ later.state.inFlight,
      after.number = task.number ∧ after.delivery = task.delivery ∧
        Fate world.peers options.route deadline
          (task.end? world.peers options.route left.state.now) later.state.now after
  /-- A task that still runs was running when the loop was left. -/
  origins : ∀ after ∈ later.state.inFlight, after.isFinished = false →
    ∃ task ∈ runningTasks left.state.inFlight,
      task.end? world.peers options.route left.state.now =
        after.end? world.peers options.route later.state.now
  /-- Time passes only for the sake of a task that was to end later. -/
  awaited : later.state.phase.isEnding = true →
    later.state.now = left.state.now ∨
      ∃ task ∈ runningTasks left.state.inFlight, ∀ moment,
        task.end? world.peers options.route left.state.now = some moment →
          later.state.now ≤ moment

namespace Drains

variable {deadline : Nat}

theorem start (reached : Journal.Reached options world shutdown journal)
    (leaves : Journal.Leaves options world journal left deadline) :
    Drains options world left deadline left where
  stage := .inl ⟨leaves.after, leaves.now_le⟩
  quiet := by
    intro occurrence member _
    have run := (leaves.leads.joins reached.joins).reaches
    exact Nat.le_trans (run.time_le member) leaves.now_le
  fates := by
    intro task member
    obtain ⟨found, unfinished⟩ := mem_runningTasks.mp member
    exact ⟨task, List.mem_append_right _ found, rfl, rfl, .runs unfinished rfl⟩
  origins := by
    intro task member unfinished
    exact ⟨task, mem_runningTasks.mpr ⟨member, unfinished⟩, rfl⟩
  awaited := fun _ => .inl rfl

variable (drains : Drains options world left deadline later)
include drains

theorem ending_or_stopped :
    later.state.phase.isEnding = true ∨ ∃ result, later.state.phase = .stopped result := by
  rcases drains.stage with ⟨phase, _⟩ | ⟨phase, _⟩ | stopped
  · rw [phase]
    exact .inl rfl
  · rw [phase]
    exact .inl rfl
  · exact .inr stopped

theorem elapsed (phase : later.state.phase = .abandoning) : deadline ≤ later.state.now := by
  rcases drains.stage with ⟨other, _⟩ | ⟨_, moment⟩ | ⟨result, other⟩
  · rw [phase] at other
    cases other
  · exact Nat.le_of_eq moment.symm
  · rw [phase] at other
    cases other

theorem now_le (ending : later.state.phase.isEnding = true) :
    later.state.now ≤ deadline := by
  rcases drains.stage with ⟨_, early⟩ | ⟨_, moment⟩ | ⟨result, stopped⟩
  · exact early
  · exact Nat.le_of_eq moment
  · rw [stopped] at ending
    cases ending

/-- While the loop waits for tasks in its drain, there is one, and the deadline has not
come. -/
theorem of_idle (ending : later.state.phase.isEnding = true)
    (distinct : (later.state.inFlight.map Task.number).Nodup)
    (idle : Idle options world later.state) :
    later.state.phase = .draining deadline ∧ later.state.now < deadline ∧
      runningTasks later.state.inFlight ≠ [] := by
  have notAbandoning := idle.not_abandoning distinct
  rcases drains.stage with ⟨phase, _⟩ | ⟨abandoning, _⟩ | ⟨result, stopped⟩
  · cases idle.loopWaits with
    | draining other remaining early =>
        rw [phase] at other
        cases other
        exact ⟨phase, early, remaining⟩
    | acquiring other | receiving other | abandoning other =>
        rw [phase] at other
        cases other
    | pausing other =>
        rcases other with other | other <;> rw [phase] at other <;> cases other
    | gone gone =>
        rw [phase] at gone
        cases gone
  · exact (notAbandoning abandoning).elim
  · rw [stopped] at ending
    cases ending

/-- The loop goes on with the drain, gives it up at the deadline, or comes to its end. -/
theorem stage_of_loopMove {made : List Event}
    (move : LoopMove options world later.state (next, made))
    (ending : later.state.phase.isEnding = true) :
    next.phase = .draining deadline ∧ next.now ≤ deadline ∨
      next.phase = .abandoning ∧ next.now = deadline ∨
      ∃ result, next.phase = .stopped result := by
  rw [move.now_eq]
  obtain ⟨_, ⟨phase, _⟩ | ⟨⟨other, phase, passed⟩, abandons⟩ | ⟨stopped, _⟩⟩ :=
    move.ending_cases ending
  · rw [phase]
    exact drains.stage
  · have early := drains.now_le ending
    rcases drains.stage with ⟨draining, _⟩ | ⟨abandoning, _⟩ | ⟨result, stopped⟩
    · rw [phase] at draining
      cases draining
      exact .inr (.inl ⟨abandons, Nat.le_antisymm early passed⟩)
    · rw [phase] at abandoning
      cases abandoning
    · rw [phase] at stopped
      cases stopped
  · exact .inr (.inr stopped)

/-- A step that takes no time takes every task on. -/
theorem fate_of_move {events : List Occurrence} {task : Task}
    (reached : Journal.Reached options world shutdown later)
    (move : Move options world later.state next events)
    (member : task ∈ runningTasks left.state.inFlight) :
    ∃ after ∈ later.joined ++ joinedTasks later.state next ++ next.inFlight,
      after.number = task.number ∧ after.delivery = task.delivery ∧
        Fate world.peers options.route deadline
          (task.end? world.peers options.route left.state.now) later.state.now after := by
  have distinct := reached.joins.ledger.distinctInFlight
  obtain ⟨before, place, number, delivery, fate⟩ := drains.fates task member
  rw [List.append_assoc]
  rcases List.mem_append.mp place with earlier | inside
  · exact ⟨before, List.mem_append_left _ earlier, number, delivery, fate⟩
  · obtain ⟨after, placed, moved⟩ := move.taskChange.exists_after distinct inside
    obtain ⟨sameNumber, sameDelivery⟩ := moved.number_eq
    exact ⟨after, List.mem_append_right _ placed, sameNumber.trans number,
      sameDelivery.trans delivery,
      fate.step moved (reached.punctual.task inside) drains.elapsed⟩

/-- A step brings no new task into the drain. -/
theorem origin_of_move {events : List Occurrence} {after : Task}
    (reached : Journal.Reached options world shutdown later)
    (ending : later.state.phase.isEnding = true)
    (move : Move options world later.state next events)
    (member : after ∈ next.inFlight) (unfinished : after.isFinished = false) :
    ∃ task ∈ runningTasks left.state.inFlight,
      task.end? world.peers options.route left.state.now =
        after.end? world.peers options.route later.state.now := by
  rcases move.taskChange.exists_before member with
    ⟨before, inside, moved⟩ | ⟨_, request, until?, phase⟩
  · cases moved with
    | stays => exact drains.origins after inside unfinished
    | steps stepped =>
        have running := (Task.step?_eq_some stepped).2
        have timely := Task.step?_timely stepped (reached.punctual.task inside)
        obtain ⟨task, found, ends⟩ := drains.origins before inside running
        exact ⟨task, found, ends.trans timely.ends.symm⟩
    | cut => cases unfinished
  · rw [phase] at ending
    cases ending

theorem moves {events : List Occurrence}
    (reached : Journal.Reached options world shutdown later)
    (ending : later.state.phase.isEnding = true)
    (own : OwnMove options world later.state next events)
    (same : next.now = later.state.now) :
    Drains options world left deadline
      ⟨next, later.history ++ events, later.joined ++ joinedTasks later.state next⟩ := by
  constructor
  · cases own with
    | loop move => exact drains.stage_of_loopMove move ending
    | task | cut => exact drains.stage
    | advance later => exact (Nat.ne_of_gt later same).elim
  · intro occurrence member tasked
    rcases List.mem_append.mp member with earlier | now
    · exact drains.quiet occurrence earlier tasked
    · rw [own.move.time_eq now]
      exact drains.now_le ending
  · intro task member
    rw [same]
    exact drains.fate_of_move reached own.move member
  · intro after member unfinished
    rw [same]
    exact drains.origin_of_move reached ending own.move member unfinished
  · intro _
    rw [same]
    exact drains.awaited ending

/-- The passing of time, up to the next moment that somebody waits for. -/
theorem passes {time : Nat} (reached : Journal.Reached options world shutdown later)
    (ending : later.state.phase.isEnding = true) (passed : later.state.now < time)
    (idle : Idle options world later.state)
    (awaited : ∀ moment, Awaits later.state moment → time ≤ moment) :
    Drains options world left deadline
      ⟨{ later.state with now := time }, later.history, later.joined⟩ := by
  have ledger := reached.joins.ledger
  have distinct := ledger.distinctInFlight
  obtain ⟨phase, _, remaining⟩ := drains.of_idle ending distinct idle
  have running : later.state.phase.isOver = false := by
    rw [phase]
    rfl
  have begun : ∀ task ∈ later.state.inFlight, task.isFinished = false →
      task.stage ≠ .queued := by
    intro task member unfinished
    exact (idle.waits distinct running member unfinished).1
  have within : time ≤ deadline := by
    refine awaited deadline (.inl ?_)
    rw [phase]
    rfl
  refine ⟨.inl ⟨phase, within⟩, drains.quiet, ?_, ?_, ?_⟩
  · intro task member
    obtain ⟨after, place, number, delivery, fate⟩ := drains.fates task member
    refine ⟨after, place, number, delivery, ?_⟩
    rcases List.mem_append.mp place with earlier | inside
    · exact fate.settled (ledger.finished after earlier) (Nat.le_of_lt passed)
    · exact fate.waits (begun after inside) (Nat.le_of_lt passed)
  · intro after member unfinished
    obtain ⟨task, found, ends⟩ := drains.origins after member unfinished
    refine ⟨task, found, ends.trans ?_⟩
    exact Task.end?_of_waits unfinished (begun after member unfinished)
  · intro _
    right
    -- Time passes for the sake of the tasks that still run: any of them ends later.
    obtain ⟨after, member⟩ := List.exists_mem_of_ne_nil _ remaining
    obtain ⟨inside, unfinished⟩ := mem_runningTasks.mp member
    obtain ⟨task, found, ends⟩ := drains.origins after inside unfinished
    refine ⟨task, found, ?_⟩
    intro moment atMoment
    obtain ⟨wakes, waits, before⟩ := Task.wakeTime?_of_end? unfinished
      (begun after inside unfinished) (ends.symm.trans atMoment)
    exact Nat.le_trans (awaited wakes (.inr ⟨after, inside, waits⟩)) before

theorem rests {time : Nat} {result : Except Failure Totals}
    (reached : Journal.Reached options world shutdown later)
    (stopped : later.state.phase = .stopped result) (passed : later.state.now < time) :
    Drains options world left deadline
      ⟨{ later.state with now := time }, later.history, later.joined⟩ := by
  have run := reached.joins
  have nothingLeft := (run.reaches.closing.result result stopped).2
  refine ⟨.inr (.inr ⟨result, stopped⟩), drains.quiet, ?_, ?_, ?_⟩
  · intro task member
    obtain ⟨after, place, number, delivery, fate⟩ := drains.fates task member
    rw [nothingLeft, List.append_nil] at place
    exact ⟨after, List.mem_append_left _ place, number, delivery,
      fate.settled (run.ledger.finished after place) (Nat.le_of_lt passed)⟩
  · intro after member
    have inside : after ∈ later.state.inFlight := member
    rw [nothingLeft] at inside
    cases inside
  · intro ending
    have before : later.state.phase.isEnding = true := ending
    rw [stopped] at before
    cases before

theorem own (reached : Journal.Reached options world shutdown later)
    (own : Journal.Own options world later final) :
    Drains options world left deadline final := by
  obtain ⟨events, move, history, joined⟩ := own.cases
  obtain ⟨next, after, joinedAfter⟩ := final
  obtain rfl : after = later.history ++ events := history
  obtain rfl : joinedAfter = later.joined ++ joinedTasks later.state next := joined
  have advanced : ∀ time, joinedTasks later.state { later.state with now := time } = [] :=
    fun _ => joinedTasks_of_appended (List.append_nil later.state.inFlight).symm
  rcases drains.ending_or_stopped with ending | ⟨result, stopped⟩
  · have move' := move
    cases move with
    | loop made => exact drains.moves reached ending move' made.now_eq
    | task | cut => exact drains.moves reached ending move' rfl
    | advance passed idle awaited =>
        rw [List.append_nil, advanced, List.append_nil]
        exact drains.passes reached ending passed idle awaited
  · cases move with
    | loop made => exact (made.not_stopped result stopped).elim
    | task running =>
        rw [stopped] at running
        cases running
    | cut phase =>
        rw [stopped] at phase
        cases phase
    | advance passed =>
        rw [List.append_nil, advanced, List.append_nil]
        exact drains.rests reached stopped passed

theorem triggered : Drains options world left deadline later.triggered where
  stage := drains.stage
  quiet := by
    intro occurrence member tasked
    rcases List.mem_append.mp member with earlier | now
    · exact drains.quiet occurrence earlier tasked
    · rw [(mem_occurrences.mp now).2.1] at tasked
      cases tasked
  fates := drains.fates
  origins := drains.origins
  awaited := drains.awaited

end Drains

/-- Whatever happens after the loop has been left, inside and outside of the run, its
drain goes this way. -/
theorem Journal.Leaves.drains {deadline : Nat}
    (leaves : Journal.Leaves options world journal left deadline)
    (reached : Journal.Reached options world shutdown journal)
    (leads : Journal.Leads options world left later) :
    Drains options world left deadline later := by
  have reachedLeft := Relation.ReflTransGen.trans reached leaves.leads
  induction leads with
  | refl => exact .start reached leaves
  | tail leads step induction =>
      obtain ⟨action, step⟩ := step
      rcases step.cases with rfl | own
      · exact induction.triggered
      · exact induction.own (Relation.ReflTransGen.trans reachedLeft leads) own

/-! ## The end of the drain -/

theorem Journal.Leaves.reached {deadline : Nat}
    (leaves : Journal.Leaves options world journal left deadline)
    (reached : Journal.Reached options world shutdown journal)
    (leads : Journal.Leads options world left later) :
    Journal.Reached options world shutdown later :=
  Relation.ReflTransGen.trans (Relation.ReflTransGen.trans reached leaves.leads) leads

/-- A drain cannot go on for ever: time does not pass its deadline, and until then
there is less and less to do. -/
theorem Journal.Leaves.stops {deadline : Nat}
    (leaves : Journal.Leaves options world journal left deadline)
    (reached : Journal.Reached options world shutdown journal)
    (leads : Journal.Leads options world left later) :
    Inevitably (Journal.Own options world)
      (fun final => ∃ result, final.state.phase = .stopped result) later := by
  -- The deadline is the horizon: the clock stands still once it has come.
  refine Inevitably.of_measure (Journal.Leads options world left)
    (fun journal => effort deadline journal.state) ?_ ?_ leads
  · intro here leads unstopped
    have reachedHere := leaves.reached reached leads
    refine reachedHere.exists_own ?_
    rcases (leaves.drains reached leads).ending_or_stopped with ending | stopped
    · exact Phase.isOver_of_isEnding ending
    · exact (unstopped stopped).elim
  · intro here next leads unstopped own
    have drains := leaves.drains reached leads
    have reachedHere := leaves.reached reached leads
    have distinct := reachedHere.joins.ledger.distinctInFlight
    have ending := drains.ending_or_stopped.resolve_right unstopped
    obtain ⟨action, notTrigger, step⟩ := own
    obtain ⟨events, move, _⟩ := Journal.Own.cases ⟨action, notTrigger, step⟩
    right
    refine ⟨leads.tail ⟨action, step⟩, move.effort_lt distinct ?_ ?_⟩
    · intro idle
      exact (drains.of_idle ending distinct idle).2.1
    · intro made loopMove
      exact loopMove.effort_lt_of_ending deadline ending

end AtLeastOnce.Receiver
