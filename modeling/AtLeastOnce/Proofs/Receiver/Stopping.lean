import AtLeastOnce.Proofs.Receiver.Effort
import AtLeastOnce.Proofs.Receiver.Intake
import AtLeastOnce.Proofs.Receiver.Reception

/-!
# A receiver under a raised flag

From wherever it stands when the flag goes up, a receiver leaves its loop within a
step or two, drains for at most the grace period, and returns what it has counted.
`toStop` is what lies ahead of it until then; every move takes something off it,
whether on time or not.
-/

namespace AtLeastOnce

theorem Shutdown.trigger_eq_self {shutdown : Shutdown}
    (triggered : shutdown.triggered = true) : shutdown.trigger.1 = shutdown := by
  obtain ⟨raised⟩ := shutdown
  exact congrArg Shutdown.mk triggered.symm

namespace Receiver

variable {options : ReceiverOptions} {world : World} {shutdown : Shutdown}
  {state next : State} {history events : List Occurrence} {made : List Event}

/-! ## Giving up and the flag -/

/-- A step in which the loop raises the flag for the others. -/
structure Escalates (options : ReceiverOptions) (state next : State) (made : List Event) :
    Prop where
  untriggered : state.shutdown.triggered = false
  triggered : next.shutdown = state.shutdown.trigger.1
  givenUp : ∃ attempts error,
    next.givenUp = some (.pollRetriesExhausted options.queueUrl attempts error)
  said : made.any isGivingUp = true

/-- A receiver that has given up has done so for the error of its last receive, and has
raised the flag. -/
structure FlagFollows (options : ReceiverOptions) (state : State) : Prop where
  triggered : state.givenUp.isSome = true → state.shutdown.triggered = true
  exhausted : ∀ failure, state.givenUp = some failure →
    ∃ attempts error, failure = .pollRetriesExhausted options.queueUrl attempts error

theorem FlagFollows.givenUp_eq_none (follows : FlagFollows options state)
    (untriggered : state.shutdown.triggered = false) : state.givenUp = none := by
  refine Option.not_isSome_iff_eq_none.mp ?_
  intro given
  rw [follows.triggered given] at untriggered
  cases untriggered

theorem LoopMove.escalates (follows : FlagFollows options state)
    (move : LoopMove options world state (next, made)) :
    KeepsUp state next ∧ made.any isGivingUp = false ∨
      Escalates options state next made := by
  -- To say so a second time the flag would have to be down, but the first time raised it.
  have quiet : KeepsUp state next → made.any isGivingUp = false := by
    intro keeps
    refine List.any_eq_false.mpr ?_
    intro event member said
    cases move.ofLoop member with
    | receivingGivenUp _ _ untriggered givenUp =>
        rw [keeps.givenUp, follows.givenUp_eq_none untriggered] at givenUp
        cases givenUp
    | receiveCalled | receiveEnded | receiverStopped | receiverStarted | stateChanged
    | noMessages | receiveRecovered | surplusReceived | receiveFailed | draining
    | graceElapsed | taskFailed => cases said
  cases move.reception with
  | none keeps | calls keeps | answers keeps | fails keeps | breaks keeps =>
      exact .inl ⟨keeps, quiet keeps⟩
  | givesUp untriggered _ _ _ _ triggered givenUp =>
      right
      refine ⟨untriggered, ?_, ⟨_, _, givenUp⟩, ?_⟩
      · exact (Shutdown.trigger_eq_self triggered).symm
      · have before := follows.givenUp_eq_none untriggered
        have said := move.givenUp_eq
        rwa [before, givenUp, Option.isSome_none, Bool.false_or, Option.isSome_some] at said

theorem Reaches.flagFollows (reached : Reaches options world shutdown state history) :
    FlagFollows options state := by
  induction reached with
  | start => exact ⟨nofun, nofun⟩
  | step _ stepped induction =>
      cases step?_cases stepped with
      | trigger => exact ⟨fun _ => rfl, induction.exhausted⟩
      | task | cut | advance => exact ⟨induction.triggered, induction.exhausted⟩
      | loop move =>
          rcases move.escalates induction with ⟨keeps, _⟩ | escalates
          · constructor
            · rw [keeps.givenUp, keeps.shutdown]
              exact induction.triggered
            · rw [keeps.givenUp]
              exact induction.exhausted
          · obtain ⟨attempts, error, givenUp⟩ := escalates.givenUp
            constructor
            · intro _
              rw [escalates.triggered]
              rfl
            · intro failure given
              rw [givenUp] at given
              exact ⟨attempts, error, (Option.some.inj given).symm⟩

/-- A move takes no time, and leaves the flag alone unless receiving is given up in it. -/
theorem Reaches.shares {action : Action}
    (reached : Reaches options world shutdown state history)
    (isMove : action.isMove = true)
    (stepped : step? options world state action = some (next, events)) :
    next.now = state.now ∧
      (next.shutdown = state.shutdown ∧ (loopEvents events).any isGivingUp = false ∨
        state.shutdown.triggered = false ∧
          next.shutdown = state.shutdown.trigger.1 ∧
          (loopEvents events).any isGivingUp = true) := by
  cases action with
  | trigger | advance => cases isMove
  | task number =>
      obtain ⟨⟨after, made⟩, moved, equality⟩ := Option.map_eq_some_iff.mp stepped
      cases equality
      obtain ⟨_, _, _, _, _, _, rfl⟩ := taskStep?_cases moved
      exact ⟨rfl, .inl ⟨rfl, by simp⟩⟩
  | cut number =>
      obtain ⟨⟨after, made⟩, moved, equality⟩ := Option.map_eq_some_iff.mp stepped
      cases equality
      obtain ⟨_, _, _, _, rfl⟩ := cutStep?_cases moved
      exact ⟨rfl, .inl ⟨rfl, rfl⟩⟩
  | loop timerFirst =>
      obtain ⟨⟨after, made⟩, moved, equality⟩ := Option.map_eq_some_iff.mp stepped
      cases equality
      have move := loopStep?_cases moved
      refine ⟨move.now_eq, ?_⟩
      rw [loopEvents_occurrences_none]
      rcases move.escalates reached.flagFollows with ⟨keeps, unsaid⟩ | escalates
      · exact .inl ⟨keeps.shutdown, unsaid⟩
      · exact .inr ⟨escalates.untriggered, escalates.triggered, escalates.said⟩

/-! ## How it returns -/

/-- How a receiver returns that has been told to stop: with what it has counted, or with
the number of tasks that it had to cut off.  It returns the error of its receives only
if it had given up before. -/
inductive Returned (options : ReceiverOptions) (history : List Occurrence) :
    Except Failure Totals → Prop where
  | ok (totals : Totals) : Returned options history (.ok totals)
  | graceExceeded (remaining : Nat) :
      Returned options history
        (.error (.shutdown (.graceExceeded options.gracePeriod remaining)))
  | exhausted (attempts : Nat) (error : CallError)
      (before : (loopEvents history).any isGivingUp = true) :
      Returned options history
        (.error (.pollRetriesExhausted options.queueUrl attempts error))

theorem Reaches.returned {result : Except Failure Totals}
    (reached : Reaches options world shutdown state history)
    (triggered : state.shutdown.triggered = true)
    (steps : Steps options world state events next)
    (stopped : next.phase = .stopped result) : Returned options history result := by
  have kept := (steps.noIntake reached triggered).givenUp
  rw [((reached.append steps).closing.result result stopped).1]
  unfold finalResult
  rw [kept]
  cases givenUp : state.givenUp with
  | none =>
      dsimp only
      split
      · exact .graceExceeded _
      · exact .ok _
  | some failure =>
      obtain ⟨attempts, error, rfl⟩ := reached.flagFollows.exhausted failure givenUp
      refine .exhausted attempts error ?_
      rw [reached.closing.givenUp, givenUp]
      rfl

/-! ## The loop is left -/

/-- The steps of the loop until it has stopped, when the flag is up. -/
def Phase.stepsToStop : Phase → Nat
  | .starting => 4
  | .pausing _ => 4
  | .backingOff _ => 4
  | .reaping => 3
  | .acquiring => 3
  | .requesting _ => 3
  | .receiving _ _ => 3
  | .draining _ => 2
  | .abandoning => 1
  | .stopped _ => 0
  | .crashed => 0

/-- Where a step takes the loop that has not been left when the flag is up. -/
inductive Leaving (options : ReceiverOptions) (state next : State) : Prop where
  | refuses (beyond : permitLimit < options.capacity)
      (before : state.phase.stepsToStop = 4) (after : next.phase = .crashed)
  | comesRound (before : state.phase.stepsToStop = 4) (after : next.phase = .reaping)
  | leaves (before : 3 ≤ state.phase.stepsToStop)
      (after : next.phase =
        .draining (state.now + options.gracePeriod.timerMilliseconds))

theorem Phase.stepsToStop_of_isWaiting {phase : Phase} (waiting : phase.isWaiting = true) :
    3 ≤ phase.stepsToStop := by
  cases phase with
  | acquiring | requesting | receiving | pausing | backingOff => simp [stepsToStop]
  | starting | reaping | draining | abandoning | stopped | crashed => cases waiting

theorem LoopMove.isLeaving (move : LoopMove options world state (next, made))
    (triggered : state.shutdown.triggered = true)
    (within : state.phase.isEnding = false) :
    Leaving options state next ∧
      (next.inFlight = state.inFlight ∨
        next.inFlight = runningTasks state.inFlight) := by
  have raised : state.shutdown.triggered ≠ false := by
    rw [triggered]
    exact Bool.noConfusion
  generalize same : (next, made) = result at move
  cases move with
  | refuse phase beyond =>
      cases same
      exact ⟨.refuses beyond (by rw [phase]; rfl) rfl, .inl rfl⟩
  | begin phase =>
      cases same
      exact ⟨.comesRound (by rw [phase]; rfl) rfl, .inl rfl⟩
  | resume phase =>
      cases same
      refine ⟨.comesRound ?_ rfl, .inl rfl⟩
      rcases phase with phase | phase <;> rw [phase] <;> rfl
  | leaveHead phase =>
      cases same
      refine ⟨.leaves (by rw [phase]; exact Nat.le_refl 3) ?_, .inr ?_⟩
      · rw [beginDrain_fst, reap_eq]
      · rw [beginDrain_fst, reap_eq]
  | leave waiting =>
      cases same
      refine ⟨.leaves (Phase.stepsToStop_of_isWaiting waiting) ?_, .inl ?_⟩
      · rw [beginDrain_fst]
      · rw [beginDrain_fst]
  -- Whatever goes on receiving is guarded by the flag.
  | goOn _ untriggered | ask _ untriggered | call _ untriggered | answer _ untriggered
  | retry _ untriggered | unsampled _ untriggered | giveUp _ untriggered
  | breakOff _ untriggered => exact (raised untriggered).elim
  | abandon phase =>
      rw [phase] at within
      cases within
  | join ending | finish ending =>
      rw [within] at ending
      cases ending

theorem Phase.stepsToStop_pos_of_isEnding {phase : Phase}
    (ending : phase.isEnding = true) : 0 < phase.stepsToStop := by
  cases phase with
  | draining | abandoning => simp [stepsToStop]
  | starting | reaping | acquiring | requesting | receiving | pausing | backingOff
  | stopped | crashed => cases ending

/-- Under the flag, no run panics that has begun or may begin. -/
theorem Move.phase_ne_crashed {happened : List Occurrence}
    (move : Move options world state next happened)
    (triggered : state.shutdown.triggered = true)
    (permitted : options.capacity ≤ permitLimit) (running : state.phase ≠ .crashed) :
    next.phase ≠ .crashed := by
  cases move with
  | trigger | task | cut | advance => exact running
  | loop move =>
      cases ending : state.phase.isEnding with
      | false =>
          cases (move.isLeaving triggered ending).1 with
          | refuses beyond => exact absurd permitted (Nat.not_le.mpr beyond)
          | comesRound _ after | leaves _ after =>
              rw [after]
              exact Phase.noConfusion
      | true =>
          obtain ⟨_, ⟨phase, _⟩ | ⟨_, phase⟩ | ⟨⟨result, phase⟩, _⟩⟩ :=
            move.ending_cases ending
          · rw [phase]
            exact running
          · rw [phase]
            exact Phase.noConfusion
          · rw [phase]
            exact Phase.noConfusion

theorem Reaches.phase_ne_crashed
    (reached : Reaches options world shutdown state history)
    (triggered : state.shutdown.triggered = true)
    (permitted : options.capacity ≤ permitLimit) (running : state.phase ≠ .crashed)
    (steps : Steps options world state events next) : next.phase ≠ .crashed := by
  induction steps with
  | refl => exact running
  | step steps stepped induction =>
      have raised := (steps.noIntake reached triggered).triggered
      exact (step?_cases stepped).phase_ne_crashed raised permitted induction

/-- A loop that has not been left is not over before it has been. -/
theorem Move.isOver_eq_false {happened : List Occurrence}
    (move : Move options world state next happened)
    (triggered : state.shutdown.triggered = true)
    (permitted : options.capacity ≤ permitLimit)
    (running : state.phase.isOver = false) (within : state.phase.isEnding = false) :
    next.phase.isOver = false := by
  cases move with
  | trigger | task | cut | advance => exact running
  | loop move =>
      cases (move.isLeaving triggered within).1 with
      | refuses beyond => exact absurd permitted (Nat.not_le.mpr beyond)
      | comesRound _ after | leaves _ after =>
          rw [after]
          rfl

/-! ## What lies ahead -/

/-- The time that is left of the grace period. -/
def graceLeft (options : ReceiverOptions) (state : State) : Nat :=
  match state.phase with
  | .draining deadline => deadline - state.now
  | .abandoning => 0
  | .stopped _ => 0
  | .crashed => 0
  | _ => options.gracePeriod.timerMilliseconds

def toStop (options : ReceiverOptions) (state : State) : Nat :=
  graceLeft options state + stepsAhead state.inFlight + state.phase.stepsToStop

theorem graceLeft_of_within (within : 3 ≤ state.phase.stepsToStop) :
    graceLeft options state = options.gracePeriod.timerMilliseconds := by
  unfold graceLeft
  cases phase : state.phase with
  | starting | reaping | acquiring | requesting | receiving | pausing | backingOff => rfl
  | draining | abandoning | stopped | crashed =>
      rw [phase] at within
      simp [Phase.stepsToStop] at within

theorem LoopMove.toStop_lt_of_within (move : LoopMove options world state (next, made))
    (triggered : state.shutdown.triggered = true)
    (within : state.phase.isEnding = false) :
    toStop options next < toStop options state := by
  obtain ⟨leaving, inFlight⟩ := move.isLeaving triggered within
  have joined := stepsAhead_runningTasks_le state.inFlight
  have fewer : stepsAhead next.inFlight ≤ stepsAhead state.inFlight := by
    rcases inFlight with inFlight | inFlight
    · exact Nat.le_of_eq (congrArg stepsAhead inFlight)
    · rwa [inFlight]
  unfold toStop
  cases leaving with
  | refuses _ before after =>
      have none_left : graceLeft options next = 0 := by simp only [graceLeft, after]
      rw [none_left, after, before]
      simp only [Phase.stepsToStop]
      omega
  | comesRound before after =>
      have before_three : 3 ≤ state.phase.stepsToStop := by omega
      have after_three : 3 ≤ next.phase.stepsToStop := by
        rw [after]
        exact Nat.le_refl 3
      rw [graceLeft_of_within before_three, graceLeft_of_within after_three, after, before]
      simp only [Phase.stepsToStop]
      omega
  -- The grace period begins now, so that all of it is still left.
  | leaves before after =>
      have all_left :
          graceLeft options next = options.gracePeriod.timerMilliseconds := by
        simp only [graceLeft, after, move.now_eq]
        omega
      rw [graceLeft_of_within before, all_left, after]
      change _ + 2 < _
      omega

theorem LoopMove.toStop_lt_of_ending (move : LoopMove options world state (next, made))
    (ending : state.phase.isEnding = true) :
    toStop options next < toStop options state := by
  obtain ⟨inFlight, cases⟩ := move.ending_cases ending
  have joined := stepsAhead_runningTasks_le state.inFlight
  unfold toStop
  rw [inFlight]
  rcases cases with ⟨phase, finished⟩ | ⟨⟨deadline, before, _⟩, phase⟩ |
    ⟨⟨result, phase⟩, _⟩
  · have fewer := stepsAhead_runningTasks_lt finished
    have same : graceLeft options next = graceLeft options state := by
      simp only [graceLeft, phase, move.now_eq]
    rw [same, phase]
    omega
  · have none_left : graceLeft options next = 0 := by simp only [graceLeft, phase]
    rw [none_left, phase, before]
    simp only [Phase.stepsToStop]
    omega
  · have none_left : graceLeft options next = 0 := by simp only [graceLeft, phase]
    have some_left := Phase.stepsToStop_pos_of_isEnding ending
    rw [none_left, phase]
    simp only [Phase.stepsToStop] at some_left ⊢
    omega

/-- Under the flag, a receiver waits only for its tasks, and not beyond its deadline. -/
theorem Idle.draining (idle : Idle options world state)
    (triggered : state.shutdown.triggered = true)
    (distinct : (state.inFlight.map Task.number).Nodup)
    (running : state.phase.isOver = false) :
    ∃ deadline, state.phase = .draining deadline ∧ state.now < deadline := by
  cases idle.loopWaits with
  | draining phase _ early => exact ⟨_, phase, early⟩
  | abandoning phase => exact (idle.not_abandoning distinct phase).elim
  | acquiring _ untriggered | receiving _ untriggered | pausing _ untriggered =>
      rw [triggered] at untriggered
      cases untriggered
  | gone gone =>
      rw [running] at gone
      cases gone

/-- Whatever the receiver does, and when time passes for it, less lies ahead. -/
theorem OwnMove.toStop_lt (own : OwnMove options world state next events)
    (triggered : state.shutdown.triggered = true)
    (distinct : (state.inFlight.map Task.number).Nodup)
    (running : Idle options world state → state.phase.isOver = false) :
    toStop options next < toStop options state := by
  cases own with
  | loop move =>
      cases ending : state.phase.isEnding with
      | false => exact move.toStop_lt_of_within triggered ending
      | true => exact move.toStop_lt_of_ending ending
  | task _ found stepped =>
      have fewer := stepsAhead_of_step? distinct found stepped
      simp only [toStop, graceLeft, putTask]
      omega
  | cut _ found unfinished =>
      have fewer := stepsAhead_of_cut distinct found unfinished
      simp only [toStop, graceLeft, putTask]
      omega
  | advance later idle =>
      obtain ⟨deadline, phase, early⟩ := idle.draining triggered distinct (running idle)
      simp only [toStop, graceLeft, phase]
      omega

/-- The clock alone does not bring a run that is over any further. -/
theorem toStop_of_isOver {time : Nat} (ended : state.phase.isOver = true) :
    toStop options { state with now := time } = toStop options state := by
  unfold toStop graceLeft
  cases phase : state.phase with
  | draining =>
      rw [phase] at ended
      cases ended
  | starting | reaping | acquiring | requesting | receiving | pausing | backingOff
  | abandoning | stopped | crashed => rfl

end Receiver

end AtLeastOnce
