import AtLeastOnce.Proofs.Receiver.Effort
import AtLeastOnce.Proofs.Receiver.Intake
import AtLeastOnce.Proofs.Receiver.Permits
import AtLeastOnce.Proofs.Receiver.Reception

/-!
# On the way to the next receive

After a receive has ended, the loop pauses until some moment, then joins tasks, waits
for a permit, and calls the next one.  `Awaiting` is a run on this way; its steps keep
to it until the receive is called.
-/

namespace AtLeastOnce.Receiver

def Phase.request? : Phase → Option ReceiveRequest
  | .requesting request => some request
  | .receiving request _ => some request
  | _ => none

variable {options : ReceiverOptions} {world : World} {shutdown : Shutdown}
  {state next : State} {history events : List Occurrence}

/-! ## Requests and permits -/

/-- A request is made up while permits are free, and is kept until the receive ends. -/
theorem Move.request?_cases {request : ReceiveRequest}
    (move : Move options world state next events)
    (requested : next.phase.request? = some request) :
    state.phase.request? = some request ∨
      0 < state.free ∧ request = requestFor options state.free := by
  cases move with
  | trigger | task | cut | advance => exact .inl requested
  | @loop next made move =>
      generalize same : (next, made) = result at move
      cases move with
      | ask _ _ available =>
          cases same
          exact .inr ⟨available, (Option.some.inj requested).symm⟩
      | call phase =>
          cases same
          rw [phase]
          exact .inl requested
      | join =>
          cases same
          exact .inl requested
      | answer =>
          cases same
          simp only [onDeliveries_fst] at requested
          split at requested <;> cases requested
      | refuse | begin | goOn | retry | unsampled | breakOff | resume | abandon =>
          cases same
          cases requested
      | leave | leaveHead | giveUp | finish =>
          cases same
          simp [Phase.request?] at requested

theorem Reaches.request_eq (reached : Reaches options world shutdown state history)
    {request : ReceiveRequest} (requested : state.phase.request? = some request) :
    1 ≤ request.maxMessages ∧
      request.waitSeconds = clampNat 0 waitLimit options.waitSeconds := by
  induction reached with
  | start => cases requested
  | step _ stepped induction =>
      rcases (step?_cases stepped).request?_cases requested with before | ⟨available, rfl⟩
      · exact induction before
      · have bounds := requestFor_bounds options _ available
        refine ⟨bounds.1, ?_⟩
        rw [requestFor_eq options _ available]

/-- A receiver with more permits than there can be never begins. -/
theorem Reaches.starting_or_crashed
    (reached : Reaches options world shutdown state history)
    (beyond : permitLimit < options.capacity) :
    state.phase = .starting ∨ state.phase = .crashed := by
  induction reached with
  | start => exact .inl rfl
  | @step state next history events action _ stepped induction =>
      cases step?_cases stepped with
      | trigger | task | cut | advance => exact induction
      | @loop next made move =>
          have other : ∀ {phase : Phase}, state.phase = phase → phase ≠ .starting →
              phase ≠ .crashed → False := by
            intro phase same notStarting notCrashed
            rcases induction with starting | crashed
            · exact notStarting (same.symm.trans starting)
            · exact notCrashed (same.symm.trans crashed)
          generalize same : (next, made) = result at move
          cases move with
          | refuse =>
              cases same
              exact .inr rfl
          | begin _ within => exact absurd within (Nat.not_le.mpr beyond)
          | goOn phase | leaveHead phase | ask phase | call phase | answer phase
          | retry phase | unsampled phase | giveUp phase | breakOff phase
          | abandon phase => exact (other phase (by simp) (by simp)).elim
          | resume phase =>
              rcases phase with phase | phase <;>
                exact (other phase (by simp) (by simp)).elim
          | leave waiting =>
              rcases induction with phase | phase <;> rw [phase] at waiting <;> cases waiting
          | join ending | finish ending =>
              rcases induction with phase | phase <;> rw [phase] at ending <;> cases ending

/-- While the loop is on its way to the next receive, every permit is free, held by
the loop, or held by a running task. -/
theorem Reaches.permits_of_isAsking
    (reached : Reaches options world shutdown state history)
    (asking : state.phase.isAsking = true) :
    state.free + state.phase.permits + unfinished state = options.capacity := by
  have within : options.capacity ≤ permitLimit := by
    refine Nat.le_of_not_lt ?_
    intro beyond
    rcases reached.starting_or_crashed beyond with phase | phase <;>
      rw [phase] at asking <;> cases asking
  have permits := (reached.conserved within).permits
  cases phase : state.phase with
  | reaping | acquiring | requesting | pausing | backingOff =>
      rw [phase] at permits
      exact permits
  | starting | receiving | draining | abandoning | stopped | crashed =>
      rw [phase] at asking
      cases asking

/-- Tasks end, and no new ones come while nothing is received. -/
theorem OwnMove.unfinished_le (own : OwnMove options world state next events)
    (distinct : (state.inFlight.map Task.number).Nodup)
    (asking : state.phase.isAsking = true) : unfinished next ≤ unfinished state := by
  have replaced : ∀ {task after : Task}, task ∈ state.inFlight →
      task.isFinished = false → after.number = task.number →
        unfinished (putTask state after) ≤ unfinished state := by
    intro task after found running same
    have length := length_runningTasks_replaceTask distinct found running same
    simp only [unfinished, putTask]
    omega
  unfold unfinished
  cases own.move.taskChange with
  | keeps same | calls same => exact Nat.le_of_eq (by rw [same.inFlight])
  | joins inFlight => exact Nat.le_of_eq (by rw [inFlight, runningTasks_runningTasks])
  | handsOut before =>
      rw [before] at asking
      cases asking
  | moves found stepped =>
      obtain ⟨changed, running⟩ := Task.step?_eq_some stepped
      exact replaced found running (by rw [changed])
  | cuts found running => exact replaced found running rfl

/-! ## On the way to the next receive -/

/-- The loop pauses until a moment, or the moment has come and it is about to ask. -/
inductive Approaches (ready : Nat) (state : State) : Prop where
  | pauses
      (phase : state.phase = .pausing (some ready) ∨
        state.phase = .backingOff (some ready))
      (early : state.now ≤ ready)
  | asks
      (phase : state.phase = .reaping ∨ state.phase = .acquiring ∨
        ∃ request, state.phase = .requesting request)
      (come : ready ≤ state.now)

namespace Approaches

variable {ready : Nat}

theorem isAsking (approaches : Approaches ready state) :
    state.phase.isAsking = true := by
  cases approaches with
  | pauses phase => rcases phase with phase | phase <;> rw [phase] <;> rfl
  | asks phase =>
      rcases phase with phase | phase | ⟨request, phase⟩ <;> rw [phase] <;> rfl

/-- If nobody can move once the moment has come, every permit is held by a task. -/
theorem of_idle (approaches : Approaches ready state)
    (idle : Idle options world state) (come : ready ≤ state.now) :
    state.phase = .acquiring ∧ state.free = 0 := by
  cases idle.loopWaits with
  | acquiring phase _ exhausted => exact ⟨phase, exhausted⟩
  | pausing phase _ early =>
      cases approaches with
      | pauses waits =>
          have until? : ∀ {until?}, until? = some ready →
              isDue state.now until? = true := by
            rintro until? rfl
            simpa [isDue] using come
          rcases phase with phase | phase <;> rcases waits with other | other <;>
            rw [phase] at other <;> cases other <;> rw [until? rfl] at early <;>
              cases early
      | asks other =>
          rcases phase with phase | phase <;>
            rcases other with other | other | ⟨request, other⟩ <;>
              rw [phase] at other <;> cases other
  | receiving phase | draining phase | abandoning phase =>
      have asking := approaches.isAsking
      rw [phase] at asking
      cases asking
  | gone gone =>
      rw [Phase.isOver_of_isAsking approaches.isAsking] at gone
      cases gone

theorem come_of_asks (approaches : Approaches ready state)
    (asks : state.phase = .reaping ∨ state.phase = .acquiring) : ready ≤ state.now := by
  cases approaches with
  | asks _ come => exact come
  | pauses phase =>
      rcases phase with phase | phase <;> rcases asks with asks | asks <;>
        rw [phase] at asks <;> cases asks

theorem come_of_resume {until? : Option Nat} (approaches : Approaches ready state)
    (phase : state.phase = .pausing until? ∨ state.phase = .backingOff until?)
    (due : isDue state.now until? = true) : ready ≤ state.now := by
  cases approaches with
  | asks _ come => exact come
  | pauses waits =>
      have same : until? = some ready := by
        rcases phase with phase | phase <;> rcases waits with waits | waits <;>
          rw [phase] at waits <;> cases waits <;> rfl
      rw [same] at due
      simpa [isDue] using due

theorem loop {made : List Event} (approaches : Approaches ready state)
    (move : LoopMove options world state (next, made))
    (untriggered : state.shutdown.triggered = false) :
    next.receives = state.receives + 1 ∨ Approaches ready next := by
  have asking := approaches.isAsking
  generalize same : (next, made) = result at move
  cases move with
  | call =>
      cases same
      exact .inl rfl
  | goOn phase =>
      cases same
      exact .inr (.asks (.inr (.inl rfl)) (approaches.come_of_asks (.inl phase)))
  | ask phase =>
      cases same
      exact .inr (.asks (.inr (.inr ⟨_, rfl⟩)) (approaches.come_of_asks (.inr phase)))
  | resume phase due =>
      cases same
      exact .inr (.asks (.inl rfl) (approaches.come_of_resume phase due))
  | leave _ triggered | leaveHead _ triggered =>
      rw [untriggered] at triggered
      cases triggered
  | refuse phase | begin phase | answer phase | retry phase | unsampled phase
  | giveUp phase | breakOff phase | abandon phase =>
      rw [phase] at asking
      cases asking
  | join ending | finish ending =>
      rw [Phase.isEnding_of_isAsking asking] at ending
      cases ending

theorem own (approaches : Approaches ready state)
    (own : OwnMove options world state next events)
    (untriggered : state.shutdown.triggered = false) :
    next.receives = state.receives + 1 ∨ Approaches ready next := by
  cases own with
  | loop move => exact approaches.loop move untriggered
  | task | cut =>
      right
      cases approaches with
      | pauses phase early => exact .pauses phase early
      | asks phase come => exact .asks phase come
  | @advance time later _ awaited =>
      right
      cases approaches with
      | pauses phase =>
          refine .pauses phase (awaited ready (.inl ?_))
          rcases phase with phase | phase <;> rw [phase] <;> rfl
      | asks phase come => exact .asks phase (Nat.le_trans come (Nat.le_of_lt later))

end Approaches

/-! ## Between two receives -/

/-- What a run comes to after the end of a receive, before the next one is called and
before the flag is up. -/
structure Between (options : ReceiverOptions) (world : World)
    (answered later : Journal) : Prop where
  leads : Journal.Leads options world answered later
  untriggered : later.state.shutdown.triggered = false
  uncalled : callsOf later.history = callsOf answered.history

variable {journal answered earlier later final : Journal} {ready : Nat}

theorem Journal.Leads.triggered (leads : Leads options world journal later)
    (triggered : journal.state.shutdown.triggered = true) :
    later.state.shutdown.triggered = true := by
  induction leads with
  | refl => exact triggered
  | tail _ step induction =>
      obtain ⟨action, step⟩ := step
      obtain ⟨_, move, _⟩ := step.move
      exact move.triggered induction

theorem Journal.Leads.callsOf_le (leads : Leads options world journal later) :
    callsOf journal.history ≤ callsOf later.history := by
  obtain ⟨events, _, history⟩ := leads.steps
  rw [history, callsOf_append]
  exact Nat.le_add_right (callsOf journal.history) _

namespace Between

theorem start (untriggered : answered.state.shutdown.triggered = false) :
    Between options world answered answered :=
  ⟨.refl, untriggered, rfl⟩

theorem before (between : Between options world answered final)
    (first : Journal.Leads options world answered later)
    (second : Journal.Leads options world later final) :
    Between options world answered later := by
  refine ⟨first, ?_, ?_⟩
  · refine eq_false_of_ne_true ?_
    intro triggered
    have untriggered := between.untriggered
    rw [second.triggered triggered] at untriggered
    cases untriggered
  · have least := first.callsOf_le
    have most := second.callsOf_le
    have same := between.uncalled
    omega

/-- Nobody outside takes a step before the flag is up. -/
theorem own {action : Action} (between : Between options world answered final)
    (step : Journal.Step options world later action final) :
    Journal.Own options world later final := by
  rcases step.cases with rfl | own
  · cases between.untriggered
  · exact own

end Between

structure Awaiting (options : ReceiverOptions) (world : World) (shutdown : Shutdown)
    (answered : Journal) (ready : Nat) (later : Journal) : Prop where
  reached : Journal.Reached options world shutdown later
  between : Between options world answered later
  approaches : Approaches ready later.state

namespace Awaiting

variable (awaiting : Awaiting options world shutdown answered ready later)
include awaiting

theorem distinct : (later.state.inFlight.map Task.number).Nodup :=
  awaiting.reached.joins.ledger.distinctInFlight

theorem permits :
    later.state.free + later.state.phase.permits + unfinished later.state =
      options.capacity :=
  awaiting.reached.joins.reaches.permits_of_isAsking awaiting.approaches.isAsking

theorem exists_own : ∃ next, Journal.Own options world later next :=
  awaiting.reached.exists_own (Phase.isOver_of_isAsking awaiting.approaches.isAsking)

/-- Once the moment has come, only the want of capacity can keep everybody waiting. -/
theorem not_idle (come : ready ≤ later.state.now)
    (available : unfinished later.state < options.capacity) :
    ¬ Idle options world later.state := by
  intro idle
  obtain ⟨phase, free⟩ := awaiting.approaches.of_idle idle come
  have permits := awaiting.permits
  rw [phase, free] at permits
  simp only [Phase.permits] at permits
  omega

/-- The next receive is called, or the run is still on its way to it. -/
theorem own (bounded : options.backoff.maxAttempts ≤ failureLimit)
    (own : Journal.Own options world later final) :
    callsOf final.history = callsOf later.history + 1 ∨
      Awaiting options world shutdown answered ready final := by
  obtain ⟨events, move, history, _⟩ := own.cases
  obtain ⟨action, _, step⟩ := own
  have reached : Journal.Reached options world shutdown final :=
    awaiting.reached.tail ⟨action, step⟩
  have before := (awaiting.reached.joins.reaches.counted bounded).receives
  have after := (reached.joins.reaches.counted bounded).receives
  have untriggered := awaiting.between.untriggered
  by_cases called : final.state.receives = later.state.receives + 1
  · left
    rw [← before, ← after, called]
  · right
    have kept : final.state.receives = later.state.receives ∧
        final.state.shutdown = later.state.shutdown := by
      generalize final.state = state at move called
      cases move with
      | task | cut | advance => exact ⟨rfl, rfl⟩
      | loop move =>
          have nears := (move.asking_cases awaiting.approaches.isAsking
            untriggered).resolve_left called
          exact ⟨nears.receives, nears.shutdown⟩
    refine ⟨reached, ⟨awaiting.between.leads.tail ⟨action, step⟩, ?_, ?_⟩,
      (awaiting.approaches.own move untriggered).resolve_left called⟩
    · rw [kept.2]
      exact untriggered
    · rw [← after, kept.1, before]
      exact awaiting.between.uncalled

/-- While somebody can move, no time passes. -/
theorem now_eq (own : Journal.Own options world later final)
    (come : ready ≤ later.state.now)
    (available : unfinished later.state < options.capacity) :
    final.state.now = later.state.now ∧
      unfinished final.state ≤ unfinished later.state := by
  have moves := awaiting.not_idle come available
  obtain ⟨_, move, _⟩ := own.cases
  refine ⟨?_, move.unfinished_le awaiting.distinct awaiting.approaches.isAsking⟩
  generalize final.state = state at move
  cases move with
  | loop move => exact move.now_eq
  | task | cut => rfl
  | advance _ idle => exact (moves idle).elim

theorem effort_lt (horizon : Nat) (bounded : options.backoff.maxAttempts ≤ failureLimit)
    (own : Journal.Own options world later final)
    (early : Idle options world later.state → later.state.now < horizon) :
    callsOf final.history = callsOf later.history + 1 ∨
      effort horizon final.state < effort horizon later.state := by
  obtain ⟨events, move, _⟩ := own.cases
  rcases awaiting.own bounded own with called | next
  · exact .inl called
  · right
    refine move.effort_lt awaiting.distinct early ?_
    intro made loopMove
    have uncalled : final.state.receives ≠ later.state.receives + 1 := by
      rw [(awaiting.reached.joins.reaches.counted bounded).receives,
        (next.reached.joins.reaches.counted bounded).receives,
        awaiting.between.uncalled, next.between.uncalled]
      omega
    exact (loopMove.effort_lt_of_asking horizon awaiting.approaches.isAsking
      awaiting.between.untriggered).resolve_left uncalled

end Awaiting

theorem Between.awaiting (between : Between options world answered later)
    (bounded : options.backoff.maxAttempts ≤ failureLimit)
    (reached : Journal.Reached options world shutdown answered)
    (approaches : Approaches ready answered.state) :
    Awaiting options world shutdown answered ready later := by
  have leads := between.leads
  induction leads with
  | refl => exact ⟨reached, between, approaches⟩
  | tail leads step induction =>
      obtain ⟨action, step⟩ := step
      have earlier := between.before leads (.single ⟨action, step⟩)
      refine ((induction earlier).own bounded (between.own step)).resolve_left ?_
      intro called
      have before := earlier.uncalled
      have after := between.uncalled
      omega

end AtLeastOnce.Receiver
