import AtLeastOnce.Proofs.Receiver.Polling

/-!
# When the next receive is called

After the end of a receive there is a moment from which on the next one may be called.
It is called as soon as that moment has come and fewer tasks run than the capacity
allows, and not before.
-/

namespace AtLeastOnce.Receiver

/-- A time in milliseconds, of which a part counts as a whole one. -/
def roundedUp (duration : Duration) : Nat := (duration.nanoseconds + 999999) / 1000000

theorem timerMilliseconds_eq_roundedUp (duration : Duration) :
    duration.timerMilliseconds = roundedUp duration := by
  unfold Duration.timerMilliseconds Duration.nanosecondsPerMillisecond roundedUp
  omega

/-- A receive does not wait if none or a negative wait is configured. -/
theorem clampNat_wait_eq_zero_iff (waitSeconds : Int) :
    clampNat 0 waitLimit waitSeconds = 0 ↔ waitSeconds ≤ 0 := by
  unfold clampNat waitLimit
  omega

/-- The moment from which on the next receive may be called, after one that ended with
the last event of a history. -/
def readyAfter? (options : ReceiverOptions) (world : World) (history : List Occurrence)
    (moment : Nat) : CallEnd (List Delivery) → Option Nat
  | .answered deliveries =>
      if deliveries = [] ∧ options.waitSeconds ≤ 0 then
        some (moment + roundedUp options.emptyPollDelay)
      else some moment
  | .failed _ =>
      (options.backoff.delay? (world.sampler (callsOf history - 1))
        ((errorsSince history).length - 1)).map
          fun delay => moment + roundedUp delay
  | .panicked _ => none

structure Journal.EndsReceive (options : ReceiverOptions) (world : World)
    (journal answered : Journal) (ended : CallEnd (List Delivery)) : Prop where
  step : ∃ action, Journal.Step options world journal action answered
  heard : ∃ made, answered.history =
    journal.history ++ occurrences journal.state.now none (.receiveEnded ended :: made)

variable {options : ReceiverOptions} {world : World} {shutdown : Shutdown}
  {journal answered earlier later final : Journal} {ready : Nat}
  {ended : CallEnd (List Delivery)}

/-! ## The end of a receive -/

/-- A receive that ends the loop neither by a panic nor by one failure too many was
answered, or has failed and a delay has been drawn. -/
theorem LoopMove.ends_cases {state next : State} {made : List Event}
    (move : LoopMove options world state (next, .receiveEnded ended :: made))
    (untriggered : next.shutdown.triggered = false) (unbroken : next.phase ≠ .crashed) :
    ∃ request until?, state.phase = .receiving request until? ∧
      ((∃ deliveries, ended = .answered deliveries ∧
          next = (onDeliveries options state request deliveries).1) ∨
        ∃ error delay, ended = .failed error ∧
          options.backoff.delay? (world.sampler (state.receives - 1))
            (failuresAfter state - 1) = some delay ∧
          next =
            { state with
              failures := failuresAfter state
              free := state.free + request.maxMessages
              phase := .backingOff (some (state.now + delay.timerMilliseconds)) }) := by
  have receiving : ∃ request until?, state.phase = .receiving request until? := by
    cases move.ofLoop List.mem_cons_self with
    | receiveEnded _ phase => exact ⟨_, _, phase⟩
  obtain ⟨request, until?, receiving⟩ := receiving
  generalize same : (next, Event.receiveEnded ended :: made) = result at move
  cases move with
  | answer phase =>
      cases same
      exact ⟨_, _, phase, .inl ⟨_, rfl, rfl⟩⟩
  | retry phase _ _ _ _ drawn =>
      cases same
      exact ⟨_, _, phase, .inr ⟨_, _, rfl, drawn, rfl⟩⟩
  | unsampled | breakOff =>
      cases same
      exact (unbroken rfl).elim
  | giveUp =>
      cases same
      simp [givingUp, Shutdown.trigger] at untriggered
  | leave _ triggered =>
      rw [(Prod.mk.inj same).1, beginDrain_fst] at untriggered
      simp [triggered] at untriggered
  | refuse phase | begin phase | goOn phase | leaveHead phase | ask phase | call phase
  | abandon phase =>
      rw [receiving] at phase
      cases phase
  | resume phase => rcases phase with phase | phase <;> rw [receiving] at phase <;> cases phase
  | join ending | finish ending =>
      rw [receiving] at ending
      cases ending

namespace Journal.EndsReceive

theorem loopMove (ends : EndsReceive options world journal answered ended) :
    ∃ made, LoopMove options world journal.state
      (answered.state, .receiveEnded ended :: made) := by
  obtain ⟨⟨action, step⟩, made, heard⟩ := ends
  have loop : ∀ {events : List Occurrence},
      answered.history = journal.history ++ events →
        loopEvents events = .receiveEnded ended :: made := by
    intro events history
    rw [history] at heard
    rw [List.append_cancel_left heard, loopEvents_occurrences_none]
  rcases step.cases with rfl | own
  · have triggers := loop rfl
    rw [loopEvents_occurrences_none] at triggers
    cases triggers
  · obtain ⟨events, move, history, _⟩ := own.cases
    have same := loop history
    clear step own loop heard history
    generalize answered.state = next at move
    cases move with
    | task =>
        rw [loopEvents_occurrences_some] at same
        cases same
    | cut | advance => cases same
    | loop move =>
        rw [loopEvents_occurrences_none] at same
        rw [same] at move
        exact ⟨made, move⟩

/-- A receive that does not end the loop tells when the next one may be called. -/
theorem approaches (ends : EndsReceive options world journal answered ended)
    (reached : Reached options world shutdown journal)
    (bounded : options.backoff.maxAttempts ≤ failureLimit)
    (untriggered : answered.state.shutdown.triggered = false)
    (unbroken : answered.state.phase ≠ .crashed) :
    ∃ ready,
      readyAfter? options world answered.history answered.state.now ended = some ready ∧
        Approaches ready answered.state := by
  have after : Reached options world shutdown answered := reached.tail ends.step
  have counted := after.joins.reaches.counted bounded
  obtain ⟨made, move⟩ := ends.loopMove
  obtain ⟨request, until?, receiving, cases⟩ := move.ends_cases untriggered unbroken
  have wait : request.waitSeconds = 0 ↔ options.waitSeconds ≤ 0 := by
    rw [(reached.joins.reaches.request_eq (by rw [receiving]; rfl)).2]
    exact clampNat_wait_eq_zero_iff options.waitSeconds
  rcases cases with ⟨deliveries, rfl, next⟩ | ⟨error, delay, rfl, drawn, next⟩
  · rw [readyAfter?, ← timerMilliseconds_eq_roundedUp, next, onDeliveries_fst]
    by_cases pauses : deliveries = [] ∧ options.waitSeconds ≤ 0
    · rw [if_pos pauses]
      refine ⟨_, rfl, .pauses (.inl ?_) (Nat.le_add_right _ _)⟩
      exact if_pos ⟨List.isEmpty_iff.mpr pauses.1, wait.mpr pauses.2⟩
    · rw [if_neg pauses]
      refine ⟨_, rfl, .asks (.inl ?_) (Nat.le_refl _)⟩
      refine if_neg ?_
      rintro ⟨empty, unwaiting⟩
      exact pauses ⟨List.isEmpty_iff.mp empty, wait.mp unwaiting⟩
  · have receives : callsOf answered.history = journal.state.receives := by
      rw [← counted.receives, next]
    have failures : (errorsSince answered.history).length = failuresAfter journal.state := by
      rw [← (counted.failing (counted.givenUp_eq_none untriggered)).1, next]
    rw [readyAfter?, receives, failures, drawn]
    refine ⟨_, rfl, .pauses (.inr ?_) ?_⟩
    · rw [next, timerMilliseconds_eq_roundedUp]
    · rw [next]
      exact Nat.le_add_right _ _

end Journal.EndsReceive

/-! ## The next call -/

namespace Awaiting

theorem requesting {action : Action}
    (awaiting : Awaiting options world shutdown answered ready later)
    (bounded : options.backoff.maxAttempts ≤ failureLimit)
    (step : Journal.Step options world later action final)
    (calls : callsOf later.history < callsOf final.history) :
    ∃ request, later.state.phase = .requesting request := by
  have reached : Journal.Reached options world shutdown final :=
    awaiting.reached.tail ⟨action, step⟩
  rw [← (awaiting.reached.joins.reaches.counted bounded).receives,
    ← (reached.joins.reaches.counted bounded).receives] at calls
  obtain ⟨_, move, _⟩ := step.move
  generalize final.state = next at move calls
  cases move with
  | trigger | task | cut | advance => exact (Nat.lt_irrefl _ calls).elim
  | loop move =>
      cases move.reception with
      | calls _ before => exact ⟨_, before⟩
      | none _ _ receives | answers _ _ _ _ receives | fails _ _ _ _ receives
      | givesUp _ _ _ receives | breaks _ _ _ receives =>
          exact (Nat.ne_of_gt calls receives).elim

theorem of_requesting {request : ReceiveRequest}
    (awaiting : Awaiting options world shutdown answered ready later)
    (phase : later.state.phase = .requesting request) :
    ready ≤ later.state.now ∧ unfinished later.state < options.capacity := by
  constructor
  · cases awaiting.approaches with
    | asks _ come => exact come
    | pauses other => rcases other with other | other <;> rw [phase] at other <;> cases other
  · have asked := (awaiting.reached.joins.reaches.request_eq (by rw [phase]; rfl)).1
    have permits := awaiting.permits
    rw [phase] at permits
    simp only [Phase.permits] at permits
    omega

/-- Once the moment has come and there is capacity, no time passes before the next
receive is called. -/
theorem no_time_passes
    (awaiting : Awaiting options world shutdown answered ready earlier)
    (bounded : options.backoff.maxAttempts ≤ failureLimit)
    (come : ready ≤ earlier.state.now)
    (available : unfinished earlier.state < options.capacity)
    (leads : Journal.Leads options world earlier later)
    (between : Between options world answered later) :
    Awaiting options world shutdown answered ready later ∧
      later.state.now = earlier.state.now ∧
      unfinished later.state ≤ unfinished earlier.state := by
  induction leads with
  | refl => exact ⟨awaiting, rfl, Nat.le_refl _⟩
  | tail leads step induction =>
      obtain ⟨action, step⟩ := step
      have first := awaiting.between.leads.trans leads
      have before := between.before first (.single ⟨action, step⟩)
      obtain ⟨here, now, fewer⟩ := induction before
      have own := between.own step
      obtain ⟨same, lessened⟩ := here.now_eq own (by omega) (by omega)
      refine ⟨(here.own bounded own).resolve_left ?_, same.trans now, by omega⟩
      intro called
      have uncalled := before.uncalled
      have still := between.uncalled
      omega

/-- The next receive is called before time passes any further. -/
theorem calls_now (awaiting : Awaiting options world shutdown answered ready later)
    (bounded : options.backoff.maxAttempts ≤ failureLimit)
    (come : ready ≤ later.state.now)
    (available : unfinished later.state < options.capacity) :
    Inevitably (Journal.Own options world)
      (fun next => callsOf answered.history < callsOf next.history ∧
        next.state.now = later.state.now) later := by
  -- The horizon is now, for no time passes before the call.
  refine Inevitably.of_measure
    (fun here => Awaiting options world shutdown answered ready here ∧
      here.state.now = later.state.now ∧ unfinished here.state < options.capacity)
    (fun here => effort later.state.now here.state) ?_ ?_ ⟨awaiting, rfl, available⟩
  · intro here kept _
    exact kept.1.exists_own
  · intro here next ⟨waiting, now, unused⟩ _ own
    have moment : ready ≤ here.state.now := by omega
    obtain ⟨same, fewer⟩ := waiting.now_eq own moment unused
    have uncalled := waiting.between.uncalled
    rcases waiting.own bounded own with called | still
    · exact .inl ⟨by omega, same.trans now⟩
    · right
      refine ⟨⟨still, same.trans now, by omega⟩, ?_⟩
      refine (waiting.effort_lt later.state.now bounded own ?_).resolve_left ?_
      · intro idle
        exact (waiting.not_idle moment unused idle).elim
      · have further := still.between.uncalled
        omega

/-- The next receive is called, or time goes on as far as one likes. -/
theorem goes_on (awaiting : Awaiting options world shutdown answered ready later)
    (bounded : options.backoff.maxAttempts ≤ failureLimit) (horizon : Nat) :
    Inevitably (Journal.Own options world)
      (fun next => callsOf answered.history < callsOf next.history ∨
        horizon ≤ next.state.now) later := by
  refine Inevitably.of_measure (Awaiting options world shutdown answered ready)
    (fun here => effort horizon here.state) ?_ ?_ awaiting
  · intro here waiting _
    exact waiting.exists_own
  · intro here next waiting unmet own
    have uncalled := waiting.between.uncalled
    rcases waiting.own bounded own with called | still
    · exact .inl (.inl (by omega))
    · right
      refine ⟨still, (waiting.effort_lt horizon bounded own ?_).resolve_left ?_⟩
      · intro _
        exact Nat.lt_of_not_le fun beyond => unmet (.inr beyond)
      · have further := still.between.uncalled
        omega

theorem free_of_early (awaiting : Awaiting options world shutdown answered ready later)
    (early : later.state.now < ready) :
    later.state.free + unfinished later.state = options.capacity := by
  have permits := awaiting.permits
  cases awaiting.approaches with
  | asks _ come => omega
  | pauses phase => rcases phase with phase | phase <;> rw [phase] at permits <;> exact permits

end Awaiting

/-- How the next receive follows one that has ended, if it may be called from a moment
on. -/
structure Scheduled (options : ReceiverOptions) (world : World) (answered : Journal)
    (ready : Nat) : Prop where
  /-- It is called when the moment has come and one more task may run, and at no time
  before was that so. -/
  exactly : ∀ {later action next}, Between options world answered later →
    Journal.Step options world later action next →
      callsOf later.history < callsOf next.history →
        ready ≤ later.state.now ∧
          unfinished later.state < Max.max 1 options.maxInFlight ∧
          ∀ {earlier}, Journal.Leads options world answered earlier →
            Journal.Leads options world earlier later →
              ready ≤ earlier.state.now →
                unfinished earlier.state < Max.max 1 options.maxInFlight →
                  earlier.state.now = later.state.now
  /-- If that is so, it is called at once, -/
  prompt : ∀ {later}, Between options world answered later →
    ready ≤ later.state.now → unfinished later.state < Max.max 1 options.maxInFlight →
      Inevitably (Journal.Own options world)
        (fun next => callsOf answered.history < callsOf next.history ∧
          next.state.now = later.state.now) later
  /-- and until then time goes on, as far as one likes. -/
  goesOn : ∀ {later} (horizon : Nat), Between options world answered later →
    Inevitably (Journal.Own options world)
      (fun next => callsOf answered.history < callsOf next.history ∨
        horizon ≤ next.state.now) later
  /-- Before the moment has come, all the permits are left to the tasks. -/
  pauses : ∀ {later}, Between options world answered later →
    later.state.now < ready →
      later.state.free + unfinished later.state = Max.max 1 options.maxInFlight

/-- Never is more than one receive outstanding; and when one has ended that does not
end the loop, the next is called at the first moment, of those from which on it may be
called, at which fewer tasks run than there are permits. -/
theorem Journal.Reached.receivesOnSchedule
    (reached : Reached options world shutdown journal)
    (bounded : options.backoff.maxAttempts ≤ 4294967295)
    (ends : EndsReceive options world journal answered ended)
    (untriggered : answered.state.shutdown.triggered = false)
    (unbroken : answered.state.phase ≠ .crashed) :
    (∀ {later}, Reached options world shutdown later →
      endsOf later.history ≤ callsOf later.history ∧
        callsOf later.history ≤ endsOf later.history + 1) ∧
    ∃ ready,
      readyAfter? options world answered.history answered.state.now ended = some ready ∧
        Scheduled options world answered ready := by
  obtain ⟨ready, next, approaches⟩ :=
    ends.approaches reached bounded untriggered unbroken
  have after : Reached options world shutdown answered := reached.tail ends.step
  have awaiting : ∀ {later}, Between options world answered later →
      Awaiting options world shutdown answered ready later :=
    fun between => between.awaiting bounded after approaches
  refine ⟨fun reached => (reached.joins.reaches.counted bounded).bounds, ready, next, ?_⟩
  exact
    { exactly := by
        intro later action next between step calls
        obtain ⟨request, phase⟩ := (awaiting between).requesting bounded step calls
        obtain ⟨come, available⟩ := (awaiting between).of_requesting phase
        refine ⟨come, available, ?_⟩
        intro earlier first second already unused
        have before := awaiting (between.before first second)
        exact (before.no_time_passes bounded already unused second between).2.1.symm
      prompt := fun between => (awaiting between).calls_now bounded
      goesOn := fun horizon between => (awaiting between).goes_on bounded horizon
      pauses := fun between => (awaiting between).free_of_early }

def withoutWaiting : ReceiverOptions := { threeAtOnce with waitSeconds := 0 }

/-- While two tasks of the first receive are running, a second one brings nothing after
seven milliseconds.  The loop pauses for a second, and then asks again beside them. -/
theorem receivesOnSchedule_slowLetters :
    ∃ journal answered,
      Journal.Reached withoutWaiting (slowLetters []) .idle journal ∧
        Journal.EndsReceive withoutWaiting (slowLetters []) journal answered
          (.answered []) ∧
        withoutWaiting.maxInFlight = 3 ∧
        answered.state.now = 7 ∧ unfinished answered.state = 2 ∧ answered.state.free = 1 ∧
        Scheduled withoutWaiting (slowLetters []) answered 1007 := by
  obtain ⟨joined, reached⟩ := Journal.run_reached withoutWaiting (slowLetters []) none 11
  have moves : (step? withoutWaiting (slowLetters [])
      (run withoutWaiting (slowLetters []) none 11).state (.loop false)).isSome = true := rfl
  have step : Journal.Step withoutWaiting (slowLetters [])
      ⟨(run withoutWaiting (slowLetters []) none 11).state,
        (run withoutWaiting (slowLetters []) none 11).history, joined⟩ (.loop false) _ :=
    .intro trivial (Option.some_get moves).symm
  have ends : Journal.EndsReceive withoutWaiting (slowLetters []) _ _ (.answered []) :=
    ⟨⟨_, step⟩, [.logged (.noMessages "letters")], rfl⟩
  obtain ⟨_, ready, next, scheduled⟩ :=
    reached.receivesOnSchedule (by decide) ends rfl Phase.noConfusion
  cases next
  exact ⟨_, _, reached, ends, rfl, rfl, rfl, rfl, scheduled⟩

end AtLeastOnce.Receiver
