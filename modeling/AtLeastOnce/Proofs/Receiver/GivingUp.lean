import AtLeastOnce.Proofs.Receiver.Draining
import AtLeastOnce.Proofs.Receiver.Intake
import AtLeastOnce.Proofs.Receiver.Reception

/-!
# Giving up

A receiver that nobody tells to stop stops by itself when as many receives in a row
have failed as there are attempts.  It raises the flag, drains, and returns the last
error.
-/

namespace AtLeastOnce.Receiver

/-- Whether somebody outside triggers the shutdown. -/
def isTrigger : Event → Bool
  | .shutdownTriggered _ => true
  | _ => false

/-- The failure of a receiver that has given up. -/
def exhaustion (options : ReceiverOptions) (error : CallError) : Failure :=
  .pollRetriesExhausted options.queueUrl options.backoff.attempts error

variable {options : ReceiverOptions} {world : World} {shutdown : Shutdown}
  {state next : State} {history events : List Occurrence} {journal later : Journal}

/-! ## The step in which receiving is given up -/

/-- The last receive fails, and the loop is left in the same step. -/
theorem Move.givesUp (move : Move options world state next events)
    (before : state.givenUp = none) (after : next.givenUp ≠ none) :
    ∃ error made,
      events = occurrences state.now none (.receiveEnded (.failed error) :: made) ∧
      (∀ event ∈ made, isReceive event = false) ∧
      state.phase.isEnding = false ∧
      next.phase = .draining (state.now + options.gracePeriod.timerMilliseconds) ∧
      next.inFlight = state.inFlight ∧ next.now = state.now := by
  have changed : next.givenUp ≠ state.givenUp := by
    rw [before]
    exact after
  cases move with
  | trigger | task | cut | advance => exact (changed rfl).elim
  | loop move =>
      have now := move.now_eq
      cases move.reception with
      | none kept | calls kept | answers kept | fails kept | breaks kept =>
          exact (changed kept.givenUp).elim
      | @givesUp error made _ receiving draining _ _ _ _ inFlight others =>
          obtain ⟨deadline, draining⟩ := draining
          have inside := Phase.isEnding_of_isReceiving receiving
          rw [(move.leaving inside draining).1] at draining
          exact ⟨error, made, rfl, others, inside, draining, inFlight, now⟩

/-- Unless somebody outside has raised the flag, giving up has. -/
theorem Reaches.triggered_eq (reached : Reaches options world .idle state history)
    (unasked : (loopEvents history).any isTrigger = false) :
    state.shutdown.triggered = state.givenUp.isSome := by
  induction reached with
  | start => rfl
  | step _ stepped induction =>
      rw [loopEvents_append, List.any_append, Bool.or_eq_false_iff] at unasked
      obtain ⟨earlier, now⟩ := unasked
      have before := induction earlier
      cases step?_cases stepped with
      | trigger =>
          rw [loopEvents_occurrences_none] at now
          cases now
      | task | cut | advance => exact before
      | loop move =>
          cases move.reception with
          | none keeps | calls keeps | answers keeps | fails keeps | breaks keeps =>
              rw [keeps.shutdown, keeps.givenUp]
              exact before
          | givesUp _ _ _ _ _ triggered givenUp =>
              rw [triggered, givenUp]
              rfl

theorem Journal.Reached.leaves_of_givenUp
    (reached : Reached options world shutdown journal)
    (givenUp : journal.state.givenUp ≠ none) :
    ∃ before left deadline, Reached options world shutdown before ∧
      Leaves options world before left deadline ∧ Leads options world left journal := by
  induction reached with
  | refl => exact (givenUp rfl).elim
  | @tail before after reached step induction =>
      obtain ⟨action, step⟩ := step
      by_cases already : before.state.givenUp = none
      · obtain ⟨_, move, _⟩ := step.move
        obtain ⟨_, _, _, _, inside, draining, _⟩ := move.givesUp already givenUp
        exact ⟨before, after, _, reached, ⟨⟨action, step⟩, inside, draining⟩, .refl⟩
      · obtain ⟨first, left, deadline, start, leaves, leads⟩ := induction already
        exact ⟨first, left, deadline, start, leaves, leads.tail ⟨action, step⟩⟩

/-! ## After giving up -/

/-- What follows once a receiver has given up for an error. -/
structure GaveUp (options : ReceiverOptions) (world : World) (shutdown : Shutdown)
    (state : State) (history : List Occurrence) (error : CallError) : Prop where
  /-- It receives nothing more, -/
  receives : ∀ {events next}, Steps options world state events next →
    ∀ occurrence ∈ events, isReceive occurrence.event = false
  /-- and whatever has been abandoned when it stops, it returns the error. -/
  result : ∀ {events next result}, Steps options world state events next →
    next.phase = .stopped result → result = .error (exhaustion options error)
  /-- On the clock, its tasks have had the grace period since it gave up, -/
  drains : ∀ {joined},
    Journal.Reached options world shutdown ⟨state, history, joined⟩ →
      ∃ before left deadline,
        Journal.Leaves options world before left deadline ∧
          deadline = before.state.now + options.gracePeriod.timerMilliseconds ∧
          Journal.Leads options world left ⟨state, history, joined⟩ ∧
          ∀ {later}, Journal.Leads options world left later →
            Drains options world left deadline later
  /-- and it comes to its end. -/
  returns : ∀ {joined later},
    Journal.Reached options world shutdown ⟨state, history, joined⟩ →
      Journal.Leads options world ⟨state, history, joined⟩ later →
        Inevitably (Journal.Own options world)
          (fun final =>
            final.state.phase = .stopped (.error (exhaustion options error))) later

theorem Reaches.gaveUp {error : CallError}
    (reached : Reaches options world shutdown state history)
    (triggered : state.shutdown.triggered = true)
    (givenUp : state.givenUp = some (exhaustion options error)) :
    GaveUp options world shutdown state history error := by
  have given : state.givenUp ≠ none := by
    rw [givenUp]
    exact Option.some_ne_none _
  have result : ∀ {events next result}, Steps options world state events next →
      next.phase = .stopped result → result = .error (exhaustion options error) := by
    intro events next result steps stopped
    have kept := (steps.noIntake reached triggered).givenUp
    have final := ((reached.append steps).closing.result result stopped).1
    rw [final, finalResult, kept, givenUp]
  refine ⟨fun steps => (steps.noIntake reached triggered).receives, result, ?_, ?_⟩
  · intro joined onClock
    obtain ⟨before, left, deadline, start, leaves, between⟩ :=
      onClock.leaves_of_givenUp given
    exact ⟨before, left, deadline, leaves, leaves.deadline_eq, between,
      leaves.drains start⟩
  · intro joined later onClock leads
    obtain ⟨before, left, deadline, start, leaves, between⟩ :=
      onClock.leaves_of_givenUp given
    -- The drain comes to some end; that it is this one has been seen on every run.
    refine Inevitably.imp_of_kept (Journal.Leads options world ⟨state, history, joined⟩)
      ?_ ?_ (leaves.stops start (between.trans leads)) leads
    · rintro here following leads _ ⟨action, _, step⟩
      exact leads.tail ⟨action, step⟩
    · rintro here leads ⟨ending, stopped⟩
      obtain ⟨_, steps, _⟩ := leads.steps
      rw [stopped, result steps stopped]

/-! ## When it gives up -/

/-- Receiving is given up exactly when the failures in a row are as many as the
attempts. -/
structure GivesUp (options : ReceiverOptions) (world : World) (state : State)
    (history : List Occurrence) : Prop where
  /-- There are never more, -/
  atMost : (errorsSince history).length ≤ options.backoff.attempts
  /-- and with as many, but not before, it has given up and has raised the flag. -/
  exactly : (loopEvents history).any isGivingUp = true ↔
    (errorsSince history).length = options.backoff.attempts
  triggered : state.shutdown.triggered = true ↔
    (errorsSince history).length = options.backoff.attempts
  /-- It gives up in the very step in which the last of the receives fails, and leaves
  its tasks in flight. -/
  step : ∀ {action next events},
    step? options world state action = some (next, events) →
      (errorsSince history).length < options.backoff.attempts →
        (errorsSince (history ++ events)).length = options.backoff.attempts →
          ∃ error made,
            events = occurrences state.now none (.receiveEnded (.failed error) :: made) ∧
            errorsSince (history ++ events) = errorsSince history ++ [error] ∧
            next.phase =
              .draining (state.now + options.gracePeriod.timerMilliseconds) ∧
            next.inFlight = state.inFlight
  /-- Afterwards it receives no more, drains and returns the last error. -/
  after : (errorsSince history).length = options.backoff.attempts →
    ∃ error, (errorsSince history).getLast? = some error ∧
      GaveUp options world .idle state history error

namespace Counted

variable (counted : Counted options state history)
include counted

theorem length_le : (errorsSince history).length ≤ options.backoff.attempts := by
  cases givenUp : state.givenUp with
  | none => exact Nat.le_of_lt (counted.failing givenUp).2
  | some failure => exact Nat.le_of_eq (counted.failed failure givenUp).2.1

theorem givenUp_iff :
    state.givenUp.isSome = true ↔
      (errorsSince history).length = options.backoff.attempts := by
  cases givenUp : state.givenUp with
  | none =>
      have fewer := (counted.failing givenUp).2
      simp only [Option.isSome_none, Bool.false_eq_true, false_iff]
      exact Nat.ne_of_lt fewer
  | some failure =>
      have as_many := (counted.failed failure givenUp).2.1
      simp only [Option.isSome_some, true_iff]
      exact as_many

theorem givenUp_eq_none_of_lt
    (fewer : (errorsSince history).length < options.backoff.attempts) :
    state.givenUp = none := by
  cases givenUp : state.givenUp with
  | none => rfl
  | some failure =>
      have as_many := (counted.failed failure givenUp).2.1
      omega

end Counted

/-- Without a trigger from outside, a receiver gives up after the allowed number of
failures in a row, neither earlier nor later. -/
theorem Reaches.givesUpExactly (reached : Reaches options world .idle state history)
    (unasked : (loopEvents history).any isTrigger = false)
    (bounded : options.backoff.maxAttempts ≤ failureLimit) :
    GivesUp options world state history := by
  have counted := reached.counted bounded
  exact
    { atMost := counted.length_le
      exactly := by
        rw [reached.closing.givenUp]
        exact counted.givenUp_iff
      triggered := by
        rw [reached.triggered_eq unasked]
        exact counted.givenUp_iff
      step := by
        intro action next events stepped fewer as_many
        have before := counted.givenUp_eq_none_of_lt fewer
        have after : next.givenUp ≠ none := by
          have given := ((reached.step stepped).counted bounded).givenUp_iff.mpr as_many
          intro none
          rw [none] at given
          cases given
        obtain ⟨error, made, rfl, others, _, draining, inFlight, _⟩ :=
          (step?_cases stepped).givesUp before after
        refine ⟨error, made, rfl, ?_, draining, inFlight⟩
        rw [errorsSince_append, loopEvents_occurrences_none, List.foldl_cons,
          foldl_recordEnd others]
        rfl
      after := by
        intro as_many
        obtain ⟨failure, given⟩ :=
          Option.isSome_iff_exists.mp (counted.givenUp_iff.mpr as_many)
        obtain ⟨triggered, _, error, last, rfl⟩ := counted.failed failure given
        exact ⟨error, last, reached.gaveUp triggered given⟩ }

/-- Not even the first failure is allowed. -/
def withoutAttempts : ReceiverOptions :=
  letterOptions.withBackoff { Backoff.standard with maxAttempts := 0 }

def timedOut : CallError := ⟨.receive, "letters", .timeout⟩

/-- Every receive times out after a millisecond. -/
def unanswered : World :=
  { twoLetters with receive := fun _ _ => ⟨some 1, .failed timedOut⟩ }

theorem givesUp_unanswered :
    (loopEvents (run withoutAttempts unanswered none 6).history).any isTrigger = false ∧
      (errorsSince (run withoutAttempts unanswered none 6).history).length = 1 ∧
      GivesUp withoutAttempts unanswered (run withoutAttempts unanswered none 6).state
        (run withoutAttempts unanswered none 6).history := by
  have reached : Reaches withoutAttempts unanswered .idle _ _ :=
    run_reaches withoutAttempts unanswered none 6
  exact ⟨rfl, rfl, reached.givesUpExactly rfl (by decide)⟩

end AtLeastOnce.Receiver
