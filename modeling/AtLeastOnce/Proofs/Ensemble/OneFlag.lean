import AtLeastOnce.Proofs.Ensemble.Progress
import AtLeastOnce.Proofs.Http.Health
import AtLeastOnce.Proofs.Receiver.GivingUp
import AtLeastOnce.Proofs.Receiver.Polling

/-!
# One flag stops everything

A receiver that gives up raises the flag for all.  From then on no receiver receives
anything, each leaves its loop, drains and returns, and the process says that it is not
ready, though it lives.
-/

namespace AtLeastOnce.Ensemble

open Receiver (NoIntake Returned permitLimit)

variable {ι : Type} [DecidableEq ι] {members : ι → Member} {state next : State ι}
  {who : ι} {history happenings more : List (Happening ι)}

/-! ## What one receiver that gives up brings about -/

/-- Whether a receiver has said that it gives up. -/
def HasGivenUp (who : ι) (history : List (Happening ι)) : Prop :=
  (Receiver.loopEvents (historyOf who history)).any Receiver.isGivingUp = true

theorem Reached.triggered_of_hasGivenUp (reached : Reached members state history)
    (givenUp : HasGivenUp who history) : state.shutdown.triggered = true := by
  have run := reached.ofReceiver who
  refine run.flagFollows.triggered ?_
  rw [← run.closing.givenUp]
  exact givenUp

/-- A receiver has panicked: before, or because there cannot be as many permits as it
asks for when it begins. -/
def Panicked (options : ReceiverOptions) (before after : Receiver.State) : Prop :=
  after.phase = .crashed ∧ (before.phase = .crashed ∨ permitLimit < options.capacity)

/-- What follows once the flag is up, wherever each receiver stands then. -/
structure AllStop (members : ι → Member) (state : State ι)
    (history : List (Happening ι)) : Prop where
  /-- No receiver calls a receive or starts a task. -/
  intake : ∀ {more next}, Steps members state more next → ∀ who,
    NoIntake (state.view who) (next.view who) (historyOf who more)
  /-- Each of those that run leaves its loop for the drain, -/
  drains : ∀ who, (state.view who).phase.isOver = false →
    Inevitably (Own members)
      (fun later => (later.view who).phase.isEnding = true ∨
        Panicked (members who).options (state.view who) (later.view who)) state
  /-- and all of them return, whatever outsiders do meanwhile. -/
  returns : ∀ {more next}, Steps members state more next →
    Inevitably (Own members)
      (fun final => ∀ who, (∃ result, (final.view who).phase = .stopped result) ∨
        Panicked (members who).options (state.view who) (final.view who)) next
  /-- Only those that have given up by now return the error of their receives. -/
  results : ∀ {more next}, Steps members state more next → ∀ who result,
    (next.view who).phase = .stopped result →
      Returned (members who).options (historyOf who history) result
  /-- The process lives, and is not ready. -/
  answers : ∀ {more next}, Steps members state more next → ∀ {time request answer},
    .answered time request answer ∈ more →
      (request.Fetches "/readyz" → answer.result.status = 503) ∧
        (request.Fetches "/healthz" → answer.result.status = 200)

theorem Move.answered (move : Move members state next happenings)
    {time : Nat} {request : Http.Request} {answer : Timed Http.Response}
    (member : .answered time request answer ∈ happenings) :
    answer = Http.healthRoutes.answer state.shutdown request := by
  cases move with
  | answers =>
      cases List.mem_singleton.mp member
      rfl
  | triggers => cases List.mem_singleton.mp member
  | advances => cases member
  | moves =>
      rcases List.mem_append.mp member with occurred | called
      · obtain ⟨_, _, other⟩ := List.mem_map.mp occurred
        cases other
      · unfold callsOf at called
        split at called
        · cases List.mem_singleton.mp called
        · cases called

theorem Steps.answered (steps : Steps members state happenings next)
    (runs : Runs members state) (raised : state.shutdown.triggered = true)
    {time : Nat} {request : Http.Request} {answer : Timed Http.Response}
    (member : .answered time request answer ∈ happenings) :
    ∃ shutdown : Shutdown, shutdown.triggered = true ∧
      answer = Http.healthRoutes.answer shutdown request := by
  induction steps with
  | refl => cases member
  | step steps stepped induction =>
      rcases List.mem_append.mp member with earlier | now
      · exact induction earlier
      · exact ⟨_, steps.triggered runs raised, (step?_cases stepped).answered now⟩

/-! ## Leaving the loop -/

/-- A receiver that runs is not over before it has left its loop, unless it panics as it
begins. -/
theorem Runs.drains [Fintype ι] (runs : Runs members state)
    (raised : state.shutdown.triggered = true)
    (running : (state.view who).phase.isOver = false) :
    Inevitably (Own members)
      (fun later => (later.view who).phase.isEnding = true ∨
        Panicked (members who).options (state.view who) (later.view who)) state := by
  refine Inevitably.imp_of_kept
    (fun here => (Runs members here ∧ here.shutdown.triggered = true) ∧
      ((here.view who).phase.isOver = true → permitLimit < (members who).options.capacity))
    ?_ ?_ (runs.allOver raised) ⟨⟨runs, raised⟩, ?_⟩
  · rintro here next ⟨⟨runs, raised⟩, beyond⟩ unmet ⟨action, happenings, _, _, stepped⟩
    have steps : Steps members here ([] ++ happenings) next := .step .refl stepped
    refine ⟨⟨steps.runs runs, steps.triggered runs raised⟩, ?_⟩
    cases (step?_cases stepped).seen runs who with
    | still same =>
        rw [same]
        exact beyond
    | steps stepped =>
        intro ended
        refine Nat.lt_of_not_le ?_
        intro permitted
        have running : (here.view who).phase.isOver = false :=
          eq_false_of_ne_true fun already => Nat.not_le.mpr (beyond already) permitted
        have within : (here.view who).phase.isEnding = false :=
          eq_false_of_ne_true fun ending => unmet (.inl ending)
        have still := (Receiver.step?_cases stepped).isOver_eq_false raised permitted
          running within
        rw [still] at ended
        cases ended
  -- It can be over now only if it was never allowed to begin.
  · rintro here ⟨⟨runs, _⟩, beyond⟩ ended
    obtain ⟨_, reached⟩ := runs who
    have isOver := ended who
    rcases reached.starting_or_crashed (beyond isOver) with starting | crashed
    · rw [starting] at isOver
      cases isOver
    · exact .inr ⟨crashed, .inr (beyond isOver)⟩
  · intro ended
    rw [running] at ended
    cases ended

/-- Whoever has not panicked is going to return. -/
theorem Runs.returns [Fintype ι] (runs : Runs members state)
    (raised : state.shutdown.triggered = true)
    (steps : Steps members state happenings next) :
    Inevitably (Own members)
      (fun final => ∀ who, (∃ result, (final.view who).phase = .stopped result) ∨
        Panicked (members who).options (state.view who) (final.view who)) next := by
  refine Inevitably.imp_of_kept (fun here => ∃ more, Steps members state more here)
    ?_ ?_ ((steps.runs runs).allOver (steps.triggered runs raised)) ⟨happenings, steps⟩
  · rintro here following ⟨more, steps⟩ _ ⟨action, _, _, _, stepped⟩
    exact ⟨_, .step steps stepped⟩
  · rintro here ⟨more, steps⟩ ended who
    obtain ⟨_, reached⟩ := runs who
    have isOver := ended who
    cases phase : (here.view who).phase with
    | stopped result => exact .inl ⟨result, rfl⟩
    | crashed =>
        refine .inr ⟨phase, ?_⟩
        by_contra sound
        obtain ⟨running, permitted⟩ := not_or.mp sound
        exact reached.phase_ne_crashed raised (Nat.le_of_not_lt permitted) running
          (steps.ofReceiver runs who) phase
    | starting | reaping | acquiring | requesting | receiving | pausing | backingOff
    | draining | abandoning =>
        rw [phase] at isOver
        cases isOver

theorem Reached.allStop [Fintype ι] (reached : Reached members state history)
    (raised : state.shutdown.triggered = true) : AllStop members state history where
  intake := by
    intro more next steps who
    exact (steps.ofReceiver reached.runs who).noIntake (reached.ofReceiver who) raised
  drains := fun _ running => reached.runs.drains raised running
  returns := reached.runs.returns raised
  results := by
    intro more next steps who result stopped
    exact (reached.ofReceiver who).returned raised (steps.ofReceiver reached.runs who)
      stopped
  answers := by
    intro more next steps time request answer member
    obtain ⟨shutdown, up, rfl⟩ := steps.answered reached.runs raised member
    constructor
    · intro fetches
      rw [(fetches.ready shutdown).2, if_pos up]
    · intro fetches
      exact (fetches.live shutdown).2

/-! ## The flag of a whole run -/

/-- What one flag is to everything that watches it. -/
structure OneFlag (members : ι → Member) (state : State ι)
    (history : List (Happening ι)) : Prop where
  /-- It is never lowered. -/
  raised : ∀ {more next}, Steps members state more next →
    state.shutdown.triggered = true → next.shutdown.triggered = true
  /-- Of all the calls that trigger the shutdown, the first raises it, and only that one
  is told so. -/
  flips : Flips state.shutdown (triggerResults history)
  /-- One receiver that gives up stops them all. -/
  stops : ∀ who, HasGivenUp who history → AllStop members state history

/-- Any number of receivers, however their steps and those of outsiders interleave, are
stopped by one flag. -/
theorem Reached.oneFlag [Fintype ι] (reached : Reached members state history) :
    OneFlag members state history where
  raised := fun steps => steps.triggered reached.runs
  flips := Steps.flips reached (runs_start members) .untouched
  stops := fun _ givenUp => reached.allStop (reached.triggered_of_hasGivenUp givenUp)

/-- One receiver gets no answer and gives up at once, the other gets two letters. -/
def unevenPair : Bool → Member
  | false => ⟨Receiver.withoutAttempts, Receiver.unanswered⟩
  | true => ⟨Receiver.letterOptions, Receiver.twoLetters⟩

/-- The other has just handed out its letters when the first gives up. -/
theorem oneFlag_unevenPair :
    ∃ state history,
      Reached unevenPair state history ∧ HasGivenUp false history ∧
        (state.view true).phase.isEnding = false ∧
        (state.view true).inFlight.length = 2 ∧
        OneFlag unevenPair state history := by
  have followed : (follow? unevenPair
      [.move true (.loop true), .move true (.loop true), .move true (.loop true),
        .move true (.loop true), .move true (.loop true),
        .move false (.loop true), .move false (.loop true), .move false (.loop true),
        .move false (.loop true), .advance 1, .move false (.loop true)]
      start).isSome = true := rfl
  have reached : Reached unevenPair _ _ :=
    steps_of_follow? (Option.some_get followed).symm
  exact ⟨_, _, reached, rfl, rfl, rfl, reached.oneFlag⟩

end AtLeastOnce.Ensemble
