import AtLeastOnce.Proofs.Receiver.History
import AtLeastOnce.Proofs.Receiver.Transition

/-!
# How a run ends

The run announces its totals once, when it stops, and stops only when no task is
left.  It has given up on receives when it has said so, and its result follows
from both.
-/

namespace AtLeastOnce.Receiver

/-- What the loop has done, and when it was told to stop. -/
def loopEvents (history : List Occurrence) : List Event :=
  (history.filter fun occurrence => occurrence.task = none).map Occurrence.event

@[simp] theorem loopEvents_append (history later : List Occurrence) :
    loopEvents (history ++ later) = loopEvents history ++ loopEvents later := by
  simp [loopEvents]

@[simp] theorem loopEvents_nil : loopEvents [] = [] := rfl

@[simp] theorem loopEvents_occurrences_none (time : Nat) (events : List Event) :
    loopEvents (occurrences time none events) = events := by
  simp [loopEvents, occurrences, List.filter_map, Function.comp_def]

@[simp] theorem loopEvents_occurrences_some (time number : Nat)
    (events : List Event) :
    loopEvents (occurrences time (some number) events) = [] := by
  simp [loopEvents, occurrences, List.filter_map]

/-- The totals that are announced when the receiver stops. -/
def stoppedTotals? : Event → Option Totals
  | .logged (.receiverStopped _ totals) => some totals
  | _ => none

/-- Whether the loop says that it gives up on receives. -/
def isGivingUp : Event → Bool
  | .logged (.receivingGivenUp _ _ _) => true
  | _ => false

/-- What is announced by the time a state is reached. -/
def announced (state : State) : List Totals :=
  match state.phase with
  | .stopped _ => [state.totals]
  | _ => []

structure Closing (options : ReceiverOptions) (state : State)
    (history : List Occurrence) : Prop where
  announced : (loopEvents history).filterMap stoppedTotals? = announced state
  result : ∀ result, state.phase = .stopped result →
    result = finalResult options state ∧ state.inFlight = []
  givenUp : (loopEvents history).any isGivingUp = state.givenUp.isSome

variable {options : ReceiverOptions} {world : World} {shutdown : Shutdown}
  {state next : State} {history events : List Occurrence} {made : List Event}

theorem announced_eq_nil (running : ∀ result, state.phase ≠ .stopped result) :
    announced state = [] := by
  unfold announced
  split
  · rename_i result stopped
    exact (running result stopped).elim
  · rfl

/-! ## The moves of the loop -/

namespace LoopMove

/-- The loop does not move once it has stopped. -/
theorem not_stopped {result : Result} (move : LoopMove options world state result)
    (ended : Except Failure Totals) : state.phase ≠ .stopped ended := by
  intro stopped
  cases move with
  | refuse phase | begin phase | goOn phase | leaveHead phase | ask phase | call phase
  | answer phase | retry phase | unsampled phase | giveUp phase | breakOff phase
  | abandon phase =>
      rw [stopped] at phase
      cases phase
  | resume phase =>
      rcases phase with phase | phase <;> rw [stopped] at phase <;> cases phase
  | leave waiting =>
      rw [stopped] at waiting
      cases waiting
  | join ending | finish ending =>
      rw [stopped] at ending
      cases ending

/-- It stops in one way only. -/
theorem finish_of_stopped {result : Except Failure Totals}
    (move : LoopMove options world state (next, made))
    (stopped : next.phase = .stopped result) :
    runningTasks state.inFlight = [] ∧
      (next, made) =
        ((Receiver.finish options (reap state).1).1,
          (reap state).2 ++ (Receiver.finish options (reap state).1).2) := by
  generalize same : (next, made) = all at move
  cases move with
  | finish _ joined => exact ⟨joined, rfl⟩
  | join ending =>
      cases same
      have unchanged : state.phase = .stopped result := stopped
      rw [unchanged] at ending
      cases ending
  | answer =>
      cases same
      simp only [onDeliveries_fst] at stopped
      split at stopped <;> cases stopped
  | refuse | begin | goOn | ask | call | retry | unsampled | breakOff | resume
  | abandon =>
      cases same
      cases stopped
  | leave | leaveHead | giveUp =>
      cases same
      simp only [beginDrain_fst] at stopped
      cases stopped

theorem stoppedTotals_eq (move : LoopMove options world state (next, made)) :
    made.filterMap stoppedTotals? = Receiver.announced next := by
  have others : ∀ event ∈ made, (∃ result, next.phase = .stopped result) ∨
      stoppedTotals? event = none := by
    intro event member
    cases move.ofLoop member with
    | receiverStopped phase => exact .inl ⟨_, phase⟩
    | receiveCalled | receiveEnded | receivingGivenUp | receiverStarted | stateChanged
    | noMessages | receiveRecovered | surplusReceived | receiveFailed | draining
    | graceElapsed | taskFailed => exact .inr rfl
  by_cases stopped : ∃ result, next.phase = .stopped result
  · obtain ⟨result, stopped⟩ := stopped
    obtain ⟨_, same⟩ := move.finish_of_stopped stopped
    cases same
    have reaped : (reap state).2.filterMap stoppedTotals? = [] := by
      refine List.filterMap_eq_nil_iff.mpr ?_
      intro event member
      obtain ⟨text, rfl⟩ := mem_reap_events member
      rfl
    have entered : ∀ before : State,
        (enter options before .stopped).2.filterMap stoppedTotals? = [] := by
      intro before
      refine List.filterMap_eq_nil_iff.mpr ?_
      intro event member
      rw [mem_enter_events member]
      rfl
    rw [List.filterMap_append, reaped]
    simp [Receiver.finish, entered, stoppedTotals?, Receiver.announced]
  · have running : ∀ result, next.phase ≠ .stopped result := not_exists.mp stopped
    rw [announced_eq_nil running]
    refine List.filterMap_eq_nil_iff.mpr ?_
    intro event member
    exact (others event member).resolve_left stopped

/-- Receiving is given up by a move that says so, while nobody has asked to stop. -/
theorem givenUp_cases (move : LoopMove options world state (next, made)) :
    next.givenUp = state.givenUp ∨
      state.shutdown.triggered = false ∧ next.givenUp.isSome = true ∧
        made.any isGivingUp = true := by
  generalize same : (next, made) = all at move
  cases move with
  | giveUp _ untriggered =>
      cases same
      exact .inr ⟨untriggered, by simp [givingUp], by simp [isGivingUp]⟩
  | refuse | begin | goOn | leaveHead | ask | call | leave | answer | retry | unsampled
  | breakOff | resume | join | abandon | finish =>
      cases same
      left
      first | rfl | simp [reap_eq]

theorem givenUp_eq (move : LoopMove options world state (next, made)) :
    (state.givenUp.isSome || made.any isGivingUp) = next.givenUp.isSome := by
  rcases move.givenUp_cases with kept | ⟨_, givenUp, said⟩
  · have only : made.any isGivingUp = true → state.givenUp.isSome = true := by
      intro said
      obtain ⟨event, member, givingUp⟩ := List.any_eq_true.mp said
      rw [← kept]
      cases move.ofLoop member with
      | receivingGivenUp _ _ _ givenUp => exact givenUp
      | receiveCalled | receiveEnded | receiverStopped | receiverStarted | stateChanged
      | noMessages | receiveRecovered | surplusReceived | receiveFailed | draining
      | graceElapsed | taskFailed => cases givingUp
    rw [kept, Bool.eq_iff_iff, Bool.or_eq_true]
    exact ⟨fun either => either.elim id only, .inl⟩
  · rw [givenUp, said, Bool.or_true]

/-- It stops with the result that the end of the run gives, and no task is left. -/
theorem result_eq {result : Except Failure Totals}
    (move : LoopMove options world state (next, made))
    (stopped : next.phase = .stopped result) :
    result = finalResult options next ∧ next.inFlight = [] := by
  obtain ⟨joined, same⟩ := move.finish_of_stopped stopped
  cases same
  simp only [finish_fst, Phase.stopped.injEq] at stopped ⊢
  rw [← stopped]
  exact ⟨rfl, joined⟩

end LoopMove

/-! ## Every run -/

namespace Closing

theorem start (options : ReceiverOptions) (shutdown : Shutdown) :
    Closing options (start shutdown) [] where
  announced := rfl
  result := by simp [Receiver.start]
  givenUp := rfl

variable (closing : Closing options state history)
include closing

/-- A step that leaves the loop where it is. -/
theorem elsewhere (unannounced : (loopEvents events).filterMap stoppedTotals? = [])
    (unsaid : (loopEvents events).any isGivingUp = false)
    (phase : next.phase = state.phase) (totals : next.totals = state.totals)
    (givenUp : next.givenUp = state.givenUp)
    (inFlight : (∃ result, state.phase = .stopped result) →
      next.inFlight = state.inFlight) :
    Closing options next (history ++ events) where
  announced := by
    have same : Receiver.announced next = Receiver.announced state := by
      simp only [Receiver.announced, phase, totals]
    rw [loopEvents_append, List.filterMap_append, unannounced, List.append_nil,
      same, closing.announced]
  result := by
    intro result stopped
    rw [phase] at stopped
    obtain ⟨final, nothing⟩ := closing.result result stopped
    rw [inFlight ⟨result, stopped⟩, final]
    simp [finalResult, totals, givenUp, nothing]
  givenUp := by
    rw [loopEvents_append, List.any_append, unsaid, Bool.or_false, closing.givenUp,
      givenUp]

theorem step (move : Move options world state next events) :
    Closing options next (history ++ events) := by
  cases move with
  | trigger =>
      exact closing.elsewhere (by simp [stoppedTotals?])
        (by simp [isGivingUp]) rfl rfl rfl
        fun _ => rfl
  | advance => exact closing.elsewhere rfl rfl rfl rfl rfl fun _ => rfl
  | task running =>
      refine closing.elsewhere (by simp) (by simp) rfl rfl rfl ?_
      rintro ⟨result, stopped⟩
      rw [stopped] at running
      cases running
  | cut phase =>
      refine closing.elsewhere rfl rfl rfl rfl rfl ?_
      rintro ⟨result, stopped⟩
      rw [stopped] at phase
      cases phase
  | loop move =>
      constructor
      · rw [loopEvents_append, loopEvents_occurrences_none, List.filterMap_append,
          closing.announced, move.stoppedTotals_eq,
          announced_eq_nil move.not_stopped, List.nil_append]
      · intro result stopped
        exact move.result_eq stopped
      · rw [loopEvents_append, loopEvents_occurrences_none, List.any_append,
          closing.givenUp, move.givenUp_eq]

end Closing

theorem Reaches.closing (reached : Reaches options world shutdown state history) :
    Closing options state history := by
  induction reached with
  | start => exact .start options shutdown
  | step _ stepped induction => exact induction.step (step?_cases stepped)

end AtLeastOnce.Receiver
