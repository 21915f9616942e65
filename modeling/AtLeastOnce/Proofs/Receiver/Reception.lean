import AtLeastOnce.Proofs.Receiver.Closing
import AtLeastOnce.Proofs.Receiver.Origin

/-!
# Receives and how they end

How often a receive has been called and has ended, and the errors since the last
answer, are read off the history.  `Counted` relates them to what the receiver counts:
no receive is called while another is outstanding, and receiving is given up when the
errors are as many as the attempts that are allowed.
-/

namespace AtLeastOnce

/-- The failures in a row with which receiving is given up. -/
def Backoff.attempts (policy : Backoff) : Nat := Max.max 1 policy.maxAttempts

namespace Receiver

def isReceiveCall : Event → Bool
  | .receiveCalled _ => true
  | _ => false

def isReceiveEnd : Event → Bool
  | .receiveEnded _ => true
  | _ => false

def callsOf (history : List Occurrence) : Nat :=
  (loopEvents history).countP isReceiveCall

def endsOf (history : List Occurrence) : Nat :=
  (loopEvents history).countP isReceiveEnd

/-- An answer makes up for the failures before it, also an answer without messages. -/
def recordEnd (errors : List CallError) : Event → List CallError
  | .receiveEnded (.answered _) => []
  | .receiveEnded (.failed error) => errors ++ [error]
  | _ => errors

/-- The errors of the receives that have failed since the last answer. -/
def errorsSince (history : List Occurrence) : List CallError :=
  (loopEvents history).foldl recordEnd []

def Phase.isReceiving : Phase → Bool
  | .receiving _ _ => true
  | _ => false

/-- Whether the loop has been left, or the run is over. -/
def Phase.hasLeft : Phase → Bool
  | .draining _ => true
  | .abandoning => true
  | .stopped _ => true
  | .crashed => true
  | _ => false

namespace Phase

variable {phase : Phase}

theorem hasLeft_of_isReceiving (receiving : phase.isReceiving = true) :
    phase.hasLeft = false := by
  cases phase with
  | receiving => rfl
  | starting | reaping | acquiring | requesting | pausing | backingOff | draining
  | abandoning | stopped | crashed => cases receiving

theorem isEnding_of_isReceiving (receiving : phase.isReceiving = true) :
    phase.isEnding = false := by
  cases phase with
  | receiving => rfl
  | starting | reaping | acquiring | requesting | pausing | backingOff | draining
  | abandoning | stopped | crashed => cases receiving

end Phase

/-! ## What one step receives -/

/-- A step in which receiving is not given up, and nobody is told to stop. -/
structure KeepsUp (state next : State) : Prop where
  shutdown : next.shutdown = state.shutdown
  givenUp : next.givenUp = state.givenUp

inductive Reception (options : ReceiverOptions) (state : State) :
    State → List Event → Prop where
  | none {next : State} {made : List Event}
      (keeps : KeepsUp state next)
      (others : ∀ event ∈ made, isReceive event = false)
      (receives : next.receives = state.receives)
      (failures : next.failures = state.failures)
      (phase : next.phase.hasLeft = false →
        state.phase.hasLeft = false ∧
          next.phase.isReceiving = state.phase.isReceiving) :
      Reception options state next made
  | calls {next : State} {request : ReceiveRequest}
      (keeps : KeepsUp state next)
      (before : state.phase = .requesting request)
      (after : next.phase.isReceiving = true)
      (receives : next.receives = state.receives + 1)
      (failures : next.failures = state.failures) :
      Reception options state next [.receiveCalled request]
  | answers {next : State} {deliveries : List Delivery} {made : List Event}
      (keeps : KeepsUp state next)
      (untriggered : state.shutdown.triggered = false)
      (before : state.phase.isReceiving = true)
      (after : next.phase.isReceiving = false)
      (receives : next.receives = state.receives)
      (failures : next.failures = 0)
      (others : ∀ event ∈ made, isReceive event = false) :
      Reception options state next (.receiveEnded (.answered deliveries) :: made)
  | fails {next : State} {error : CallError} {made : List Event}
      (keeps : KeepsUp state next)
      (untriggered : state.shutdown.triggered = false)
      (before : state.phase.isReceiving = true)
      (after : next.phase.isReceiving = false)
      (receives : next.receives = state.receives)
      (failures : next.failures = failuresAfter state)
      (allowed : options.backoff.allowsRetry (failuresAfter state) = true)
      (others : ∀ event ∈ made, isReceive event = false) :
      Reception options state next (.receiveEnded (.failed error) :: made)
  | givesUp {next : State} {error : CallError} {made : List Event}
      (untriggered : state.shutdown.triggered = false)
      (before : state.phase.isReceiving = true)
      (after : ∃ deadline, next.phase = .draining deadline)
      (receives : next.receives = state.receives)
      (exhausted : options.backoff.allowsRetry (failuresAfter state) = false)
      (triggered : next.shutdown.triggered = true)
      (givenUp : next.givenUp = some
        (.pollRetriesExhausted options.queueUrl (failuresAfter state) error))
      (inFlight : next.inFlight = state.inFlight)
      (others : ∀ event ∈ made, isReceive event = false) :
      Reception options state next (.receiveEnded (.failed error) :: made)
  | breaks {next : State} {text : String}
      (keeps : KeepsUp state next)
      (before : state.phase.isReceiving = true)
      (after : next.phase.hasLeft = true)
      (receives : next.receives = state.receives)
      (failures : next.failures = state.failures) :
      Reception options state next [.receiveEnded (.panicked text)]

variable {options : ReceiverOptions} {world : World} {shutdown : Shutdown}
  {state next : State} {history events : List Occurrence} {made : List Event}

theorem isReceive_of_enter {worker : WorkerState} :
    ∀ event ∈ (enter options state worker).2, isReceive event = false := by
  intro event member
  rw [mem_enter_events member]
  rfl

theorem isReceive_of_reap : ∀ event ∈ (reap state).2, isReceive event = false := by
  intro event member
  obtain ⟨text, rfl⟩ := mem_reap_events member
  rfl

theorem isReceive_of_beginDrain :
    ∀ event ∈ (beginDrain options state).2, isReceive event = false := by
  intro event member
  rcases mem_beginDrain_events member with rfl | rfl <;> rfl

theorem isReceive_of_finish :
    ∀ event ∈ (finish options state).2, isReceive event = false := by
  intro event member
  rcases mem_finish_events member with rfl | rfl <;> rfl

theorem isReceive_append {more : List Event}
    (first : ∀ event ∈ made, isReceive event = false)
    (second : ∀ event ∈ more, isReceive event = false) :
    ∀ event ∈ made ++ more, isReceive event = false := by
  intro event member
  rcases List.mem_append.mp member with earlier | later
  · exact first event earlier
  · exact second event later

theorem LoopMove.reception (move : LoopMove options world state (next, made)) :
    Reception options state next made := by
  generalize same : (next, made) = result at move
  cases move with
  | refuse =>
      cases same
      exact .none ⟨rfl, rfl⟩ (by simp) rfl rfl (by simp [Phase.hasLeft])
  | begin phase =>
      cases same
      exact .none ⟨rfl, rfl⟩ (by simp [isReceive]) rfl rfl
        (by simp [phase, Phase.hasLeft, Phase.isReceiving])
  | goOn phase =>
      cases same
      exact .none ⟨rfl, rfl⟩ isReceive_of_reap rfl rfl
        (by simp [phase, Phase.hasLeft, Phase.isReceiving])
  | ask phase =>
      cases same
      exact .none ⟨rfl, rfl⟩ isReceive_of_enter rfl rfl
        (by simp [phase, Phase.hasLeft, Phase.isReceiving])
  | resume phase =>
      cases same
      refine .none ⟨rfl, rfl⟩ (by simp) rfl rfl ?_
      rcases phase with phase | phase <;> simp [phase, Phase.hasLeft, Phase.isReceiving]
  | leaveHead =>
      cases same
      exact .none ⟨by simp [reap_eq], by simp [reap_eq]⟩
        (isReceive_append isReceive_of_reap isReceive_of_beginDrain) (by simp [reap_eq])
        (by simp [reap_eq]) (by simp [Phase.hasLeft])
  | leave =>
      cases same
      exact .none ⟨by simp, by simp⟩ isReceive_of_beginDrain (by simp) (by simp)
        (by simp [Phase.hasLeft])
  | call phase =>
      cases same
      exact .calls ⟨rfl, rfl⟩ phase rfl rfl rfl
  | answer phase untriggered =>
      cases same
      refine .answers ⟨by simp, by simp⟩ untriggered (by rw [phase]; rfl) ?_ (by simp)
        (by simp) ?_
      · simp only [onDeliveries_fst]
        split <;> rfl
      · intro event member
        rcases mem_onDeliveries_events member with rfl | rfl | rfl | rfl <;> rfl
  | retry phase untriggered _ _ allowed =>
      cases same
      exact .fails ⟨rfl, rfl⟩ untriggered (by rw [phase]; rfl) rfl rfl rfl allowed
        (by simp [isReceive])
  | unsampled phase untriggered _ _ allowed =>
      cases same
      exact .fails ⟨rfl, rfl⟩ untriggered (by rw [phase]; rfl) rfl rfl rfl allowed (by simp)
  | giveUp phase untriggered _ _ exhausted =>
      cases same
      refine .givesUp untriggered (by rw [phase]; rfl) ⟨_, by rw [beginDrain_fst]⟩
        (by simp [givingUp]) exhausted (by simp [givingUp, Shutdown.trigger])
        (by simp [givingUp]) (by simp [givingUp]) ?_
      intro event member
      rcases List.mem_cons.mp member with rfl | later
      · rfl
      · exact isReceive_of_beginDrain event later
  | breakOff phase =>
      cases same
      exact .breaks ⟨rfl, rfl⟩ (by rw [phase]; rfl) rfl rfl rfl
  | join =>
      cases same
      exact .none ⟨rfl, rfl⟩ isReceive_of_reap rfl rfl fun here => ⟨here, rfl⟩
  | abandon =>
      cases same
      refine .none ⟨rfl, rfl⟩ (isReceive_append isReceive_of_reap ?_) rfl rfl
        (by simp [Phase.hasLeft])
      simp [isReceive]
  | finish =>
      cases same
      exact .none ⟨by simp [reap_eq], by simp [reap_eq]⟩
        (isReceive_append isReceive_of_reap isReceive_of_finish) (by simp [reap_eq])
        (by simp [reap_eq]) (by simp [Phase.hasLeft])

/-! ## What is counted -/

@[simp] theorem callsOf_append (history later : List Occurrence) :
    callsOf (history ++ later) = callsOf history + callsOf later := by
  simp [callsOf]

@[simp] theorem endsOf_append (history later : List Occurrence) :
    endsOf (history ++ later) = endsOf history + endsOf later := by
  simp [endsOf]

theorem errorsSince_append (history later : List Occurrence) :
    errorsSince (history ++ later) =
      (loopEvents later).foldl recordEnd (errorsSince history) := by
  simp [errorsSince]

theorem isReceiveCall_of_isReceive {event : Event} (other : isReceive event = false) :
    isReceiveCall event = false := by
  unfold isReceiveCall
  split
  · cases other
  · rfl

theorem isReceiveEnd_of_isReceive {event : Event} (other : isReceive event = false) :
    isReceiveEnd event = false := by
  unfold isReceiveEnd
  split
  · cases other
  · rfl

theorem recordEnd_of_isReceive (errors : List CallError) {event : Event}
    (other : isReceive event = false) : recordEnd errors event = errors := by
  unfold recordEnd
  split
  · cases other
  · cases other
  · rfl

theorem countP_of_isReceive {counts : Event → Bool}
    (other : ∀ {event}, isReceive event = false → counts event = false)
    (others : ∀ event ∈ made, isReceive event = false) : made.countP counts = 0 := by
  refine List.countP_eq_zero.mpr ?_
  intro event member
  rw [other (others event member)]
  exact Bool.false_ne_true

theorem foldl_recordEnd (others : ∀ event ∈ made, isReceive event = false)
    (errors : List CallError) : made.foldl recordEnd errors = errors := by
  induction made with
  | nil => rfl
  | cons event made induction =>
      rw [List.foldl_cons, recordEnd_of_isReceive errors (others event List.mem_cons_self)]
      exact induction fun later member => others later (List.mem_cons_of_mem _ member)

/-- What is counted of the receives by the time a state is reached. -/
structure Counted (options : ReceiverOptions) (state : State)
    (history : List Occurrence) : Prop where
  receives : state.receives = callsOf history
  /-- One receive is outstanding while the loop waits for it, and otherwise none. -/
  outstanding : state.phase.hasLeft = false →
    callsOf history = endsOf history + if state.phase.isReceiving then 1 else 0
  bounds : endsOf history ≤ callsOf history ∧ callsOf history ≤ endsOf history + 1
  failing : state.givenUp = none →
    state.failures = (errorsSince history).length ∧
      (errorsSince history).length < options.backoff.attempts
  failed : ∀ failure, state.givenUp = some failure →
    state.shutdown.triggered = true ∧
      (errorsSince history).length = options.backoff.attempts ∧
      ∃ error, (errorsSince history).getLast? = some error ∧
        failure =
          .pollRetriesExhausted options.queueUrl options.backoff.attempts error

namespace Counted

theorem start (options : ReceiverOptions) (shutdown : Shutdown) :
    Counted options (start shutdown) [] where
  receives := rfl
  outstanding := fun _ => rfl
  bounds := ⟨Nat.le_refl _, Nat.le_succ _⟩
  failing := fun _ => ⟨rfl, Nat.le_max_left 1 _⟩
  failed := by simp [Receiver.start]

variable (counted : Counted options state history)
include counted

theorem others (receives : next.receives = state.receives)
    (failures : next.failures = state.failures) (givenUp : next.givenUp = state.givenUp)
    (triggered : state.shutdown.triggered = true → next.shutdown.triggered = true)
    (phase : next.phase.hasLeft = false →
      state.phase.hasLeft = false ∧ next.phase.isReceiving = state.phase.isReceiving)
    (others : ∀ event ∈ loopEvents events, isReceive event = false) :
    Counted options next (history ++ events) := by
  have calls : callsOf (history ++ events) = callsOf history := by
    rw [callsOf_append, callsOf, callsOf,
      countP_of_isReceive isReceiveCall_of_isReceive others, Nat.add_zero]
  have ends : endsOf (history ++ events) = endsOf history := by
    rw [endsOf_append, endsOf, endsOf,
      countP_of_isReceive isReceiveEnd_of_isReceive others, Nat.add_zero]
  have errors : errorsSince (history ++ events) = errorsSince history := by
    rw [errorsSince_append, foldl_recordEnd others]
  constructor
  · rw [receives, calls, counted.receives]
  · intro here
    obtain ⟨before, same⟩ := phase here
    rw [calls, ends, same]
    exact counted.outstanding before
  · rw [calls, ends]
    exact counted.bounds
  · rw [errors, failures, givenUp]
    exact counted.failing
  · intro failure same
    rw [givenUp] at same
    obtain ⟨before, rest⟩ := counted.failed failure same
    rw [errors]
    exact ⟨triggered before, rest⟩

/-- As long as nobody has been told to stop, receiving has not been given up. -/
theorem givenUp_eq_none (untriggered : state.shutdown.triggered = false) :
    state.givenUp = none := by
  cases givenUp : state.givenUp with
  | none => rfl
  | some failure =>
      rw [(counted.failed failure givenUp).1] at untriggered
      cases untriggered

theorem ends {ended : CallEnd (List Delivery)}
    (before : state.phase.isReceiving = true)
    (after : next.phase.isReceiving = false ∨ next.phase.hasLeft = true)
    (receives : next.receives = state.receives)
    (others : ∀ event ∈ made, isReceive event = false)
    (failing : next.givenUp = none →
      next.failures = (recordEnd (errorsSince history) (.receiveEnded ended)).length ∧
        (recordEnd (errorsSince history) (.receiveEnded ended)).length <
          options.backoff.attempts)
    (failed : ∀ failure, next.givenUp = some failure →
      next.shutdown.triggered = true ∧
        (recordEnd (errorsSince history) (.receiveEnded ended)).length =
          options.backoff.attempts ∧
        ∃ error,
          (recordEnd (errorsSince history) (.receiveEnded ended)).getLast? = some error ∧
            failure =
              .pollRetriesExhausted options.queueUrl options.backoff.attempts error) :
    Counted options next
      (history ++ occurrences state.now none (.receiveEnded ended :: made)) := by
  have outstanding := counted.outstanding (Phase.hasLeft_of_isReceiving before)
  rw [before, if_pos rfl] at outstanding
  have calls : callsOf (history ++
      occurrences state.now none (.receiveEnded ended :: made)) = callsOf history := by
    rw [callsOf_append, callsOf, callsOf, loopEvents_occurrences_none, List.countP_cons,
      countP_of_isReceive isReceiveCall_of_isReceive others]
    rfl
  have ends : endsOf (history ++
      occurrences state.now none (.receiveEnded ended :: made)) = endsOf history + 1 := by
    rw [endsOf_append, endsOf, endsOf, loopEvents_occurrences_none, List.countP_cons,
      countP_of_isReceive isReceiveEnd_of_isReceive others]
    rfl
  have errors : errorsSince (history ++
      occurrences state.now none (.receiveEnded ended :: made)) =
        recordEnd (errorsSince history) (.receiveEnded ended) := by
    rw [errorsSince_append, loopEvents_occurrences_none, List.foldl_cons,
      foldl_recordEnd others]
  rw [← errors] at failing failed
  refine ⟨?_, ?_, ?_, failing, failed⟩
  · rw [receives, calls, counted.receives]
  · intro here
    rcases after with free | left
    · rw [calls, ends, free, outstanding]
      rfl
    · rw [left] at here
      cases here
  · rw [calls, ends, outstanding]
    omega

/-- One more failure counts as one more, also at the greatest number that is counted. -/
theorem failuresAfter_eq (bounded : options.backoff.maxAttempts ≤ failureLimit)
    (keptUp : state.givenUp = none) :
    failuresAfter state = (errorsSince history).length + 1 := by
  obtain ⟨failures, fewer⟩ := counted.failing keptUp
  -- The counter saturates, but there were fewer errors than attempts, and those are
  -- no more than it can count.
  have positive : 1 ≤ failureLimit := by decide
  unfold Backoff.attempts at fewer
  unfold failuresAfter
  omega

theorem calls {request : ReceiveRequest} (keeps : KeepsUp state next)
    (before : state.phase = .requesting request) (after : next.phase.isReceiving = true)
    (receives : next.receives = state.receives + 1)
    (failures : next.failures = state.failures) :
    Counted options next
      (history ++ occurrences state.now none [.receiveCalled request]) := by
  have outstanding := counted.outstanding (by rw [before]; rfl)
  rw [before] at outstanding
  have none : callsOf history = endsOf history := outstanding
  have calls : callsOf (history ++
      occurrences state.now Option.none [.receiveCalled request]) =
        callsOf history + 1 := by
    rw [callsOf_append]
    rfl
  have ends : endsOf (history ++
      occurrences state.now Option.none [.receiveCalled request]) = endsOf history := by
    rw [endsOf_append]
    rfl
  have errors : errorsSince (history ++
      occurrences state.now Option.none [.receiveCalled request]) = errorsSince history := by
    rw [errorsSince_append]
    rfl
  constructor
  · rw [receives, calls, counted.receives]
  · intro _
    rw [calls, ends, none, after]
    rfl
  · rw [calls, ends, none]
    omega
  · rw [errors, failures, keeps.givenUp]
    exact counted.failing
  · rw [errors, keeps.shutdown, keeps.givenUp]
    exact counted.failed

theorem loop (bounded : options.backoff.maxAttempts ≤ failureLimit)
    (reception : Reception options state next made) :
    Counted options next (history ++ occurrences state.now none made) := by
  cases reception with
  | none keeps others receives failures phase =>
      refine counted.others receives failures keeps.givenUp ?_ phase ?_
      · rw [keeps.shutdown]
        exact id
      · rw [loopEvents_occurrences_none]
        exact others
  | calls keeps before after receives failures =>
      exact counted.calls keeps before after receives failures
  | answers keeps untriggered before after receives failures others =>
      have keptUp := keeps.givenUp.trans (counted.givenUp_eq_none untriggered)
      refine counted.ends before (.inl after) receives others ?_ ?_
      · intro _
        exact ⟨failures, Nat.le_max_left 1 _⟩
      · intro failure given
        rw [keptUp] at given
        cases given
  | @fails error _ keeps untriggered before after receives failures allowed others =>
      have unspent := counted.givenUp_eq_none untriggered
      have keptUp := keeps.givenUp.trans unspent
      have more := counted.failuresAfter_eq bounded unspent
      have longer : (recordEnd (errorsSince history) (.receiveEnded (.failed error))).length =
          failuresAfter state := by
        rw [more]
        exact List.length_append
      refine counted.ends before (.inl after) receives others ?_ ?_
      · intro _
        refine ⟨failures.trans longer.symm, ?_⟩
        rw [longer]
        exact Nat.lt_of_lt_of_le (of_decide_eq_true allowed) (Nat.le_max_right 1 _)
      · intro failure given
        rw [keptUp] at given
        cases given
  | @givesUp error _ untriggered before after receives exhausted triggered givenUp inFlight
      others =>
      have unspent := counted.givenUp_eq_none untriggered
      have more := counted.failuresAfter_eq bounded unspent
      have fewer := (counted.failing unspent).2
      have spent : failuresAfter state = options.backoff.attempts := by
        have reached := of_decide_eq_false exhausted
        unfold Backoff.attempts at fewer ⊢
        omega
      obtain ⟨deadline, phase⟩ := after
      refine counted.ends before (.inr (by rw [phase]; rfl)) receives others ?_ ?_
      · intro given
        rw [givenUp] at given
        cases given
      · intro failure given
        rw [givenUp, spent] at given
        refine ⟨triggered, ?_, error, List.getLast?_concat, (Option.some.inj given).symm⟩
        rw [← spent, more]
        exact List.length_append
  | breaks keeps before after receives failures =>
      refine counted.ends before (.inr after) receives (by simp) ?_ ?_
      · rw [failures, keeps.givenUp]
        exact counted.failing
      · rw [keeps.shutdown, keeps.givenUp]
        exact counted.failed

theorem step (bounded : options.backoff.maxAttempts ≤ failureLimit)
    (move : Move options world state next events) :
    Counted options next (history ++ events) := by
  cases move with
  | loop move => exact counted.loop bounded move.reception
  | trigger =>
      refine counted.others rfl rfl rfl (fun _ => rfl) (fun here => ⟨here, rfl⟩) ?_
      simp [isReceive]
  | task =>
      exact counted.others rfl rfl rfl id (fun here => ⟨here, rfl⟩) (by simp)
  | cut | advance => exact counted.others rfl rfl rfl id (fun here => ⟨here, rfl⟩) (by simp)

end Counted

theorem Reaches.counted (reached : Reaches options world shutdown state history)
    (bounded : options.backoff.maxAttempts ≤ failureLimit) :
    Counted options state history := by
  induction reached with
  | start => exact .start options shutdown
  | step _ stepped induction => exact induction.step bounded (step?_cases stepped)

end Receiver

end AtLeastOnce
