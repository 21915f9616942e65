import AtLeastOnce.Proofs.Receiver.Reception
import AtLeastOnce.Proofs.Receiver.Schedule

/-!
# The states of the worker

The loop announces each change of its state and keeps silent while it stays in one.
`Turn` is what a single move of the loop can do to the state, and `Way` is what the
moves of a run add up to: rounds of polling and dispatching, then the drain, then the
end.
-/

namespace AtLeastOnce.Receiver

/-! ## What is announced -/

structure Change where
  before : WorkerState
  after : WorkerState
  deriving DecidableEq, Repr

/-- The change of state that an event announces. -/
def change? : Event → Option Change
  | .logged (.stateChanged _ before after) => some ⟨before, after⟩
  | _ => none

def changesOf (history : List Occurrence) : List Change :=
  (loopEvents history).filterMap change?

/-- The states that the worker has been in, with the one that it begins in. -/
def statesOf (history : List Occurrence) : List WorkerState :=
  .idle :: (changesOf history).map Change.after

/-- Whether an answer is acted on that holds messages. -/
def bringsMessages : Event → Bool
  | .receiveEnded (.answered deliveries) => !deliveries.isEmpty
  | _ => false

def batchesOf (history : List Occurrence) : Nat :=
  (loopEvents history).countP bringsMessages

/-- What is announced on the way from one state to another. -/
def changeTo (before after : WorkerState) : List Change :=
  if before = after then [] else [⟨before, after⟩]

/-! ## What a move does -/

/-- Whether the loop has not been left in a state. -/
def isAtWork : WorkerState → Bool
  | .idle => true
  | .polling => true
  | .dispatching => true
  | .draining => false
  | .stopped => false

/-- The states that the worker can be in while the loop is at a place. -/
def Phase.suits : Phase → WorkerState → Prop
  | .starting, worker => worker = .idle
  | .reaping, worker => isAtWork worker = true
  | .acquiring, worker => isAtWork worker = true
  | .requesting _, worker => worker = .polling
  | .receiving _ _, worker => worker = .polling
  | .pausing _, worker => worker = .polling
  | .backingOff _, worker => worker = .polling
  | .draining _, worker => worker = .draining
  | .abandoning, worker => worker = .draining
  | .stopped _, worker => worker = .stopped
  | .crashed, _ => True

/-- The changes that the worker may make, each with the answers that it is made for. -/
inductive Edge : WorkerState → WorkerState → Nat → Prop where
  | begins : Edge .idle .polling 0
  | dispatches : Edge .polling .dispatching 1
  | pollsAgain : Edge .dispatching .polling 0
  | drains {worker : WorkerState} (atWork : isAtWork worker = true) :
      Edge worker .draining 0
  | stops : Edge .draining .stopped 0

/-- What a move of the loop does to the state of the worker. -/
structure Turn (state next : State) (made : List Event) : Prop where
  suits : next.phase.suits next.worker
  announced : made.filterMap change? = changeTo state.worker next.worker
  edge : next.worker = state.worker ∧ made.countP bringsMessages = 0 ∨
    Edge state.worker next.worker (made.countP bringsMessages)

variable {options : ReceiverOptions} {world : World} {shutdown : Shutdown}
  {state next : State} {history events : List Occurrence} {made : List Event}

theorem isAtWork_of_suits (suits : state.phase.suits state.worker)
    (waiting : state.phase.isWaiting = true) : isAtWork state.worker = true := by
  cases phase : state.phase with
  | acquiring =>
      rw [phase] at suits
      exact suits
  | requesting | receiving | pausing | backingOff =>
      rw [phase] at suits
      rw [show state.worker = .polling from suits]
      rfl
  | starting | reaping | draining | abandoning | stopped | crashed =>
      rw [phase] at waiting
      cases waiting

theorem draining_of_suits (suits : state.phase.suits state.worker)
    (ending : state.phase.isEnding = true) : state.worker = .draining := by
  cases phase : state.phase with
  | draining | abandoning =>
      rw [phase] at suits
      exact suits
  | starting | reaping | acquiring | requesting | receiving | pausing | backingOff
  | stopped | crashed =>
      rw [phase] at ending
      cases ending

theorem bringsMessages_of_isReceive {event : Event} (other : isReceive event = false) :
    bringsMessages event = false := by
  unfold bringsMessages
  split
  · cases other
  · rfl

@[simp] theorem changeTo_self (worker : WorkerState) : changeTo worker worker = [] :=
  if_pos rfl

@[simp] theorem changes_enter (worker : WorkerState) :
    (enter options state worker).2.filterMap change? = changeTo state.worker worker := by
  unfold enter changeTo
  split <;> rfl

@[simp] theorem changes_reap : (reap state).2.filterMap change? = [] := by
  refine List.filterMap_eq_nil_iff.mpr ?_
  intro event member
  obtain ⟨text, rfl⟩ := mem_reap_events member
  rfl

@[simp] theorem changes_beginDrain :
    (beginDrain options state).2.filterMap change? = changeTo state.worker .draining := by
  unfold beginDrain
  dsimp only
  rw [List.filterMap_append, changes_enter]
  split <;> simp [change?]

@[simp] theorem changes_finish :
    (finish options state).2.filterMap change? = changeTo state.worker .stopped := by
  unfold finish
  dsimp only
  rw [List.filterMap_append, changes_enter]
  simp [change?]

@[simp] theorem changes_onDeliveries (request : ReceiveRequest)
    (deliveries : List Delivery) :
    (onDeliveries options state request deliveries).2.filterMap change? =
      if deliveries.isEmpty then [] else changeTo state.worker .dispatching := by
  have recovered :
      (if 0 < state.failures then
          [.logged (.receiveRecovered options.queueUrl state.failures)] else [] :
        List Event).filterMap change? = [] := by
    split <;> rfl
  have surplus :
      (if request.maxMessages < deliveries.length then
          [.logged (.surplusReceived options.queueUrl request.maxMessages
            deliveries.length)] else [] :
        List Event).filterMap change? = [] := by
    split <;> rfl
  unfold onDeliveries
  dsimp only
  split
  · rw [List.filterMap_append, recovered]
    rfl
  · rw [List.filterMap_append, List.filterMap_append, recovered, surplus, changes_enter]
    rfl

theorem countP_bringsMessages (others : ∀ event ∈ made, isReceive event = false) :
    made.countP bringsMessages = 0 :=
  countP_of_isReceive bringsMessages_of_isReceive others

namespace Turn

/-- The state stays as it is, and nothing is said of it. -/
theorem of_silent (suits : next.phase.suits next.worker)
    (worker : next.worker = state.worker) (silent : made.filterMap change? = [])
    (empty : made.countP bringsMessages = 0) : Turn state next made where
  suits := suits
  announced := by rw [silent, worker, changeTo_self]
  edge := .inl ⟨worker, empty⟩

/-- The loop is left, perhaps after something else has happened in the same move. -/
theorem of_beginDrain {before : State} (first : List Event)
    (worker : before.worker = state.worker) (atWork : isAtWork state.worker = true)
    (silent : first.filterMap change? = []) (empty : first.countP bringsMessages = 0) :
    Turn state (beginDrain options before).1 (first ++ (beginDrain options before).2) where
  suits := by rw [beginDrain_fst]; rfl
  announced := by
    rw [List.filterMap_append, silent, changes_beginDrain, worker, beginDrain_fst]
    rfl
  edge := by
    rw [List.countP_append, empty, countP_bringsMessages isReceive_of_beginDrain,
      beginDrain_fst]
    exact .inr (.drains atWork)

/-- An answer is dispatched if it holds messages. -/
theorem of_onDeliveries (request : ReceiveRequest) (deliveries : List Delivery)
    (polling : state.worker = .polling) :
    Turn state (onDeliveries options state request deliveries).1
      (.receiveEnded (.answered deliveries) ::
        (onDeliveries options state request deliveries).2) := by
  have empty : (onDeliveries options state request deliveries).2.countP
      bringsMessages = 0 := by
    refine countP_bringsMessages ?_
    intro event member
    rcases mem_onDeliveries_events member with rfl | rfl | rfl | rfl <;> rfl
  have announced : (onDeliveries options state request deliveries).2.filterMap change? = _ :=
    changes_onDeliveries request deliveries
  rw [onDeliveries_fst]
  cases deliveries with
  | nil =>
      refine .of_silent ?_ rfl announced (by rw [List.countP_cons, empty]; rfl)
      dsimp only [List.isEmpty_nil, ite_true]
      rw [polling]
      split <;> rfl
  | cons first rest =>
      refine ⟨rfl, announced, .inr ?_⟩
      rw [List.countP_cons, empty, polling]
      exact .dispatches

end Turn

theorem LoopMove.turn (move : LoopMove options world state (next, made))
    (suits : state.phase.suits state.worker) : Turn state next made := by
  generalize same : (next, made) = result at move
  cases move with
  | refuse =>
      cases same
      exact .of_silent trivial rfl rfl rfl
  | unsampled | breakOff =>
      cases same
      exact .of_silent trivial rfl rfl rfl
  | begin phase =>
      cases same
      rw [phase] at suits
      refine .of_silent ?_ rfl rfl rfl
      rw [show state.worker = .idle from suits]
      rfl
  | goOn phase =>
      cases same
      rw [phase] at suits
      exact .of_silent suits rfl changes_reap (countP_bringsMessages isReceive_of_reap)
  | leaveHead phase =>
      cases same
      rw [phase] at suits
      have kept : (reap state).1.worker = state.worker := rfl
      exact .of_beginDrain _ kept suits changes_reap
        (countP_bringsMessages isReceive_of_reap)
  | ask phase =>
      cases same
      rw [phase] at suits
      refine ⟨rfl, changes_enter _, ?_⟩
      rw [countP_bringsMessages isReceive_of_enter]
      cases worker : state.worker with
      | idle => exact .inr .begins
      | polling => exact .inl ⟨rfl, rfl⟩
      | dispatching => exact .inr .pollsAgain
      | draining | stopped =>
          rw [worker] at suits
          cases suits
  | call phase | retry phase =>
      cases same
      rw [phase] at suits
      exact .of_silent suits rfl rfl rfl
  | leave waiting =>
      cases same
      have atWork := isAtWork_of_suits suits waiting
      exact .of_beginDrain [] rfl atWork rfl rfl
  | answer phase =>
      cases same
      rw [phase] at suits
      exact .of_onDeliveries _ _ suits
  | @giveUp request _ error phase =>
      cases same
      have atWork := isAtWork_of_suits suits (by rw [phase]; rfl)
      have kept : (givingUp options state request error).worker = state.worker := rfl
      exact .of_beginDrain [_, _] kept atWork rfl rfl
  | resume phase =>
      cases same
      have waiting : state.phase.isWaiting = true := by
        rcases phase with phase | phase <;> rw [phase] <;> rfl
      have atWork := isAtWork_of_suits suits waiting
      exact .of_silent atWork rfl rfl rfl
  | join =>
      cases same
      exact .of_silent suits rfl changes_reap (countP_bringsMessages isReceive_of_reap)
  | abandon phase =>
      cases same
      rw [phase] at suits
      refine .of_silent suits rfl ?_ ?_
      · rw [List.filterMap_append, changes_reap]
        rfl
      · rw [List.countP_append, countP_bringsMessages isReceive_of_reap]
        rfl
  | finish ending =>
      cases same
      have draining := draining_of_suits suits ending
      have kept : (reap state).1.worker = state.worker := rfl
      refine ⟨?_, ?_, .inr ?_⟩
      · rw [finish_fst]
        rfl
      · rw [List.filterMap_append, changes_reap, changes_finish, kept, finish_fst]
        rfl
      · rw [List.countP_append, countP_bringsMessages isReceive_of_reap,
          countP_bringsMessages isReceive_of_finish, finish_fst, draining]
        exact .stops

/-! ## What the moves add up to -/

/-- A sequence of changes that the worker may make, with the answers that they were
made for and the state that they lead to. -/
inductive Way : Nat → WorkerState → List Change → Prop where
  | start : Way 0 .idle []
  | goes {batches more : Nat} {before after : WorkerState} {changes : List Change}
      (way : Way batches before changes) (edge : Edge before after more) :
      Way (batches + more) after (changes ++ [⟨before, after⟩])

/-- What is known of the state of the worker in a run. -/
structure Traced (state : State) (history : List Occurrence) : Prop where
  suits : state.phase.suits state.worker
  way : Way (batchesOf history) state.worker (changesOf history)

theorem Edge.ne {before after : WorkerState} {batches : Nat}
    (edge : Edge before after batches) : before ≠ after := by
  cases edge with
  | begins | dispatches | pollsAgain | stops => decide
  | drains atWork =>
      rintro rfl
      cases atWork

@[simp] theorem changesOf_append (history later : List Occurrence) :
    changesOf (history ++ later) = changesOf history ++ changesOf later := by
  simp [changesOf]

@[simp] theorem batchesOf_append (history later : List Occurrence) :
    batchesOf (history ++ later) = batchesOf history + batchesOf later := by
  simp [batchesOf]

namespace Traced

theorem start (shutdown : Shutdown) : Traced (start shutdown) [] := ⟨rfl, .start⟩

variable (traced : Traced state history)
include traced

/-- A step in which the loop does nothing. -/
theorem elsewhere (phase : next.phase = state.phase) (worker : next.worker = state.worker)
    (changes : changesOf events = []) (batches : batchesOf events = 0) :
    Traced next (history ++ events) := by
  constructor
  · rw [phase, worker]
    exact traced.suits
  · rw [changesOf_append, batchesOf_append, changes, batches, List.append_nil, worker]
    exact traced.way

theorem loop (turn : Turn state next made) :
    Traced next (history ++ occurrences state.now none made) := by
  refine ⟨turn.suits, ?_⟩
  rw [changesOf_append, batchesOf_append, changesOf, changesOf, batchesOf, batchesOf,
    loopEvents_occurrences_none, turn.announced]
  rcases turn.edge with ⟨stays, empty⟩ | edge
  · rw [empty, stays, changeTo_self, List.append_nil]
    exact traced.way
  · rw [changeTo, if_neg edge.ne]
    exact .goes traced.way edge

theorem step (move : Move options world state next events) :
    Traced next (history ++ events) := by
  cases move with
  | loop move => exact traced.loop (move.turn traced.suits)
  | trigger | advance | cut => exact traced.elsewhere rfl rfl rfl rfl
  | task =>
      refine traced.elsewhere rfl rfl ?_ ?_
      · rw [changesOf, loopEvents_occurrences_some]
        rfl
      · rw [batchesOf, loopEvents_occurrences_some]
        rfl

end Traced

theorem Reaches.traced (reached : Reaches options world shutdown state history) :
    Traced state history := by
  induction reached with
  | start => exact .start shutdown
  | step _ stepped induction => exact induction.step (step?_cases stepped)

/-! ## The word that a run spells -/

/-- The states of some rounds of polling and dispatching. -/
def rounds (number : Nat) : List WorkerState :=
  (List.replicate number [.polling, .dispatching]).flatten

theorem rounds_succ (number : Nat) :
    rounds (number + 1) = rounds number ++ [.polling, .dispatching] := by
  rw [rounds, rounds, List.replicate_succ', List.flatten_concat]

theorem count_dispatching_rounds (number : Nat) :
    (rounds number).count .dispatching = number := by
  induction number with
  | zero => rfl
  | succ number induction =>
      rw [rounds_succ, List.count_append, induction]
      rfl

theorem not_mem_rounds {worker : WorkerState} (ended : isAtWork worker = false)
    (number : Nat) : worker ∉ rounds number := by
  intro member
  obtain ⟨round, found, inside⟩ := List.mem_flatten.mp member
  rw [List.eq_of_mem_replicate found] at inside
  simp only [List.mem_cons, List.not_mem_nil, or_false] at inside
  rcases inside with rfl | rfl <;> cases ended

/-- What the worker goes through after its rounds to be in a state. -/
inductive Tail : WorkerState → List WorkerState → Prop where
  | idle : Tail .idle []
  | polling : Tail .polling [.polling]
  | dispatching : Tail .dispatching []
  | draining {last : List WorkerState} (last_eq : last = [] ∨ last = [.polling]) :
      Tail .draining (last ++ [.draining])
  | stopped {last : List WorkerState} (last_eq : last = [] ∨ last = [.polling]) :
      Tail .stopped (last ++ [.draining, .stopped])

namespace Way

variable {batches : Nat} {worker : WorkerState} {changes : List Change}

/-- The changes lead from each state to the next. -/
theorem chained (way : Way batches worker changes) :
    changes.map Change.before ++ [worker] = .idle :: changes.map Change.after := by
  induction way with
  | start => rfl
  | goes _ _ induction =>
      rw [List.map_append, List.map_append, ← List.cons_append, ← induction]
      rfl

theorem proper (way : Way batches worker changes) :
    ∀ change ∈ changes, change.before ≠ change.after := by
  induction way with
  | start => simp
  | goes _ edge induction =>
      intro change member
      rcases List.mem_append.mp member with earlier | last
      · exact induction change earlier
      · rw [List.mem_singleton.mp last]
        exact edge.ne

theorem spells (way : Way batches worker changes) :
    ∃ tail, Tail worker tail ∧
      changes.map Change.after = rounds batches ++ tail := by
  induction way with
  | start => exact ⟨[], .idle, rfl⟩
  | goes _ edge induction =>
      obtain ⟨tail, ends, word⟩ := induction
      rw [List.map_append, word, List.append_assoc]
      cases edge with
      | begins | pollsAgain =>
          cases ends
          exact ⟨_, .polling, rfl⟩
      | dispatches =>
          cases ends
          exact ⟨[], .dispatching, by rw [rounds_succ, List.append_nil]; rfl⟩
      | drains atWork =>
          cases ends with
          | idle | dispatching => exact ⟨_, .draining (.inl rfl), rfl⟩
          | polling => exact ⟨_, .draining (.inr rfl), rfl⟩
          | draining | stopped => cases atWork
      | stops =>
          cases ends with
          | draining last_eq =>
              exact ⟨_, .stopped last_eq, by rw [List.append_assoc]; rfl⟩

end Way

/-- The way of the worker through a whole run. -/
structure Itinerary (history : List Occurrence) : Prop where
  /-- Each change begins where the one before it ended, and the first one in idleness. -/
  chained : (changesOf history).map Change.before = (statesOf history).dropLast
  proper : ∀ change ∈ changesOf history, change.before ≠ change.after
  word : ∃ last, (last = [] ∨ last = [.polling]) ∧
    statesOf history =
      .idle :: rounds (batchesOf history) ++ last ++ [.draining, .stopped]
  dispatching : (statesOf history).count .dispatching = batchesOf history
  draining : (statesOf history).count .draining = 1
  stopped : (statesOf history).count .stopped = 1

/-- Every run that returns has gone through rounds of polling and dispatching, one for
each answer that brought messages, and perhaps a last poll, to the drain and the end. -/
theorem Reaches.itinerary {result : Except Failure Totals}
    (reached : Reaches options world shutdown state history)
    (returned : state.phase = .stopped result) : Itinerary history := by
  have traced := reached.traced
  have suits := traced.suits
  rw [returned] at suits
  have way := traced.way
  rw [show state.worker = .stopped from suits] at way
  obtain ⟨tail, ends, spelled⟩ := way.spells
  cases ends with
  | @stopped last last_eq =>
      have word : statesOf history =
          .idle :: rounds (batchesOf history) ++ last ++ [.draining, .stopped] := by
        rw [statesOf, spelled, List.cons_append, List.cons_append, List.append_assoc]
      have counted : ∀ worker, (statesOf history).count worker =
          (rounds (batchesOf history)).count worker +
            List.count worker (.idle :: last ++ [.draining, .stopped]) := by
        intro worker
        simp only [word, List.cons_append, List.count_cons, List.count_append]
        omega
      have absent : ∀ worker, isAtWork worker = false →
          (rounds (batchesOf history)).count worker = 0 := by
        intro worker ended
        exact List.count_eq_zero.mpr (not_mem_rounds ended _)
      refine ⟨?_, way.proper, ⟨last, last_eq, word⟩, ?_, ?_, ?_⟩
      · rw [statesOf, ← way.chained, List.dropLast_concat]
      · rw [counted, count_dispatching_rounds]
        rcases last_eq with rfl | rfl <;> rfl
      · rw [counted, absent _ rfl]
        rcases last_eq with rfl | rfl <;> rfl
      · rw [counted, absent _ rfl]
        rcases last_eq with rfl | rfl <;> rfl

/-- The letters come in one answer, and the shutdown finds the next receive waiting. -/
theorem itinerary_twoLetters :
    Reaches letterOptions twoLetters .idle (run letterOptions twoLetters (some 5) 60).state
        (run letterOptions twoLetters (some 5) 60).history ∧
      (run letterOptions twoLetters (some 5) 60).state.phase =
        .stopped (.ok ⟨2, ⟨1, 1, 0, 0⟩, 0⟩) ∧
      statesOf (run letterOptions twoLetters (some 5) 60).history =
        [.idle, .polling, .dispatching, .polling, .draining, .stopped] ∧
      Itinerary (run letterOptions twoLetters (some 5) 60).history :=
  ⟨run_reaches letterOptions twoLetters (some 5) 60, rfl, rfl,
    (run_reaches letterOptions twoLetters (some 5) 60).itinerary rfl⟩

end AtLeastOnce.Receiver
