import AtLeastOnce.Proofs.Ensemble.System
import Mathlib.Algebra.Order.BigOperators.Group.Finset

/-!
# The flag, and what lies ahead

The flag goes up once, whoever raises it, and stays up.  From then on every receiver
comes to its end.  That is a count over the system: a move of one receiver takes
something off what lies ahead of it and leaves the others where they are, and time
passes only for receivers that drain, within their deadlines.
-/

namespace AtLeastOnce.Ensemble

open Receiver (toStop)

variable {ι : Type} [DecidableEq ι] {members : ι → Member} {state next : State ι}
  {who : ι} {history happenings more : List (Happening ι)}

/-! ## The calls that trigger the shutdown -/

/-- What a call that triggers the shutdown is told. -/
def triggerResult? : Happening ι → Option Bool
  | .triggered _ _ flipped => some flipped
  | _ => none

def triggerResults (history : List (Happening ι)) : List Bool :=
  history.filterMap triggerResult?

/-- The first call raises the flag and is told so, and no other. -/
inductive Flips : Shutdown → List Bool → Prop where
  | untouched : Flips .idle []
  | raised (later : Nat) : Flips ⟨true⟩ (true :: List.replicate later false)

theorem Flips.trigger {shutdown : Shutdown} {results : List Bool}
    (flips : Flips shutdown results) :
    Flips shutdown.trigger.1 (results ++ [shutdown.trigger.2]) := by
  cases flips with
  | untouched => exact .raised 0
  | raised later =>
      rw [List.cons_append]
      change Flips ⟨true⟩ (true :: (List.replicate later false ++ [false]))
      rw [← List.replicate_succ']
      exact .raised (later + 1)

omit [DecidableEq ι] in
@[simp] theorem triggerResults_append (history later : List (Happening ι)) :
    triggerResults (history ++ later) =
      triggerResults history ++ triggerResults later := by
  simp [triggerResults]

omit [DecidableEq ι] in
@[simp] theorem triggerResults_occurred (who : ι) (events : List Occurrence) :
    triggerResults (events.map (.occurred who)) = [] := by
  simp [triggerResults, List.filterMap_map, Function.comp_def, triggerResult?]

/-- A step leaves the flag alone, or there is one call in it. -/
theorem Move.flag_cases (move : Move members state next happenings)
    (runs : Runs members state) :
    next.shutdown = state.shutdown ∧ triggerResults happenings = [] ∨
      next.shutdown = state.shutdown.trigger.1 ∧
        triggerResults happenings = [state.shutdown.trigger.2] := by
  cases move with
  | triggers => exact .inr ⟨rfl, rfl⟩
  | answers | advances => exact .inl ⟨rfl, rfl⟩
  | @moves who action next events isMove stepped =>
      obtain ⟨_, reached⟩ := runs who
      rw [triggerResults_append, triggerResults_occurred, List.nil_append, callsOf]
      rcases (reached.shares isMove stepped).2 with ⟨kept, unsaid⟩ | ⟨_, flipped, said⟩
      · rw [unsaid]
        exact .inl ⟨kept, rfl⟩
      · rw [said]
        exact .inr ⟨flipped, rfl⟩

theorem Steps.flips {before : List Bool} (steps : Steps members state happenings next)
    (runs : Runs members state) (flips : Flips state.shutdown before) :
    Flips next.shutdown (before ++ triggerResults happenings) := by
  induction steps with
  | refl => simpa [triggerResults] using flips
  | step steps stepped induction =>
      rw [triggerResults_append, ← List.append_assoc]
      rcases (step?_cases stepped).flag_cases (steps.runs runs) with
        ⟨kept, uncalled⟩ | ⟨triggered, called⟩
      · rw [kept, uncalled, List.append_nil]
        exact induction
      · rw [triggered, called]
        exact induction.trigger

/-- Nobody lowers the flag. -/
theorem Steps.triggered (steps : Steps members state happenings next)
    (runs : Runs members state) (raised : state.shutdown.triggered = true) :
    next.shutdown.triggered = true := by
  induction steps with
  | refl => exact raised
  | step steps stepped induction =>
      rcases (step?_cases stepped).flag_cases (steps.runs runs) with ⟨kept, _⟩ | ⟨up, _⟩
      · rw [kept]
        exact induction
      · rw [up]
        rfl

/-! ## The clock -/

/-- Time passes only when no receiver that runs can move, and not beyond what one of
them waits for. -/
def OnTime (members : ι → Member) (state : State ι) : Action ι → Prop
  | .advance time => ∀ who, (state.view who).phase.isOver = false →
      Receiver.OnTime (members who).options (members who).world (state.view who)
        (.advance time)
  | _ => True

def Action.isOwn : Action ι → Bool
  | .move _ _ => true
  | .advance _ => true
  | .trigger => false
  | .ask _ => false

/-- A step that is not taken by somebody outside. -/
def Own (members : ι → Member) (state next : State ι) : Prop :=
  ∃ action happenings, action.isOwn = true ∧ OnTime members state action ∧
    step? members state action = some (next, happenings)

theorem Own.steps (own : Own members state next) :
    ∃ happenings, Steps members state happenings next := by
  obtain ⟨action, happenings, _, _, stepped⟩ := own
  exact ⟨_, .step .refl stepped⟩

omit [DecidableEq ι] in
theorem Runs.distinct (runs : Runs members state) (who : ι) :
    ((state.view who).inFlight.map Task.number).Nodup := by
  obtain ⟨_, reached⟩ := runs who
  obtain ⟨_, joins⟩ := reached.joins
  exact joins.ledger.distinctInFlight

/-- There is always a step to take. -/
theorem Runs.exists_own (runs : Runs members state) : ∃ next, Own members state next := by
  by_cases idle : ∀ who,
      Receiver.Idle (members who).options (members who).world (state.view who)
  · refine ⟨_, .advance (state.now + 1), [], rfl, ?_, if_pos (Nat.lt_succ_self state.now)⟩
    intro who running
    refine ⟨idle who, ?_⟩
    intro moment awaits
    exact (idle who).lt_of_awaits (runs.distinct who) running awaits
  · obtain ⟨who, movable⟩ := not_forall.mp idle
    obtain ⟨action, after, events, isMove, moved⟩ :=
      (Receiver.idle_or_moves _ _ _).resolve_left movable
    have stepped : step? members state (.move who action) =
        some (state.put who after,
          events.map (.occurred who) ++ callsOf state who events) := by
      rw [step?, if_pos isMove, moved]
      rfl
    exact ⟨_, .move who action, _, rfl, trivial, stepped⟩

/-! ## What lies ahead of the system -/

/-- Under the flag, a move of one receiver is nothing to the others. -/
theorem Runs.view_put {mover : ι} {action : Receiver.Action} {after : Receiver.State}
    {events : List Occurrence} (runs : Runs members state)
    (raised : state.shutdown.triggered = true) (isMove : action.isMove = true)
    (moved : Receiver.step? (members mover).options (members mover).world
      (state.view mover) action = some (after, events)) :
    (state.put mover after).view mover = after ∧
      ∀ who, mover ≠ who → (state.put mover after).view who = state.view who := by
  obtain ⟨_, reached⟩ := runs mover
  obtain ⟨now, shares⟩ := reached.shares isMove moved
  refine ⟨view_put_self now, ?_⟩
  intro who different
  rcases shares with ⟨kept, _⟩ | ⟨untriggered, _⟩
  · rw [view_put_other different, kept]
    rfl
  · have down : state.shutdown.triggered = false := untriggered
    rw [raised] at down
    cases down

omit [DecidableEq ι] in
theorem Runs.toStop_lt_of_move {mover : ι} {action : Receiver.Action}
    {after : Receiver.State} {events : List Occurrence} (runs : Runs members state)
    (raised : state.shutdown.triggered = true) (isMove : action.isMove = true)
    (moved : Receiver.step? (members mover).options (members mover).world
      (state.view mover) action = some (after, events)) :
    toStop (members mover).options after <
      toStop (members mover).options (state.view mover) := by
  have own := Receiver.ownMove_of_step? (by rintro rfl; cases isMove)
    (Receiver.onTime_of_isMove isMove) moved
  refine own.toStop_lt raised (runs.distinct mover) ?_
  intro idle
  rw [idle action isMove] at moved
  cases moved

omit [DecidableEq ι] in
theorem Runs.toStop_lt_of_advance {time : Nat} (runs : Runs members state)
    (raised : state.shutdown.triggered = true) (later : state.now < time)
    (onTime : OnTime members state (.advance time))
    (running : (state.view who).phase.isOver = false) :
    toStop (members who).options { state.view who with now := time } <
      toStop (members who).options (state.view who) := by
  obtain ⟨idle, awaited⟩ := onTime who running
  have own : Receiver.OwnMove (members who).options (members who).world
      (state.view who) _ _ := .advance later idle awaited
  exact own.toStop_lt raised (runs.distinct who) fun _ => running

/-- Under the flag, a step brings some receiver nearer to its end, and none further
from it. -/
theorem Own.toStop_lt (own : Own members state next) (runs : Runs members state)
    (raised : state.shutdown.triggered = true)
    (running : ∃ who, (state.view who).phase.isOver = false) :
    (∀ who, toStop (members who).options (next.view who) ≤
        toStop (members who).options (state.view who)) ∧
      ∃ who, toStop (members who).options (next.view who) <
        toStop (members who).options (state.view who) := by
  obtain ⟨action, happenings, isOwn, onTime, stepped⟩ := own
  cases action with
  | trigger | ask => cases isOwn
  | advance time =>
      simp only [step?, Option.ite_none_right_eq_some] at stepped
      obtain ⟨later, equality⟩ := stepped
      cases equality
      constructor
      · intro who
        cases ended : (state.view who).phase.isOver with
        | true => exact Nat.le_of_eq (Receiver.toStop_of_isOver ended)
        | false => exact Nat.le_of_lt (runs.toStop_lt_of_advance raised later onTime ended)
      · obtain ⟨who, running⟩ := running
        exact ⟨who, runs.toStop_lt_of_advance raised later onTime running⟩
  | move mover action =>
      simp only [step?, Option.ite_none_right_eq_some] at stepped
      obtain ⟨isMove, stepped⟩ := stepped
      obtain ⟨⟨after, events⟩, moved, equality⟩ := Option.map_eq_some_iff.mp stepped
      cases equality
      obtain ⟨itself, others⟩ := runs.view_put raised isMove moved
      have fewer := runs.toStop_lt_of_move raised isMove moved
      rw [← itself] at fewer
      refine ⟨?_, mover, fewer⟩
      intro who
      by_cases same : mover = who
      · subst same
        exact Nat.le_of_lt fewer
      · rw [others who same]

/-- Under the flag, everybody comes to an end. -/
theorem Runs.allOver [Fintype ι] (runs : Runs members state)
    (raised : state.shutdown.triggered = true) :
    Inevitably (Own members) (fun final => ∀ who, (final.view who).phase.isOver = true)
      state := by
  -- Outsiders are not counted: what lies ahead does not depend on what they do.
  refine Inevitably.of_measure
    (fun here => Runs members here ∧ here.shutdown.triggered = true)
    (fun here => ∑ who, toStop (members who).options (here.view who)) ?_ ?_ ⟨runs, raised⟩
  · rintro here ⟨runs, _⟩ _
    exact runs.exists_own
  · rintro here next ⟨runs, raised⟩ unfinished own
    obtain ⟨_, steps⟩ := own.steps
    right
    refine ⟨⟨steps.runs runs, steps.triggered runs raised⟩, ?_⟩
    push Not at unfinished
    obtain ⟨who, running⟩ := unfinished
    obtain ⟨all, nearer, fewer⟩ :=
      own.toStop_lt runs raised ⟨who, eq_false_of_ne_true running⟩
    exact Finset.sum_lt_sum (fun who _ => all who) ⟨nearer, Finset.mem_univ nearer, fewer⟩

end AtLeastOnce.Ensemble
