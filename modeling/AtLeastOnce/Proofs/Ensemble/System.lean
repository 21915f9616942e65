import AtLeastOnce.Http.Router
import AtLeastOnce.Proofs.Receiver.Stopping
import Mathlib.Logic.Function.Basic

/-!
# Receivers that share a flag

Any number of receivers run side by side, each in its own surroundings, on one clock
and with one shutdown flag.  Somebody outside may raise the flag at any moment, and
requests about the health of the process come in.  Which of them moves next is left
open.

The flag and the clock belong to the system.  `State.view` is what one receiver is
with them; as far as that receiver can tell, whoever else raises the flag is somebody
outside, so a run of the system is for each of its receivers a run of its own.
-/

namespace AtLeastOnce.Ensemble

open Receiver (Reaches)

/-- A receiver with what is around it. -/
structure Member where
  options : ReceiverOptions
  world : Receiver.World

variable {ι : Type}

/-- The clock and the flag of the receivers are those of the system. -/
structure State (ι : Type) where
  now : Nat
  shutdown : Shutdown
  receivers : ι → Receiver.State

def start : State ι := ⟨0, .idle, fun _ => Receiver.start .idle⟩

/-- A receiver of the system, with the clock and the flag that it sees. -/
def State.view (state : State ι) (who : ι) : Receiver.State :=
  { state.receivers who with now := state.now, shutdown := state.shutdown }

/-- Who moves. -/
inductive Action (ι : Type) where
  /-- A receiver: its loop, a task, or the runtime that cuts off a task. -/
  | move (who : ι) (action : Receiver.Action)
  /-- Somebody outside triggers the shutdown. -/
  | trigger
  /-- A request about the health of the process comes in. -/
  | ask (request : Http.Request)
  /-- The clock. -/
  | advance (time : Nat)

inductive Happening (ι : Type) where
  | occurred (who : ι) (occurrence : Occurrence)
  /-- A receiver or somebody outside triggers the shutdown, and is told whether that has
  raised the flag. -/
  | triggered (time : Nat) (caller? : Option ι) (flipped : Bool)
  | answered (time : Nat) (request : Http.Request) (answer : Timed Http.Response)

/-- The call by which a receiver that gives up stops the others. -/
def callsOf (state : State ι) (who : ι) (events : List Occurrence) : List (Happening ι) :=
  if (Receiver.loopEvents events).any Receiver.isGivingUp then
    [.triggered state.now (some who) state.shutdown.trigger.2]
  else []

section

variable [DecidableEq ι] (members : ι → Member)

/-- The state after a move of one receiver. -/
def State.put (state : State ι) (who : ι) (next : Receiver.State) : State ι :=
  { state with
    shutdown := next.shutdown
    receivers := Function.update state.receivers who next }

/-- One step of the system, with what happens in it. -/
def step? (state : State ι) : Action ι → Option (State ι × List (Happening ι))
  | .move who action =>
      if action.isMove then
        (Receiver.step? (members who).options (members who).world (state.view who)
            action).map fun (next, events) =>
          (state.put who next, events.map (.occurred who) ++ callsOf state who events)
      else none
  | .trigger =>
      let (shutdown, flipped) := state.shutdown.trigger
      some ({ state with shutdown }, [.triggered state.now none flipped])
  | .ask request =>
      let answer := Http.healthRoutes.answer state.shutdown request
      some (state, [.answered state.now request answer])
  | .advance time => if state.now < time then some ({ state with now := time }, []) else none

/-- The steps from a state to a later one, with what happens in them. -/
inductive Steps : State ι → List (Happening ι) → State ι → Prop where
  | refl {state : State ι} : Steps state [] state
  | step {state middle next : State ι} {happenings more : List (Happening ι)}
      {action : Action ι} :
      Steps state happenings middle →
      step? members middle action = some (next, more) →
      Steps state (happenings ++ more) next

/-- The states that are reached with the flag down at the start, each with what has
happened up to it. -/
def Reached (state : State ι) (history : List (Happening ι)) : Prop :=
  Steps members start history state

/-- The outcome of some actions one after the other, if they can be taken. -/
def follow? : List (Action ι) → State ι → Option (State ι × List (Happening ι))
  | [], state => some (state, [])
  | action :: actions, state =>
      (step? members state action).bind fun (middle, happenings) =>
        (follow? actions middle).map fun (next, more) => (next, happenings ++ more)

/-- What happens to one receiver: its own doings, and that somebody else raises the
flag. -/
def seenBy? (who : ι) : Happening ι → Option Occurrence
  | .occurred other occurrence => if other = who then some occurrence else none
  | .triggered time caller? flipped =>
      if caller? = some who then none
      else some ⟨time, none, .shutdownTriggered flipped⟩
  | .answered _ _ _ => none

def historyOf (who : ι) (history : List (Happening ι)) : List Occurrence :=
  history.filterMap (seenBy? who)

end

/-! ## One step -/

section

variable [DecidableEq ι] {members : ι → Member} {state next middle : State ι}
  {who other : ι} {history happenings more : List (Happening ι)}

@[simp] theorem historyOf_append (who : ι) (history later : List (Happening ι)) :
    historyOf who (history ++ later) = historyOf who history ++ historyOf who later := by
  simp [historyOf]

theorem historyOf_occurred (who : ι) (events : List Occurrence) :
    historyOf who (events.map (.occurred who)) = events := by
  simp [historyOf, List.filterMap_map, Function.comp_def, seenBy?]

theorem historyOf_occurred_other (different : other ≠ who) (events : List Occurrence) :
    historyOf who (events.map (.occurred other)) = [] := by
  simp [historyOf, List.filterMap_map, Function.comp_def, seenBy?, different]

/-- A step of the system, with what it does. -/
inductive Move (members : ι → Member) (state : State ι) :
    State ι → List (Happening ι) → Prop where
  | moves {who : ι} {action : Receiver.Action} {next : Receiver.State}
      {events : List Occurrence}
      (isMove : action.isMove = true)
      (stepped : Receiver.step? (members who).options (members who).world
        (state.view who) action = some (next, events)) :
      Move members state (state.put who next)
        (events.map (.occurred who) ++ callsOf state who events)
  | triggers :
      Move members state { state with shutdown := state.shutdown.trigger.1 }
        [.triggered state.now none state.shutdown.trigger.2]
  | answers (request : Http.Request) :
      Move members state state
        [.answered state.now request (Http.healthRoutes.answer state.shutdown request)]
  | advances {time : Nat} (later : state.now < time) :
      Move members state { state with now := time } []

theorem step?_cases {action : Action ι}
    (stepped : step? members state action = some (next, happenings)) :
    Move members state next happenings := by
  cases action with
  | move who action =>
      simp only [step?, Option.ite_none_right_eq_some] at stepped
      obtain ⟨isMove, stepped⟩ := stepped
      obtain ⟨⟨after, events⟩, moved, equality⟩ := Option.map_eq_some_iff.mp stepped
      cases equality
      exact .moves isMove moved
  | trigger =>
      cases stepped
      exact .triggers
  | ask request =>
      cases stepped
      exact .answers request
  | advance time =>
      simp only [step?, Option.ite_none_right_eq_some] at stepped
      obtain ⟨later, equality⟩ := stepped
      cases equality
      exact .advances later

/-- What a step of the system is for one of its receivers: nothing, or a step of its
own run. -/
inductive Seen (member : Member) (before after : Receiver.State) (events : List Occurrence) :
    Prop where
  | still (same : after = before) (nothing : events = [])
  | steps {action : Receiver.Action}
      (stepped : Receiver.step? member.options member.world before action =
        some (after, events))

theorem view_put_self {next : Receiver.State} (now : next.now = state.now) :
    (state.put who next).view who = next := by
  simp only [State.view, State.put, Function.update_self]
  rw [← now]

theorem view_put_other {next : Receiver.State} (different : other ≠ who) :
    (state.put other next).view who =
      { state.view who with shutdown := next.shutdown } := by
  simp only [State.view, State.put, Function.update_of_ne different.symm]

theorem historyOf_callsOf_self (state : State ι) (events : List Occurrence) :
    historyOf who (callsOf state who events) = [] := by
  unfold callsOf
  split
  · simp [historyOf, seenBy?]
  · rfl

/-- Every receiver of the system, with its view, is in a run of its own. -/
def Runs (members : ι → Member) (state : State ι) : Prop :=
  ∀ who, ∃ history,
    Reaches (members who).options (members who).world .idle (state.view who) history

theorem Move.seen (move : Move members state next happenings)
    (runs : Runs members state) (who : ι) :
    Seen (members who) (state.view who) (next.view who) (historyOf who happenings) := by
  have raised : Receiver.step? (members who).options (members who).world (state.view who)
      .trigger = some ({ state.view who with shutdown := state.shutdown.trigger.1 },
        [⟨state.now, none, .shutdownTriggered state.shutdown.trigger.2⟩]) := rfl
  cases move with
  | triggers => exact .steps raised
  | answers => exact .still rfl rfl
  | @advances time later =>
      have stepped : Receiver.step? (members who).options (members who).world
          (state.view who) (.advance time) =
            some ({ state.view who with now := time }, []) := if_pos later
      exact .steps stepped
  | @moves mover action next events isMove stepped =>
      obtain ⟨_, reached⟩ := runs mover
      obtain ⟨now, shares⟩ := reached.shares isMove stepped
      rw [historyOf_append]
      by_cases same : mover = who
      · subst same
        rw [view_put_self now, historyOf_occurred, historyOf_callsOf_self, List.append_nil]
        exact .steps stepped
      · rw [view_put_other same, historyOf_occurred_other same, List.nil_append, callsOf]
        -- Another receiver sees nothing of the move but a flag that goes up.
        rcases shares with ⟨kept, unsaid⟩ | ⟨_, flipped, said⟩
        · rw [kept, unsaid]
          exact .still rfl rfl
        · have others : some mover ≠ some who := mt Option.some.inj same
          rw [flipped, if_pos said]
          simpa [historyOf, seenBy?, others] using .steps raised

/-! ## Every run -/

/-- What happens to the system is for each receiver a course of its own run. -/
theorem Steps.ofReceiver (steps : Steps members state happenings next)
    (runs : Runs members state) (who : ι) :
    Receiver.Steps (members who).options (members who).world (state.view who)
      (historyOf who happenings) (next.view who) := by
  induction steps generalizing who with
  | refl => exact .refl
  | @step middle next happenings more action steps stepped induction =>
      have between : Runs members middle := by
        intro other
        obtain ⟨history, reached⟩ := runs other
        exact ⟨_, reached.append (induction other)⟩
      rw [historyOf_append]
      cases (step?_cases stepped).seen between who with
      | still same nothing =>
          rw [same, nothing, List.append_nil]
          exact induction who
      | steps stepped => exact .step (induction who) stepped

theorem Steps.runs (steps : Steps members state happenings next)
    (runs : Runs members state) : Runs members next := by
  intro who
  obtain ⟨history, reached⟩ := runs who
  exact ⟨_, reached.append (steps.ofReceiver runs who)⟩

omit [DecidableEq ι] in
theorem runs_start (members : ι → Member) : Runs members start :=
  fun _ => ⟨[], .start⟩

theorem Reached.runs (reached : Reached members state history) : Runs members state :=
  Steps.runs reached (runs_start members)

theorem Reached.ofReceiver (reached : Reached members state history) (who : ι) :
    Reaches (members who).options (members who).world .idle (state.view who)
      (historyOf who history) := by
  have started : Reaches (members who).options (members who).world .idle
      ((start : State ι).view who) [] := .start
  exact started.append (Steps.ofReceiver reached (runs_start members) who)

theorem Steps.trans (first : Steps members state happenings middle)
    (second : Steps members middle more next) :
    Steps members state (happenings ++ more) next := by
  induction second with
  | refl => rwa [List.append_nil]
  | step _ stepped induction =>
      rw [← List.append_assoc]
      exact .step induction stepped

theorem steps_of_follow? {actions : List (Action ι)}
    (followed : follow? members actions state = some (next, happenings)) :
    Steps members state happenings next := by
  induction actions generalizing state happenings with
  | nil =>
      cases followed
      exact .refl
  | cons action actions induction =>
      obtain ⟨⟨middle, first⟩, stepped, rest⟩ := Option.bind_eq_some_iff.mp followed
      obtain ⟨⟨after, later⟩, others, equality⟩ := Option.map_eq_some_iff.mp rest
      cases equality
      have begun : Steps members state ([] ++ first) middle := .step .refl stepped
      rw [List.nil_append] at begun
      exact begun.trans (induction others)

end

end AtLeastOnce.Ensemble
