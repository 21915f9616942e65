import AtLeastOnce.Receiver.Machine

/-!
# Reading a history

What the task with a number has done, and which deliveries have been handed out to
tasks, read off nothing but the events of a run.  `Steps` continues a run from a
state in the middle, and `Joins` is a run with the tasks that its loop has joined
so far.
-/

namespace AtLeastOnce.Receiver

/-! ## The events of one task -/

/-- What the task with a number has done. -/
def eventsOf (number : Nat) (history : List Occurrence) : List Event :=
  (history.filter fun occurrence => occurrence.task = some number).map
    Occurrence.event

@[simp] theorem eventsOf_append (number : Nat) (history later : List Occurrence) :
    eventsOf number (history ++ later) =
      eventsOf number history ++ eventsOf number later := by
  simp [eventsOf]

@[simp] theorem eventsOf_nil (number : Nat) : eventsOf number [] = [] := rfl

theorem eventsOf_cons_of_task {number time : Nat} (event : Event)
    (later : List Occurrence) :
    eventsOf number (⟨time, some number, event⟩ :: later) =
      event :: eventsOf number later := by
  simp [eventsOf]

theorem mem_eventsOf {number : Nat} {event : Event} {history : List Occurrence} :
    event ∈ eventsOf number history ↔
      ∃ time, ⟨time, some number, event⟩ ∈ history := by
  constructor
  · intro member
    obtain ⟨⟨time, task, event⟩, found, rfl⟩ := List.mem_map.mp member
    obtain ⟨inside, same⟩ := List.mem_filter.mp found
    obtain rfl : task = some number := by simpa using same
    exact ⟨time, inside⟩
  · rintro ⟨time, member⟩
    exact List.mem_map.mpr ⟨⟨time, some number, event⟩,
      List.mem_filter.mpr ⟨member, by simp⟩, rfl⟩

@[simp] theorem eventsOf_occurrences_self (number time : Nat)
    (events : List Event) :
    eventsOf number (occurrences time (some number) events) = events := by
  simp [eventsOf, occurrences, List.filter_map, Function.comp_def]

@[simp] theorem eventsOf_occurrences_none (number time : Nat)
    (events : List Event) :
    eventsOf number (occurrences time none events) = [] := by
  simp [eventsOf, occurrences, List.filter_map, Function.comp_def]

theorem eventsOf_occurrences_other {number time : Nat} {task : Option Nat}
    (other : task ≠ some number) (events : List Event) :
    eventsOf number (occurrences time task events) = [] := by
  simp [eventsOf, occurrences, List.filter_map, Function.comp_def, other]

/-! ## The deliveries that are handed out -/

/-- How much the last receive asked for, and the deliveries handed out so far. -/
structure Intake where
  requested : Nat
  deliveries : List Delivery

/-- Of an answer, as many deliveries are handed out as were asked for. -/
def Intake.record (intake : Intake) : Event → Intake
  | .receiveCalled request => { intake with requested := request.maxMessages }
  | .receiveEnded (.answered deliveries) =>
      { intake with
        deliveries := intake.deliveries ++ deliveries.take intake.requested }
  | _ => intake

def intakeOf (history : List Occurrence) : Intake :=
  history.foldl (fun intake occurrence => intake.record occurrence.event) ⟨0, []⟩

/-- The deliveries that have been handed out to tasks, in the order of the tasks. -/
def handedOut (history : List Occurrence) : List Delivery :=
  (intakeOf history).deliveries

/-- Whether an event is the call or the end of a receive. -/
def isReceive : Event → Bool
  | .receiveCalled _ => true
  | .receiveEnded _ => true
  | _ => false

/-- Whether an event changes how much is asked for or what has been handed out. -/
def isIntake : Event → Bool
  | .receiveCalled _ => true
  | .receiveEnded (.answered _) => true
  | _ => false

theorem isIntake_of_isReceive {event : Event} (other : isReceive event = false) :
    isIntake event = false := by
  unfold isIntake
  split
  · cases other
  · cases other
  · rfl

theorem record_of_isIntake (intake : Intake) {event : Event}
    (other : isIntake event = false) : intake.record event = intake := by
  unfold Intake.record
  split
  · cases other
  · cases other
  · rfl

@[simp] theorem intakeOf_append_occurrences (history : List Occurrence) (time : Nat)
    (task : Option Nat) (events : List Event) :
    intakeOf (history ++ occurrences time task events) =
      events.foldl Intake.record (intakeOf history) := by
  simp [intakeOf, occurrences, List.foldl_map]

theorem foldl_record_of_isIntake {events : List Event} (intake : Intake)
    (others : ∀ event ∈ events, isIntake event = false) :
    events.foldl Intake.record intake = intake := by
  induction events with
  | nil => rfl
  | cons event events induction =>
      rw [List.foldl_cons,
        record_of_isIntake intake (others event List.mem_cons_self)]
      exact induction fun later member =>
        others later (List.mem_cons_of_mem _ member)

theorem intakeOf_append (history : List Occurrence) {events : List Occurrence}
    (others : ∀ occurrence ∈ events, isIntake occurrence.event = false) :
    intakeOf (history ++ events) = intakeOf history := by
  have made : ∀ event ∈ events.map Occurrence.event, isIntake event = false := by
    intro event member
    obtain ⟨occurrence, found, rfl⟩ := List.mem_map.mp member
    exact others occurrence found
  have same := foldl_record_of_isIntake (intakeOf history) made
  rw [List.foldl_map] at same
  rw [intakeOf, List.foldl_append]
  exact same

/-! ## Runs -/

/-- The steps from a state to a later one, with their events. -/
inductive Steps (options : ReceiverOptions) (world : World) :
    State → List Occurrence → State → Prop where
  | refl {state : State} : Steps options world state [] state
  | step {state middle next : State} {events more : List Occurrence} {action : Action} :
      Steps options world state events middle →
      step? options world middle action = some (next, more) →
      Steps options world state (events ++ more) next

/-- The tasks that a step takes out of flight. -/
def joinedTasks (state next : State) : List Task :=
  state.inFlight.filter fun task =>
    !(next.inFlight.any fun remaining => remaining.number = task.number)

/-- A run with the tasks that the loop has joined, in the order of their joining. -/
inductive Joins (options : ReceiverOptions) (world : World) (shutdown : Shutdown) :
    State → List Occurrence → List Task → Prop where
  | start : Joins options world shutdown (start shutdown) [] []
  | step {state next : State} {history events : List Occurrence} {joined : List Task}
      {action : Action} :
      Joins options world shutdown state history joined →
      step? options world state action = some (next, events) →
      Joins options world shutdown next (history ++ events)
        (joined ++ joinedTasks state next)

variable {options : ReceiverOptions} {world : World} {shutdown : Shutdown}
  {state next : State} {history events : List Occurrence} {joined : List Task}

theorem Reaches.append (reached : Reaches options world shutdown state history)
    (steps : Steps options world state events next) :
    Reaches options world shutdown next (history ++ events) := by
  induction steps with
  | refl => simpa using reached
  | step _ stepped induction =>
      rw [← List.append_assoc]
      exact .step induction stepped

theorem Reaches.joins (reached : Reaches options world shutdown state history) :
    ∃ joined, Joins options world shutdown state history joined := by
  induction reached with
  | start => exact ⟨[], .start⟩
  | step _ stepped induction =>
      obtain ⟨joined, run⟩ := induction
      exact ⟨_, .step run stepped⟩

theorem Joins.reaches (run : Joins options world shutdown state history joined) :
    Reaches options world shutdown state history := by
  induction run with
  | start => exact .start
  | step _ stepped induction => exact .step induction stepped

theorem joinedTasks_eq_nil
    (kept : ∀ task ∈ state.inFlight,
      ∃ remaining ∈ next.inFlight, remaining.number = task.number) :
    joinedTasks state next = [] := by
  refine List.filter_eq_nil_iff.mpr ?_
  intro task member
  obtain ⟨remaining, inside, same⟩ := kept task member
  simp only [Bool.not_eq_true', Bool.not_eq_false, List.any_eq_true,
    decide_eq_true_eq]
  exact ⟨remaining, inside, same⟩

end AtLeastOnce.Receiver
