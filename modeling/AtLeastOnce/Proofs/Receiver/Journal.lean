import AtLeastOnce.Proofs.Handling.Timing
import AtLeastOnce.Proofs.Inevitably
import AtLeastOnce.Proofs.Receiver.Origin
import AtLeastOnce.Proofs.Receiver.Schedule
import Mathlib.Logic.Relation

/-!
# Runs on the virtual clock

On a virtual clock nobody is kept waiting: time passes only when nobody else can
move, and not beyond the next moment that somebody waits for.  `Journal.Reached` are
the runs of the machine that keep to this, each with the tasks joined so far; the
schedule follows one of them.
-/

namespace AtLeastOnce.Receiver

/-- Whether an action is a move of the loop, of a task, or of the runtime. -/
def Action.isMove : Action → Bool
  | .loop _ => true
  | .task _ => true
  | .cut _ => true
  | .trigger => false
  | .advance _ => false

/-- Nobody can move before the clock does. -/
def Idle (options : ReceiverOptions) (world : World) (state : State) : Prop :=
  ∀ action : Action, action.isMove = true → step? options world state action = none

def Awaits (state : State) (moment : Nat) : Prop :=
  state.phase.wakeTime? = some moment ∨
    ∃ task ∈ state.inFlight, task.stage.wakeTime? = some moment

def OnTime (options : ReceiverOptions) (world : World) (state : State) :
    Action → Prop
  | .advance time =>
      Idle options world state ∧ ∀ moment, Awaits state moment → time ≤ moment
  | _ => True

/-- A run so far: where it stands, what has happened, and the tasks that the loop
has joined. -/
structure Journal where
  state : State
  history : List Occurrence
  joined : List Task

namespace Journal

def start (shutdown : Shutdown) : Journal := ⟨Receiver.start shutdown, [], []⟩

inductive Step (options : ReceiverOptions) (world : World) (journal : Journal)
    (action : Action) : Journal → Prop where
  | intro {next : State} {events : List Occurrence}
      (onTime : OnTime options world journal.state action)
      (stepped : step? options world journal.state action = some (next, events)) :
      Step options world journal action
        ⟨next, journal.history ++ events,
          journal.joined ++ joinedTasks journal.state next⟩

/-- A step that is not taken by somebody outside. -/
def Own (options : ReceiverOptions) (world : World) (journal next : Journal) : Prop :=
  ∃ action, action ≠ .trigger ∧ Step options world journal action next

def Leads (options : ReceiverOptions) (world : World) : Journal → Journal → Prop :=
  Relation.ReflTransGen fun journal next =>
    ∃ action, Step options world journal action next

def Reached (options : ReceiverOptions) (world : World) (shutdown : Shutdown)
    (journal : Journal) : Prop :=
  Leads options world (start shutdown) journal

end Journal

variable {options : ReceiverOptions} {world : World} {shutdown : Shutdown}
  {state next : State} {journal later : Journal}

/-! ## Journals are runs of the machine -/

namespace Journal

theorem Step.joins {action : Action} (step : Step options world journal action later)
    (run : Joins options world shutdown journal.state journal.history journal.joined) :
    Joins options world shutdown later.state later.history later.joined := by
  cases step with
  | intro _ stepped => exact .step run stepped

theorem Step.move {action : Action} (step : Step options world journal action later) :
    ∃ events, Move options world journal.state later.state events ∧
      later.history = journal.history ++ events := by
  cases step with
  | intro _ stepped => exact ⟨_, step?_cases stepped, rfl⟩

theorem Leads.joins (leads : Leads options world journal later)
    (run : Joins options world shutdown journal.state journal.history journal.joined) :
    Joins options world shutdown later.state later.history later.joined := by
  induction leads with
  | refl => exact run
  | tail _ step induction =>
      obtain ⟨action, step⟩ := step
      exact step.joins induction

theorem Reached.joins (reached : Reached options world shutdown journal) :
    Joins options world shutdown journal.state journal.history journal.joined :=
  Leads.joins reached .start

theorem Leads.steps (leads : Leads options world journal later) :
    ∃ events, Steps options world journal.state events later.state ∧
      later.history = journal.history ++ events := by
  induction leads with
  | refl => exact ⟨[], .refl, (List.append_nil _).symm⟩
  | tail _ step induction =>
      obtain ⟨action, onTime, stepped⟩ := step
      obtain ⟨events, steps, history⟩ := induction
      exact ⟨_, .step steps stepped, by rw [history, List.append_assoc]⟩

end Journal

/-! ## Time -/

theorem LoopMove.now_eq {made : List Event}
    (move : LoopMove options world state (next, made)) : next.now = state.now := by
  generalize same : (next, made) = result at move
  cases move with
  | refuse | begin | goOn | leaveHead | ask | call | leave | answer | retry | unsampled
  | giveUp | breakOff | resume | join | abandon | finish =>
      cases same
      first | rfl | simp [reap_eq, givingUp]

theorem Move.time_eq {events : List Occurrence} (move : Move options world state next events)
    {occurrence : Occurrence} (member : occurrence ∈ events) :
    occurrence.time = state.now := by
  cases move with
  | trigger | loop | task => exact (mem_occurrences.mp member).1
  | cut | advance => cases member

theorem Move.now_le {events : List Occurrence}
    (move : Move options world state next events) : state.now ≤ next.now := by
  cases move with
  | trigger | task | cut => exact Nat.le_refl _
  | loop move => exact Nat.le_of_eq move.now_eq.symm
  | advance later => exact Nat.le_of_lt later

/-- Only the loop takes the run from one phase to another. -/
theorem Move.loopMove {events : List Occurrence}
    (move : Move options world state next events) (changed : next.phase ≠ state.phase) :
    ∃ made, LoopMove options world state (next, made) := by
  cases move with
  | loop move => exact ⟨_, move⟩
  | trigger | task | cut | advance => exact (changed rfl).elim

theorem Reaches.time_le {history : List Occurrence} {occurrence : Occurrence}
    (reached : Reaches options world shutdown state history)
    (member : occurrence ∈ history) : occurrence.time ≤ state.now := by
  induction reached with
  | start => cases member
  | step _ stepped induction =>
      have move := step?_cases stepped
      rcases List.mem_append.mp member with earlier | now
      · exact Nat.le_trans (induction earlier) move.now_le
      · rw [move.time_eq now]
        exact move.now_le

/-! ## One step -/

/-- A move that is not made from outside, with the rule of the clock. -/
inductive OwnMove (options : ReceiverOptions) (world : World) (state : State) :
    State → List Occurrence → Prop where
  | loop {next : State} {events : List Event}
      (move : LoopMove options world state (next, events)) :
      OwnMove options world state next (occurrences state.now none events)
  | task {task after : Task} {events : List Event}
      (running : state.phase.isOver = false)
      (found : task ∈ state.inFlight)
      (stepped : task.step? world.peers options.route state.now =
        some (after, events)) :
      OwnMove options world state (putTask state after)
        (occurrences state.now (some task.number) events)
  | cut {task : Task}
      (phase : state.phase = .abandoning)
      (found : task ∈ state.inFlight)
      (unfinished : task.isFinished = false) :
      OwnMove options world state (putTask state { task with stage := .cut }) []
  | advance {time : Nat} (later : state.now < time)
      (idle : Idle options world state)
      (awaited : ∀ moment, Awaits state moment → time ≤ moment) :
      OwnMove options world state { state with now := time } []

theorem OwnMove.move {events : List Occurrence}
    (own : OwnMove options world state next events) :
    Move options world state next events := by
  cases own with
  | loop move => exact .loop move
  | task running found stepped => exact .task running found stepped
  | cut phase found unfinished => exact .cut phase found unfinished
  | advance later => exact .advance later

theorem ownMove_of_step? {events : List Occurrence} {action : Action}
    (own : action ≠ .trigger) (onTime : OnTime options world state action)
    (stepped : step? options world state action = some (next, events)) :
    OwnMove options world state next events := by
  cases action with
  | trigger => exact (own rfl).elim
  | advance time =>
      simp only [step?, Option.ite_none_right_eq_some] at stepped
      obtain ⟨later, equality⟩ := stepped
      cases equality
      exact .advance later onTime.1 onTime.2
  | loop timerFirst =>
      obtain ⟨⟨after, made⟩, moved, equality⟩ := Option.map_eq_some_iff.mp stepped
      cases equality
      exact .loop (loopStep?_cases moved)
  | task number =>
      obtain ⟨⟨after, made⟩, moved, equality⟩ := Option.map_eq_some_iff.mp stepped
      cases equality
      obtain ⟨running, task, found, rfl, after, taken, rfl⟩ := taskStep?_cases moved
      exact .task running found taken
  | cut number =>
      obtain ⟨⟨after, made⟩, moved, equality⟩ := Option.map_eq_some_iff.mp stepped
      cases equality
      obtain ⟨phase, task, found, unfinished, rfl⟩ := cutStep?_cases moved
      exact .cut phase found unfinished

namespace Journal

/-- The journal after somebody outside has raised the flag. -/
def triggered (journal : Journal) : Journal where
  state := { journal.state with shutdown := journal.state.shutdown.trigger.1 }
  history := journal.history ++ occurrences journal.state.now none
    [.shutdownTriggered journal.state.shutdown.trigger.2]
  joined := journal.joined

theorem Own.cases (own : Own options world journal later) :
    ∃ events, OwnMove options world journal.state later.state events ∧
      later.history = journal.history ++ events ∧
      later.joined = journal.joined ++ joinedTasks journal.state later.state := by
  obtain ⟨action, notTrigger, onTime, stepped⟩ := own
  exact ⟨_, ownMove_of_step? notTrigger onTime stepped, rfl, rfl⟩

/-- A step raises the flag from outside, or is taken by the machine itself. -/
theorem Step.cases {action : Action} (step : Step options world journal action later) :
    later = journal.triggered ∨ Own options world journal later := by
  by_cases trigger : action = .trigger
  · subst trigger
    obtain ⟨onTime, stepped⟩ := step
    cases stepped
    have nothing : joinedTasks journal.state journal.triggered.state = [] :=
      joinedTasks_of_appended (List.append_nil journal.state.inFlight).symm
    have kept : journal.joined ++ joinedTasks journal.state journal.triggered.state =
        journal.joined := by rw [nothing, List.append_nil]
    exact .inl (congrArg (Journal.mk _ _) kept)
  · exact .inr ⟨action, trigger, step⟩

end Journal

end AtLeastOnce.Receiver
