import AtLeastOnce.Proofs.Receiver.Clock

/-!
# How much is left to do

The number of steps that lie ahead of the tasks and of the loop, together with the
time up to a horizon, goes down with every step as long as nothing is received.  So
a drain comes to its end, and a pause to the next receive.
-/

namespace AtLeastOnce.Receiver

/-- The steps that lie ahead of some tasks, each with the step that joins it. -/
def stepsAhead : List Task → Nat
  | [] => 0
  | task :: tasks => task.stage.stepsLeft + 1 + stepsAhead tasks

/-- The steps of the loop to the next receive, or to the end of the drain. -/
def Phase.stepsLeft : Phase → Nat
  | .pausing _ => 3
  | .backingOff _ => 3
  | .reaping => 2
  | .acquiring => 1
  | .draining _ => 2
  | .abandoning => 1
  | _ => 0

def Phase.isAsking : Phase → Bool
  | .reaping => true
  | .acquiring => true
  | .requesting _ => true
  | .pausing _ => true
  | .backingOff _ => true
  | _ => false

namespace Phase

variable {phase : Phase}

theorem isEnding_of_isAsking (asking : phase.isAsking = true) :
    phase.isEnding = false := by
  cases phase with
  | reaping | acquiring | requesting | pausing | backingOff => rfl
  | starting | receiving | draining | abandoning | stopped | crashed => cases asking

theorem isOver_of_isAsking (asking : phase.isAsking = true) : phase.isOver = false := by
  cases phase with
  | reaping | acquiring | requesting | pausing | backingOff => rfl
  | starting | receiving | draining | abandoning | stopped | crashed => cases asking

theorem stepsLeft_pos_of_isEnding (ending : phase.isEnding = true) :
    0 < phase.stepsLeft := by
  cases phase with
  | draining | abandoning => simp [stepsLeft]
  | starting | reaping | acquiring | requesting | receiving | pausing | backingOff
  | stopped | crashed => cases ending

end Phase

def effort (horizon : Nat) (state : State) : Nat :=
  (horizon - state.now) + stepsAhead state.inFlight + state.phase.stepsLeft

/-! ## Tasks -/

section

variable {tasks : List Task} {task next : Task}

@[simp] theorem stepsAhead_append (tasks more : List Task) :
    stepsAhead (tasks ++ more) = stepsAhead tasks + stepsAhead more := by
  induction tasks with
  | nil => simp [stepsAhead]
  | cons task tasks induction =>
      simp only [List.cons_append, stepsAhead, induction]
      omega

theorem stepsAhead_replaceTask (distinct : (tasks.map Task.number).Nodup)
    (found : task ∈ tasks) (same : next.number = task.number)
    (fewer : next.stage.stepsLeft < task.stage.stepsLeft) :
    stepsAhead (replaceTask tasks next) < stepsAhead tasks := by
  obtain ⟨before, after, rfl⟩ := List.append_of_mem found
  rw [replaceTask_split distinct same]
  simp only [stepsAhead_append, stepsAhead]
  omega

/-- A task that moves on has fewer steps ahead of it, -/
theorem stepsAhead_of_step? {peers : Peers} {route : Route} {now : Nat} {more : List Event}
    (distinct : (tasks.map Task.number).Nodup) (found : task ∈ tasks)
    (stepped : task.step? peers route now = some (next, more)) :
    stepsAhead (replaceTask tasks next) < stepsAhead tasks := by
  have number := (Task.step?_eq_some stepped).1
  exact stepsAhead_replaceTask distinct found (by rw [number]) (Task.step?_fewer stepped)

/-- and one that is cut off has none. -/
theorem stepsAhead_of_cut (distinct : (tasks.map Task.number).Nodup) (found : task ∈ tasks)
    (unfinished : task.isFinished = false) :
    stepsAhead (replaceTask tasks { task with stage := .cut }) < stepsAhead tasks :=
  stepsAhead_replaceTask distinct found rfl (Task.stepsLeft_pos unfinished)

theorem stepsAhead_runningTasks_le (tasks : List Task) :
    stepsAhead (runningTasks tasks) ≤ stepsAhead tasks := by
  induction tasks with
  | nil => exact Nat.le_refl _
  | cons task tasks induction =>
      simp only [runningTasks, List.filter_cons] at induction ⊢
      split <;> simp only [stepsAhead] <;> omega

theorem stepsAhead_runningTasks_lt (finished : ∃ task ∈ tasks, task.isFinished = true) :
    stepsAhead (runningTasks tasks) < stepsAhead tasks := by
  obtain ⟨task, member, finished⟩ := finished
  obtain ⟨before, after, rfl⟩ := List.append_of_mem member
  have earlier := stepsAhead_runningTasks_le before
  have later := stepsAhead_runningTasks_le after
  have dropped : runningTasks (task :: after) = runningTasks after :=
    List.filter_cons_of_neg (by simp [finished])
  rw [runningTasks_append, dropped]
  simp only [stepsAhead_append, stepsAhead]
  omega

end

/-! ## The loop -/

section

variable {options : ReceiverOptions} {world : World} {state next : State}
  {made : List Event}

/-- What the loop does once it has been left: it joins what has finished, then goes on
waiting, gives up waiting at the deadline, or stops when nothing is left. -/
theorem LoopMove.ending_cases (move : LoopMove options world state (next, made))
    (ending : state.phase.isEnding = true) :
    next.inFlight = runningTasks state.inFlight ∧
      (next.phase = state.phase ∧ (∃ task ∈ state.inFlight, task.isFinished = true) ∨
        (∃ deadline, state.phase = .draining deadline ∧ deadline ≤ state.now) ∧
          next.phase = .abandoning ∨
        (∃ result, next.phase = .stopped result) ∧
          runningTasks state.inFlight = []) := by
  generalize same : (next, made) = result at move
  cases move with
  | join _ _ finished =>
      cases same
      exact ⟨rfl, .inl ⟨rfl, finished⟩⟩
  | abandon phase passed =>
      cases same
      exact ⟨rfl, .inr (.inl ⟨⟨_, phase, passed⟩, rfl⟩)⟩
  | finish _ joined =>
      cases same
      exact ⟨by simp [reap_eq], .inr (.inr ⟨⟨_, by rw [finish_fst]⟩, joined⟩)⟩
  | refuse phase | begin phase | goOn phase | leaveHead phase | ask phase | call phase
  | answer phase | retry phase | unsampled phase | giveUp phase | breakOff phase =>
      rw [phase] at ending
      cases ending
  | leave waiting =>
      rw [Phase.isWaiting_of_isEnding ending] at waiting
      cases waiting
  | resume phase => rcases phase with phase | phase <;> rw [phase] at ending <;> cases ending

/-- A step that brings the loop nearer to the next receive. -/
structure Nears (state next : State) : Prop where
  shutdown : next.shutdown = state.shutdown
  receives : next.receives = state.receives
  asking : next.phase.isAsking = true
  fewer : next.phase.stepsLeft < state.phase.stepsLeft
  inFlight : next.inFlight = state.inFlight ∨
    next.inFlight = runningTasks state.inFlight

theorem LoopMove.asking_cases (move : LoopMove options world state (next, made))
    (asking : state.phase.isAsking = true)
    (untriggered : state.shutdown.triggered = false) :
    next.receives = state.receives + 1 ∨ Nears state next := by
  generalize same : (next, made) = result at move
  cases move with
  | call =>
      cases same
      exact .inl rfl
  | goOn phase =>
      cases same
      exact .inr ⟨rfl, rfl, rfl, by simp [phase, Phase.stepsLeft], .inr rfl⟩
  | ask phase =>
      cases same
      exact .inr ⟨rfl, rfl, rfl, by simp [phase, Phase.stepsLeft], .inl rfl⟩
  | resume phase =>
      cases same
      right
      rcases phase with phase | phase <;>
        exact ⟨rfl, rfl, rfl, by simp [phase, Phase.stepsLeft], .inl rfl⟩
  | leave _ triggered | leaveHead _ triggered =>
      rw [untriggered] at triggered
      cases triggered
  | refuse phase | begin phase | answer phase | retry phase | unsampled phase
  | giveUp phase | breakOff phase | abandon phase =>
      rw [phase] at asking
      cases asking
  | join ending | finish ending =>
      rw [Phase.isEnding_of_isAsking asking] at ending
      cases ending

theorem LoopMove.effort_lt_of_ending (horizon : Nat)
    (move : LoopMove options world state (next, made))
    (ending : state.phase.isEnding = true) :
    effort horizon next < effort horizon state := by
  obtain ⟨inFlight, cases⟩ := move.ending_cases ending
  have joined := stepsAhead_runningTasks_le state.inFlight
  unfold effort
  rw [move.now_eq, inFlight]
  rcases cases with ⟨phase, finished⟩ | ⟨⟨deadline, before, _⟩, phase⟩ |
    ⟨⟨result, phase⟩, _⟩
  · have fewer := stepsAhead_runningTasks_lt finished
    rw [phase]
    omega
  · rw [phase, before]
    simp only [Phase.stepsLeft]
    omega
  · have some_left := Phase.stepsLeft_pos_of_isEnding ending
    rw [phase]
    simp only [Phase.stepsLeft] at some_left ⊢
    omega

theorem LoopMove.effort_lt_of_asking (horizon : Nat)
    (move : LoopMove options world state (next, made))
    (asking : state.phase.isAsking = true)
    (untriggered : state.shutdown.triggered = false) :
    next.receives = state.receives + 1 ∨
      effort horizon next < effort horizon state := by
  rcases move.asking_cases asking untriggered with called | nears
  · exact .inl called
  · right
    have joined := stepsAhead_runningTasks_le state.inFlight
    have fewer := nears.fewer
    unfold effort
    rw [move.now_eq]
    rcases nears.inFlight with inFlight | inFlight <;> rw [inFlight] <;> omega

/-- Whoever moves, less is left to do, if that is so for the loop. -/
theorem OwnMove.effort_lt {horizon : Nat} {events : List Occurrence}
    (own : OwnMove options world state next events)
    (distinct : (state.inFlight.map Task.number).Nodup)
    (early : Idle options world state → state.now < horizon)
    (loop : ∀ made, LoopMove options world state (next, made) →
      effort horizon next < effort horizon state) :
    effort horizon next < effort horizon state := by
  cases own with
  | loop move => exact loop _ move
  | task _ found stepped =>
      have fewer := stepsAhead_of_step? distinct found stepped
      simp only [effort, putTask]
      omega
  | cut _ found unfinished =>
      have fewer := stepsAhead_of_cut distinct found unfinished
      simp only [effort, putTask]
      omega
  | advance later idle =>
      have before := early idle
      simp only [effort]
      omega

end

end AtLeastOnce.Receiver
