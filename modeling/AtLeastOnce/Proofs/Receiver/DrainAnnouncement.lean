import AtLeastOnce.Proofs.Receiver.Abandoned
import AtLeastOnce.Proofs.Receiver.Draining
import AtLeastOnce.Proofs.Receiver.Permits
import AtLeastOnce.Proofs.Receiver.Reception

/-!
# What is announced as in flight

As the loop is left, it announces the tasks that it has not joined.  It joins tasks at
its head only, so a task that has finished since then is announced with those that
still run, unless the loop is left at its head.
-/

namespace AtLeastOnce.Receiver

/-- The tasks in flight that an event announces. -/
def inFlight? : Event → Option Nat
  | .logged (.draining _ inFlight _) => some inFlight
  | _ => none

def announcements (history : List Occurrence) : List Nat :=
  (loopEvents history).filterMap inFlight?

/-- What is announced of some tasks. -/
def announcementOf (tasks : List Task) : List Nat :=
  if tasks = [] then [] else [tasks.length]

variable {options : ReceiverOptions} {world : World} {shutdown : Shutdown}
  {state next : State} {history events : List Occurrence} {joined : List Task}
  {made : List Event}

@[simp] theorem announcements_append (history later : List Occurrence) :
    announcements (history ++ later) = announcements history ++ announcements later := by
  simp [announcements]

@[simp] theorem inFlight_enter (worker : WorkerState) :
    (enter options state worker).2.filterMap inFlight? = [] := by
  refine List.filterMap_eq_nil_iff.mpr ?_
  intro event member
  rw [mem_enter_events member]
  rfl

@[simp] theorem inFlight_reap : (reap state).2.filterMap inFlight? = [] := by
  refine List.filterMap_eq_nil_iff.mpr ?_
  intro event member
  obtain ⟨text, rfl⟩ := mem_reap_events member
  rfl

@[simp] theorem inFlight_finish : (finish options state).2.filterMap inFlight? = [] := by
  refine List.filterMap_eq_nil_iff.mpr ?_
  intro event member
  rcases mem_finish_events member with rfl | rfl <;> rfl

@[simp] theorem inFlight_beginDrain :
    (beginDrain options state).2.filterMap inFlight? = announcementOf state.inFlight := by
  unfold beginDrain announcementOf
  simp only [enter_fst, List.filterMap_append, inFlight_enter, List.nil_append,
    List.isEmpty_iff]
  split <;> rfl

/-- What a move of the loop announces: nothing, unless it leaves the loop. -/
inductive Announces (state next : State) (made : List Event) : Prop where
  | silent (unsaid : made.filterMap inFlight? = [])
      (stays : state.phase.hasLeft = true → next.phase.hasLeft = true)
      (remains : state.phase.hasLeft = false → ∀ deadline, next.phase ≠ .draining deadline)
  | leaves (inside : state.phase.hasLeft = false)
      (left : next.phase.hasLeft = true)
      (said : made.filterMap inFlight? = announcementOf next.inFlight)
      (head : state.phase = .reaping → next.inFlight = runningTasks state.inFlight)

theorem hasLeft_of_isWaiting {phase : Phase} (waiting : phase.isWaiting = true) :
    phase.hasLeft = false := by
  cases phase with
  | acquiring | requesting | receiving | pausing | backingOff => rfl
  | starting | reaping | draining | abandoning | stopped | crashed => cases waiting

theorem hasLeft_of_isEnding {phase : Phase} (ending : phase.isEnding = true) :
    phase.hasLeft = true := by
  cases phase with
  | draining | abandoning => rfl
  | starting | reaping | acquiring | requesting | receiving | pausing | backingOff
  | stopped | crashed => cases ending

theorem LoopMove.announces (move : LoopMove options world state (next, made)) :
    Announces state next made := by
  generalize same : (next, made) = result at move
  cases move with
  | refuse | unsampled | breakOff =>
      cases same
      exact .silent rfl (fun _ => rfl) (by simp)
  | begin phase | call phase | retry phase =>
      cases same
      exact .silent rfl (by simp [phase, Phase.hasLeft]) (by simp)
  | goOn phase =>
      cases same
      exact .silent inFlight_reap (by simp [phase, Phase.hasLeft]) (by simp)
  | ask phase =>
      cases same
      exact .silent (inFlight_enter _) (by simp [phase, Phase.hasLeft]) (by simp)
  | resume phase =>
      cases same
      refine .silent rfl ?_ (by simp)
      rcases phase with phase | phase <;> simp [phase, Phase.hasLeft]
  | @answer request _ deliveries phase =>
      cases same
      refine .silent (List.filterMap_eq_nil_iff.mpr ?_) (by simp [phase, Phase.hasLeft]) ?_
      · intro event member
        rcases List.mem_cons.mp member with rfl | later
        · rfl
        · rcases mem_onDeliveries_events later with rfl | rfl | rfl | rfl <;> rfl
      · intro _ deadline
        simp only [onDeliveries_fst]
        split <;> simp
  | leaveHead phase =>
      cases same
      refine .leaves (by rw [phase]; rfl) (by simp [Phase.hasLeft]) ?_ ?_
      · rw [List.filterMap_append, inFlight_reap, inFlight_beginDrain, beginDrain_fst]
        rfl
      · intro _
        rw [beginDrain_fst]
        rfl
  | leave waiting =>
      cases same
      refine .leaves (hasLeft_of_isWaiting waiting) (by simp [Phase.hasLeft]) ?_ ?_
      · rw [inFlight_beginDrain, beginDrain_fst]
      · intro head
        rw [head] at waiting
        cases waiting
  | giveUp phase =>
      cases same
      refine .leaves (by rw [phase]; rfl) (by simp [Phase.hasLeft]) ?_ ?_
      · rw [List.filterMap_cons_none rfl, List.filterMap_cons_none rfl, inFlight_beginDrain,
          beginDrain_fst]
      · intro head
        rw [head] at phase
        cases phase
  | join ending =>
      cases same
      refine .silent inFlight_reap id ?_
      intro inside
      rw [hasLeft_of_isEnding ending] at inside
      cases inside
  | abandon phase =>
      cases same
      refine .silent ?_ (fun _ => rfl) (by simp)
      rw [List.filterMap_append, inFlight_reap]
      rfl
  | finish =>
      cases same
      refine .silent ?_ (fun _ => by simp [Phase.hasLeft]) (by simp)
      rw [List.filterMap_append, inFlight_reap, inFlight_finish]
      rfl

/-- A move of anybody else announces nothing, and leaves the loop where it is. -/
theorem Move.announces (move : Move options world state next events) :
    (∃ made, LoopMove options world state (next, made) ∧
        events = occurrences state.now none made) ∨
      announcements events = [] ∧ next.phase = state.phase := by
  cases move with
  | loop move => exact .inl ⟨_, move, rfl⟩
  | trigger | cut | advance => exact .inr ⟨rfl, rfl⟩
  | task =>
      refine .inr ⟨?_, rfl⟩
      rw [announcements, loopEvents_occurrences_some]
      rfl

/-- Before the loop is left, nothing has been announced. -/
theorem Reaches.announcements_eq_nil
    (reached : Reaches options world shutdown state history)
    (inside : state.phase.hasLeft = false) : announcements history = [] := by
  induction reached with
  | start => rfl
  | step _ stepped induction =>
      rw [announcements_append]
      rcases (step?_cases stepped).announces with ⟨made, move, rfl⟩ | ⟨unsaid, phase⟩
      · cases move.announces with
        | silent unsaid stays =>
            have before := mt stays (by rw [inside]; exact Bool.false_ne_true)
            rw [induction (eq_false_of_ne_true before), announcements,
              loopEvents_occurrences_none, unsaid]
            rfl
        | leaves _ left =>
            rw [inside] at left
            cases left
      · rw [phase] at inside
        rw [induction inside, unsaid]
        rfl

/-- After the loop has been left, nothing is announced any more. -/
theorem Steps.announcements_eq_nil (steps : Steps options world state events next)
    (left : state.phase.hasLeft = true) :
    next.phase.hasLeft = true ∧ announcements events = [] := by
  induction steps with
  | refl => exact ⟨left, rfl⟩
  | step _ stepped induction =>
      obtain ⟨outside, unsaid⟩ := induction
      rw [announcements_append, unsaid]
      rcases (step?_cases stepped).announces with ⟨made, move, rfl⟩ | ⟨nothing, phase⟩
      · rw [announcements, loopEvents_occurrences_none]
        cases move.announces with
        | silent nothing stays => exact ⟨stays outside, nothing⟩
        | leaves inside =>
            rw [outside] at inside
            cases inside
      · rw [phase]
        exact ⟨outside, nothing⟩

/-! ## The announcement of a run -/

/-- What a run announces that goes by a step from its loop to its drain. -/
structure Parts (options : ReceiverOptions) (world : World) (state next : State)
    (history : List Occurrence) (joined : List Task) : Prop where
  /-- The tasks that have not been joined are announced, if there are any. -/
  said : announcements history = announcementOf next.inFlight
  unjoined : next.inFlight.length + joined.length = (handedOut history).length
  /-- Some of them may have finished; the others run as they did before the step. -/
  counted : next.inFlight.length =
    (finishedTasks next.inFlight).length + (runningTasks state.inFlight).length
  /-- None of them has, if the loop is left at its head. -/
  atHead : state.phase = .reaping → finishedTasks next.inFlight = []
  /-- So those that run are announced just when no other is left. -/
  exact_iff : announcements history = announcementOf (runningTasks state.inFlight) ↔
    finishedTasks next.inFlight = []
  /-- It is the only announcement of the run. -/
  once : ∀ {later more}, Steps options world next more later →
    announcements (history ++ more) = announcements history

theorem announcementOf_eq_iff {tasks others : List Task} :
    announcementOf tasks = announcementOf others ↔ tasks.length = others.length := by
  unfold announcementOf
  cases tasks with
  | nil => cases others <;> simp
  | cons first rest => cases others <;> simp

theorem Joins.announcesUnjoined {action : Action} {deadline : Nat}
    (run : Joins options world shutdown state history joined)
    (stepped : step? options world state action = some (next, events))
    (inside : state.phase.hasLeft = false) (drains : next.phase = .draining deadline) :
    Parts options world state next (history ++ events)
      (joined ++ joinedTasks state next) := by
  have ledger := (run.step stepped).ledger
  have before := run.reaches.announcements_eq_nil inside
  rcases (step?_cases stepped).announces with ⟨made, move, rfl⟩ | ⟨_, phase⟩
  · cases move.announces with
    | silent _ _ remains => exact (remains inside deadline drains).elim
    | leaves _ left said head =>
        have unended : state.phase.isEnding = false := by
          by_contra ending
          rw [hasLeft_of_isEnding (eq_true_of_ne_false ending)] at inside
          cases inside
        have running := (move.leaving unended drains).2.2
        have parts := (finishedTasks_append_runningTasks next.inFlight).length_eq
        rw [List.length_append, running] at parts
        have announced : announcements (history ++ occurrences state.now none made) =
            announcementOf next.inFlight := by
          rw [announcements_append, before, announcements, loopEvents_occurrences_none, said]
          rfl
        refine ⟨announced, ?_, parts.symm, ?_, ?_, ?_⟩
        · have numbers := ledger.numbers.length_eq
          rw [List.length_map, List.length_append, List.length_range] at numbers
          rw [ledger.handed]
          omega
        · intro reaping
          rw [head reaping]
          simp [finishedTasks, runningTasks]
        · rw [announced, announcementOf_eq_iff, ← parts, ← List.length_eq_zero_iff]
          omega
        · intro later more steps
          rw [announcements_append, (steps.announcements_eq_nil left).2, List.append_nil]
  · rw [← phase, drains] at inside
    cases inside

/-! ## A task that has finished long before -/

/-- The delivery is deleted after a hundred and six milliseconds; the shutdown comes
after two hundred, while the loop waits for its second receive. -/
def longFinishedRun (steps : Nat) : Run :=
  run thirtyMilliseconds slowDelete (some 200) steps

theorem longFinished_reaches :
    Reaches thirtyMilliseconds slowDelete .idle (longFinishedRun 16).state
      (longFinishedRun 16).history :=
  run_reaches thirtyMilliseconds slowDelete (some 200) 16

theorem longFinished_step : ∃ next events,
    step? thirtyMilliseconds slowDelete (longFinishedRun 16).state (.loop false) =
        some (next, events) ∧
      next.phase = .draining 230 ∧ announcements events = [1] :=
  ⟨_, _, rfl, rfl, rfl⟩

/-- One task is announced, and it has finished. -/
theorem announcesUnjoined_longFinished :
    ∃ joined next events,
      Joins thirtyMilliseconds slowDelete .idle (longFinishedRun 16).state
        (longFinishedRun 16).history joined ∧
      (longFinishedRun 16).state.phase.hasLeft = false ∧
      step? thirtyMilliseconds slowDelete (longFinishedRun 16).state (.loop false) =
        some (next, events) ∧
      next.phase = .draining 230 ∧
      Parts thirtyMilliseconds slowDelete (longFinishedRun 16).state next
        ((longFinishedRun 16).history ++ events)
        (joined ++ joinedTasks (longFinishedRun 16).state next) := by
  obtain ⟨joined, run⟩ := longFinished_reaches.joins
  obtain ⟨next, events, stepped, phase, _⟩ := longFinished_step
  exact ⟨joined, next, events, run, rfl, stepped, phase,
    run.announcesUnjoined stepped rfl phase⟩

/-- So it is not true that the tasks are announced that still run. -/
theorem finished_may_be_announced :
    ¬ ∀ (options : ReceiverOptions) (world : World) (shutdown : Shutdown)
        (state next : State) (history events : List Occurrence) (action : Action)
        (deadline : Nat),
        Reaches options world shutdown state history →
          state.phase.hasLeft = false →
            step? options world state action = some (next, events) →
              next.phase = .draining deadline →
                announcements events = announcementOf (runningTasks state.inFlight) := by
  intro promised
  obtain ⟨next, events, stepped, phase, announced⟩ := longFinished_step
  have nothing := promised _ _ _ _ _ _ _ _ _ longFinished_reaches rfl stepped phase
  rw [announced] at nothing
  cases nothing

end AtLeastOnce.Receiver
