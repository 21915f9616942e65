import AtLeastOnce.Http.Schedule
import Mathlib.Data.List.Basic

/-!
# The transitions of the listener

`LoopMove` lists what the server itself can do in one step and `Move` what the machine
can do, each with its guard and the state that it leads to.  What was done tells which
requests were accepted, and when the shutdown was triggered.
-/

namespace AtLeastOnce.Http.Server

variable {options : Options} {shutdown : Shutdown} {state next : State}
  {deeds : List Deed}

inductive LoopMove (options : Options) (state : State) : State → Prop where
  /-- The task has ended before the server has closed. -/
  | overtaken {result : Except Failure Unit} (phase : state.phase = .serving)
      (ended : taskEnd? state = some result) :
      LoopMove options state { state with phase := .stopped result }
  | close (phase : state.phase = .serving) (triggered : state.shutdown.triggered = true) :
      LoopMove options state (close options state)
  | conclude {deadline : Nat} {result : Except Failure Unit}
      (phase : state.phase = .closing deadline) (ended : taskEnd? state = some result) :
      LoopMove options state (conclude options state result)
  | force {deadline : Nat} (phase : state.phase = .closing deadline)
      (unended : taskEnd? state = none) (late : deadline ≤ state.now) :
      LoopMove options state (force options state)

/-- A server that has to wait. -/
inductive Waits (state : State) : Prop where
  | serving (phase : state.phase = .serving)
      (untriggered : state.shutdown.triggered = false)
  | closing {deadline : Nat} (phase : state.phase = .closing deadline)
      (unended : taskEnd? state = none) (early : state.now < deadline)
  | stopped (stopped : isStopped state = true)

theorem loopStep?_cases {taskFirst : Bool}
    (stepped : loopStep? options taskFirst state = some next) :
    LoopMove options state next := by
  unfold loopStep? at stepped
  cases phase : state.phase with
  | serving =>
      simp only [phase] at stepped
      cases ended : taskEnd? state with
      | none =>
          simp only [ended, Option.ite_none_right_eq_some, Option.some.injEq] at stepped
          obtain ⟨triggered, rfl⟩ := stepped
          exact .close phase triggered
      | some result =>
          simp only [ended] at stepped
          split at stepped
          · cases stepped
            exact .overtaken phase ended
          · rename_i closes
            cases stepped
            cases triggered : state.shutdown.triggered with
            | true => exact .close phase triggered
            | false => simp [triggered] at closes
  | closing deadline =>
      simp only [phase] at stepped
      cases ended : taskEnd? state with
      | none =>
          simp only [ended, Option.ite_none_right_eq_some, Option.some.injEq] at stepped
          obtain ⟨late, rfl⟩ := stepped
          exact .force phase ended late
      | some result =>
          simp only [ended, Option.some.injEq] at stepped
          cases stepped
          exact .conclude phase ended
  | stopped result => simp [phase] at stepped

theorem waits_of_loopStep? {taskFirst : Bool}
    (idle : loopStep? options taskFirst state = none) : Waits state := by
  unfold loopStep? at idle
  cases phase : state.phase with
  | serving =>
      simp only [phase] at idle
      cases ended : taskEnd? state with
      | none =>
          simp only [ended, ite_eq_right_iff, reduceCtorEq, imp_false,
            Bool.not_eq_true] at idle
          exact .serving phase idle
      | some result => simp [ended, ← apply_ite] at idle
  | closing deadline =>
      simp only [phase] at idle
      cases ended : taskEnd? state with
      | none =>
          simp only [ended, ite_eq_right_iff, reduceCtorEq, imp_false] at idle
          exact .closing phase ended (Nat.lt_of_not_le idle)
      | some result => simp [ended] at idle
  | stopped result => exact .stopped (by simp [isStopped, phase])

inductive Move (options : Options) (state : State) : Action → State → Prop where
  | accept {request : Request} (phase : state.phase = .serving)
      (untriggered : state.shutdown.triggered = false) :
      Move options state (.accept request) (accept options state request)
  | reply {exchange : Exchange} (running : isStopped state = false)
      (member : exchange ∈ state.opened) (due : isDue state.now exchange.endsAt = true) :
      Move options state (.reply exchange.number) (sendReply state exchange)
  | trigger :
      Move options state .trigger { state with shutdown := state.shutdown.trigger.1 }
  | loop {taskFirst : Bool} {after : State} (move : LoopMove options state after) :
      Move options state (.loop taskFirst) after
  | fail {fault : Fault} :
      Move options state (.fail fault) { state with fault := some fault }
  | advance {time : Nat} (later : state.now < time) (running : isStopped state = false)
      (waits : Waits state)
      (within : ∀ moment, some moment ∈ moments state → time ≤ moment) :
      Move options state (.advance time) { state with now := time }

theorem step?_cases {action : Action} (stepped : step? options state action = some next) :
    Move options state action next := by
  cases action with
  | accept request =>
      simp only [step?, Option.ite_none_right_eq_some, Option.some.injEq] at stepped
      obtain ⟨listening, rfl⟩ := stepped
      unfold isListening at listening
      split at listening
      · rename_i phase
        rw [Bool.and_eq_true, Bool.not_eq_true'] at listening
        exact .accept phase listening.1
      · cases listening
  | reply number =>
      simp only [step?, Option.ite_none_left_eq_some, Option.map_eq_some_iff,
        Bool.not_eq_true] at stepped
      obtain ⟨running, exchange, found, rfl⟩ := stepped
      have suits := List.find?_some found
      rw [Bool.and_eq_true, decide_eq_true_eq] at suits
      obtain ⟨rfl, due⟩ := suits
      exact .reply running (List.mem_of_find?_eq_some found) due
  | trigger =>
      cases stepped
      exact .trigger
  | loop taskFirst => exact .loop (loopStep?_cases stepped)
  | fail fault =>
      simp only [step?, Option.ite_none_left_eq_some, Option.some.injEq] at stepped
      obtain ⟨_, rfl⟩ := stepped
      exact .fail
  | advance time =>
      simp only [step?, Option.ite_none_right_eq_some, Option.some.injEq, mayAdvance,
        Bool.and_eq_true, decide_eq_true_eq, Bool.not_eq_true', Option.isNone_iff_eq_none,
        List.all_eq_true] at stepped
      obtain ⟨⟨⟨⟨later, running⟩, idle⟩, within⟩, rfl⟩ := stepped
      refine .advance later running (waits_of_loopStep? idle) ?_
      intro moment member
      exact of_decide_eq_true (within (some moment) member)

/-! ## What was done -/

/-- The request that a deed has accepted. -/
def Deed.arrival? (deed : Deed) : Option Arrival :=
  match deed.action with
  | .accept request => some ⟨deed.time, request⟩
  | _ => none

def Deed.isTrigger (deed : Deed) : Bool :=
  match deed.action with
  | .trigger => true
  | _ => false

/-- The requests that were accepted, in their order. -/
def arrivals (deeds : List Deed) : List Arrival := deeds.filterMap Deed.arrival?

/-- The moment of the shutdown, which may be over before anything is done. -/
def shutdownAt? (shutdown : Shutdown) (deeds : List Deed) : Option Nat :=
  if shutdown.triggered then some 0 else (deeds.find? Deed.isTrigger).map Deed.time

theorem arrivals_snoc_of_some {deed : Deed} {arrival : Arrival}
    (taken : deed.arrival? = some arrival) :
    arrivals (deeds ++ [deed]) = arrivals deeds ++ [arrival] := by
  simp [arrivals, taken]

theorem arrivals_snoc_of_none {deed : Deed} (other : deed.arrival? = none) :
    arrivals (deeds ++ [deed]) = arrivals deeds := by
  simp [arrivals, other]

theorem shutdownAt?_append {moment : Nat} (known : shutdownAt? shutdown deeds = some moment)
    (more : List Deed) : shutdownAt? shutdown (deeds ++ more) = some moment := by
  unfold shutdownAt? at known ⊢
  split at known
  · rwa [if_pos ‹_›]
  · obtain ⟨first, found, rfl⟩ := Option.map_eq_some_iff.mp known
    rw [if_neg ‹_›, List.find?_append, found]
    rfl

theorem shutdownAt?_snoc_of_other {deed : Deed} (other : deed.isTrigger = false) :
    shutdownAt? shutdown (deeds ++ [deed]) = shutdownAt? shutdown deeds := by
  simp [shutdownAt?, List.find?_append, other]

theorem shutdownAt?_snoc_trigger {time : Nat} (unknown : shutdownAt? shutdown deeds = none) :
    shutdownAt? shutdown (deeds ++ [⟨time, .trigger⟩]) = some time := by
  unfold shutdownAt? at unknown ⊢
  split at unknown
  · cases unknown
  · rw [if_neg ‹_›, List.find?_append, Option.map_eq_none_iff.mp unknown]
    rfl

/-- The flag is up as soon as the shutdown has a moment. -/
theorem Runs.triggered (runs : Runs options shutdown state deeds) :
    state.shutdown.triggered = (shutdownAt? shutdown deeds).isSome := by
  induction runs with
  | start =>
      unfold shutdownAt? Server.start
      cases shutdown.triggered <;> rfl
  | @step state next deeds action _ stepped induction =>
      cases step?_cases stepped with
      | trigger =>
          cases known : shutdownAt? shutdown deeds with
          | none =>
              rw [shutdownAt?_snoc_trigger known]
              rfl
          | some moment =>
              rw [shutdownAt?_append known]
              rfl
      | accept | reply | fail | advance =>
          rw [shutdownAt?_snoc_of_other rfl]
          exact induction
      | loop move =>
          rw [shutdownAt?_snoc_of_other rfl, ← induction]
          cases move with
          | overtaken | close | conclude | force => rfl

theorem Runs.triggered_of_told (runs : Runs options shutdown state deeds) {moment : Nat}
    (told : shutdownAt? shutdown deeds = some moment) : state.shutdown.triggered = true := by
  rw [runs.triggered, told]
  rfl

/-! ## The schedule -/

theorem advance?_runs {before after : Run} (advanced : advance? options before = some after)
    (runs : Runs options shutdown before.state deeds) :
    ∃ later, Runs options shutdown after.state later := by
  unfold advance? at advanced
  rw [Option.ite_none_left_eq_some] at advanced
  obtain ⟨_, taken⟩ := advanced
  obtain ⟨action, _, taken⟩ := Option.bind_eq_some_iff.mp taken
  cases action with
  | accept request =>
      simp only [Option.some.injEq] at taken
      obtain rfl := taken
      dsimp only
      -- A request that nobody accepts any more leaves the server as it is.
      cases stepped : step? options before.state (.accept request) with
      | none => exact ⟨deeds, runs⟩
      | some next => exact ⟨_, .step runs stepped⟩
  | trigger | reply | loop | fail | advance =>
      obtain ⟨next, stepped, rfl⟩ := Option.map_eq_some_iff.mp taken
      exact ⟨_, .step runs stepped⟩

theorem runUpTo_runs (limit : Nat) {before : Run}
    (runs : Runs options shutdown before.state deeds) :
    ∃ later, Runs options shutdown (runUpTo options limit before).state later := by
  induction limit generalizing before deeds with
  | zero => exact ⟨deeds, runs⟩
  | succ limit induction =>
      unfold runUpTo
      cases advanced : advance? options before with
      | none => exact ⟨deeds, runs⟩
      | some after =>
          obtain ⟨later, runs⟩ := advance?_runs advanced runs
          exact induction runs

/-- A scheduled run is a run of the machine. -/
theorem run_runs (options : Options) (shutdown : Shutdown) (triggerAt : Option Nat)
    (arrivals : List Arrival) :
    ∃ deeds, Runs options shutdown (run options shutdown triggerAt arrivals).state deeds :=
  runUpTo_runs _ .start

end AtLeastOnce.Http.Server
