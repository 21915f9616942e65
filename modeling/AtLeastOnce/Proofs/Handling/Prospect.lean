import AtLeastOnce.Proofs.Handling.Ending
import AtLeastOnce.Proofs.Handling.Timing

/-!
# What lies ahead of a task

`prospect` follows one task without a clock around it: each step is taken at the
moment for which the task waits.  Settling the task at that moment, or letting time
pass until then, changes nothing of what lies ahead.
-/

namespace AtLeastOnce.Task

/-- The moment of the next step of a task that is left alone from `now` on. -/
def nextStep? (now : Nat) (task : Task) : Option Nat :=
  match task.stage with
  | .queued => some now
  | stage => stage.wakeTime?

/-- How a task ends, when, and what happens until then. -/
structure Prospect where
  last : Nat
  task : Task
  events : List Occurrence

def unroll (peers : Peers) (route : Route) : Nat → Nat → Task → Prospect
  | 0, now, task => ⟨now, task, []⟩
  | limit + 1, now, task =>
      match nextStep? now task with
      | none => ⟨now, task, []⟩
      | some moment =>
          match step? peers route moment task with
          | none => ⟨now, task, []⟩
          | some (next, events) =>
              let later := unroll peers route limit moment next
              { later with
                events := occurrences moment (some task.number) events ++ later.events }

def prospect (peers : Peers) (route : Route) (now : Nat) (task : Task) : Prospect :=
  unroll peers route task.stage.stepsLeft now task

variable {peers : Peers} {route : Route} {now moment : Nat} {task next : Task}
  {events : List Event}

/-! ## One step at a time -/

theorem nextStep?_of_wakeTime? (now : Nat) (waits : task.stage.wakeTime? = some moment) :
    task.nextStep? now = some moment := by
  obtain ⟨number, delivery, stage⟩ := task
  cases stage with
  | queued => cases waits
  | processing | publishing | deleting => exact waits
  | done | broken | cut => cases waits

theorem step?_isSome_of_nextStep? (peers : Peers) (route : Route)
    (comes : task.nextStep? now = some moment) :
    (task.step? peers route moment).isSome = true := by
  obtain ⟨number, delivery, stage⟩ := task
  cases stage with
  | queued => rfl
  | processing until? | publishing outcome url until? | deleting outcome copyId until? =>
      have waits : until? = some moment := comes
      simp [step?, isDue, waits]
  | done | broken | cut => cases comes

theorem nextStep?_of_stepsLeft (none_left : task.stage.stepsLeft = 0) :
    task.nextStep? now = none := by
  obtain ⟨number, delivery, stage⟩ := task
  cases stage with
  | done | broken | cut => rfl
  | queued | processing | publishing | deleting => cases none_left

/-- Steps that a task cannot take make no difference. -/
theorem unroll_eq {first second : Nat} (enough : task.stage.stepsLeft ≤ first)
    (alsoEnough : task.stage.stepsLeft ≤ second) :
    unroll peers route first now task = unroll peers route second now task := by
  -- A step leaves fewer steps to take, so that both limits stay large enough.
  induction first generalizing second now task with
  | zero =>
      have still : task.nextStep? now = none := nextStep?_of_stepsLeft (Nat.le_zero.mp enough)
      cases second with
      | zero => rfl
      | succ second => simp only [unroll, still]
  | succ first induction =>
      cases second with
      | zero =>
          have still : task.nextStep? now = none :=
            nextStep?_of_stepsLeft (Nat.le_zero.mp alsoEnough)
          simp only [unroll, still]
      | succ second =>
          simp only [unroll]
          split
          · rfl
          · rename_i moment _
            split
            · rfl
            · rename_i next events stepped
              have shorter := step?_fewer stepped
              have same : unroll peers route first moment next =
                  unroll peers route second moment next := induction (by omega) (by omega)
              rw [same]

theorem prospect_of_still (still : task.nextStep? now = none) :
    prospect peers route now task = ⟨now, task, []⟩ := by
  unfold prospect
  cases task.stage.stepsLeft with
  | zero => rfl
  | succ limit => simp only [unroll, still]

theorem prospect_of_step (comes : task.nextStep? now = some moment)
    (stepped : task.step? peers route moment = some (next, events)) :
    prospect peers route now task =
      { prospect peers route moment next with
        events := occurrences moment (some task.number) events ++
          (prospect peers route moment next).events } := by
  have shorter := step?_fewer stepped
  obtain ⟨limit, left⟩ := Nat.exists_eq_add_one_of_ne_zero
    (Nat.ne_of_gt (Nat.zero_lt_of_lt shorter))
  have same : unroll peers route limit moment next = prospect peers route moment next :=
    unroll_eq (by omega) (Nat.le_refl _)
  rw [prospect, left]
  simp only [unroll, comes, stepped, same]

/-- Whatever holds of a task and of what it has done, and is kept by its steps, holds
at the end of its prospect. -/
theorem prospect_induction (peers : Peers) (route : Route) (before : List Occurrence)
    (Holds : Nat → Task → List Occurrence → Prop)
    (kept : ∀ {now moment task next events before}, Holds now task before →
      nextStep? now task = some moment →
      step? peers route moment task = some (next, events) →
        Holds moment next (before ++ occurrences moment (some task.number) events))
    (holds : Holds now task before) :
    Holds (prospect peers route now task).last (prospect peers route now task).task
      (before ++ (prospect peers route now task).events) := by
  induction left : task.stage.stepsLeft using Nat.strongRecOn
    generalizing now task before with
  | _ left induction =>
      cases comes : task.nextStep? now with
      | none =>
          rw [prospect_of_still comes]
          simpa using holds
      | some moment =>
          obtain ⟨⟨next, events⟩, stepped⟩ :=
            Option.isSome_iff_exists.mp (step?_isSome_of_nextStep? peers route comes)
          have shorter := step?_fewer stepped
          rw [prospect_of_step comes stepped, ← List.append_assoc]
          exact induction _ (by omega) _ (kept holds comes stepped) rfl

/-! ## Settling and waiting -/

/-- Nothing that the task waits for lies behind. -/
def Ahead (now : Nat) (task : Task) : Prop :=
  ∀ moment, task.stage.wakeTime? = some moment → now ≤ moment

theorem ahead_start (number : Nat) (delivery : Delivery) :
    Ahead now (start number delivery) := by
  intro moment waits
  cases waits

theorem Ahead.nextStep?_of_step? (ahead : Ahead now task)
    (stepped : task.step? peers route now = some (next, events)) :
    task.nextStep? now = some now := by
  obtain ⟨number, delivery, stage⟩ := task
  cases stage with
  | queued => rfl
  | processing until? | publishing outcome url until? | deleting outcome copyId until? =>
      simp only [step?, Option.ite_none_right_eq_some] at stepped
      exact eq_some_of_isDue stepped.1 ahead
  | done | broken | cut => simp [step?] at stepped

theorem Ahead.le_nextStep? (ahead : Ahead now task)
    (comes : task.nextStep? now = some moment) : now ≤ moment := by
  obtain ⟨number, delivery, stage⟩ := task
  cases stage with
  | queued => exact Nat.le_of_eq (Option.some.inj comes)
  | processing | publishing | deleting => exact ahead moment comes
  | done | broken | cut => cases comes

theorem ahead_nextStep? (comes : task.nextStep? now = some moment) :
    Ahead moment task := by
  obtain ⟨number, delivery, stage⟩ := task
  intro other waits
  cases stage with
  | processing | publishing | deleting =>
      exact Nat.le_of_eq (Option.some.inj (comes.symm.trans waits))
  | queued | done | broken | cut => cases waits

theorem Ahead.le_last (ahead : Ahead now task) :
    now ≤ (prospect peers route now task).last := by
  refine (prospect_induction peers route []
    (fun moment task _ => now ≤ moment ∧ Ahead moment task) ?_ ⟨Nat.le_refl now, ahead⟩).1
  intro _ _ _ _ _ _ holds comes stepped
  exact ⟨Nat.le_trans holds.1 (holds.2.le_nextStep? comes),
    (step?_timely stepped (ahead_nextStep? comes)).ahead⟩

theorem le_last_of_nextStep? (comes : task.nextStep? now = some moment) :
    moment ≤ (prospect peers route now task).last := by
  obtain ⟨⟨next, events⟩, stepped⟩ := Option.isSome_iff_exists.mp
    (step?_isSome_of_nextStep? peers route comes)
  have timely := step?_timely stepped (ahead_nextStep? comes)
  rw [prospect_of_step comes stepped]
  exact Ahead.le_last timely.ahead

/-- What a task does at one moment is the beginning of what lies ahead of it. -/
theorem stepUpTo_prospect {limit : Nat} (ahead : Ahead now task) :
    Ahead now (stepUpTo peers route now limit task).1 ∧
      prospect peers route now task =
        { prospect peers route now (stepUpTo peers route now limit task).1 with
          events := occurrences now (some task.number)
              (stepUpTo peers route now limit task).2 ++
            (prospect peers route now (stepUpTo peers route now limit task).1).events } := by
  induction limit generalizing task with
  | zero => exact ⟨ahead, rfl⟩
  | succ limit induction =>
      cases stepped : step? peers route now task with
      | none =>
          simp only [stepUpTo, stepped]
          exact ⟨ahead, rfl⟩
      | some result =>
          obtain ⟨next, events⟩ := result
          have timely := step?_timely stepped ahead
          have number_eq : next.number = task.number := by
            rw [(step?_eq_some stepped).1]
          obtain ⟨later, rest⟩ := induction timely.ahead
          simp only [stepUpTo, stepped]
          refine ⟨later, ?_⟩
          rw [prospect_of_step (ahead.nextStep?_of_step? stepped) stepped, rest]
          simp [occurrences, number_eq]

theorem stepUpTo_still {limit : Nat} (enough : task.stage.stepsLeft ≤ limit) :
    step? peers route now (stepUpTo peers route now limit task).1 = none := by
  induction limit generalizing task with
  | zero =>
      obtain ⟨number, delivery, stage⟩ := task
      cases stage with
      | done | broken | cut => rfl
      | queued | processing | publishing | deleting => cases enough
  | succ limit induction =>
      cases stepped : step? peers route now task with
      | none => simp only [stepUpTo, stepped]
      | some result =>
          obtain ⟨next, events⟩ := result
          have shorter := step?_fewer stepped
          simp only [stepUpTo, stepped]
          exact induction (by omega)

theorem stepUpTo_stepsLeft (limit : Nat) (task : Task) :
    (stepUpTo peers route now limit task).1.stage.stepsLeft ≤ task.stage.stepsLeft := by
  induction limit generalizing task with
  | zero => exact Nat.le_refl _
  | succ limit induction =>
      cases stepped : step? peers route now task with
      | none => simp only [stepUpTo, stepped, Nat.le_refl]
      | some result =>
          obtain ⟨next, events⟩ := result
          have shorter := step?_fewer stepped
          have rest := induction next
          simp only [stepUpTo, stepped]
          omega

theorem stepUpTo_fewer {limit : Nat} (some_limit : 0 < limit)
    (moves : (step? peers route now task).isSome = true) :
    (stepUpTo peers route now limit task).1.stage.stepsLeft < task.stage.stepsLeft := by
  obtain ⟨limit, rfl⟩ := Nat.exists_eq_add_one_of_ne_zero (Nat.ne_of_gt some_limit)
  obtain ⟨⟨next, events⟩, stepped⟩ := Option.isSome_iff_exists.mp moves
  have shorter := step?_fewer stepped
  have rest : (stepUpTo peers route now limit next).1.stage.stepsLeft ≤ next.stage.stepsLeft :=
    stepUpTo_stepsLeft limit next
  simp only [stepUpTo, stepped]
  omega

/-- A task that has settled waits for a later moment, or for nothing. -/
theorem nextStep?_of_settled (settled : step? peers route now task = none) :
    task.nextStep? moment = task.stage.wakeTime? := by
  obtain ⟨number, delivery, stage⟩ := task
  cases stage with
  | queued => simp [step?] at settled
  | processing | publishing | deleting | done | broken | cut => rfl

/-- The passing of time until a task's next moment leaves what lies ahead of it as it
was; a task that waits for nothing only grows older. -/
theorem prospect_of_settled {later : Nat} (settled : step? peers route now task = none)
    (passes : now ≤ later)
    (inTime : ∀ moment, task.stage.wakeTime? = some moment → later ≤ moment) :
    prospect peers route later task =
      { prospect peers route now task with
        last := max later (prospect peers route now task).last } := by
  have before : task.nextStep? now = task.stage.wakeTime? := nextStep?_of_settled settled
  have after : task.nextStep? later = task.stage.wakeTime? := nextStep?_of_settled settled
  cases waits : task.stage.wakeTime? with
  | none =>
      rw [prospect_of_still (after.trans waits), prospect_of_still (before.trans waits),
        Nat.max_eq_left passes]
  | some moment =>
      obtain ⟨⟨next, events⟩, stepped⟩ := Option.isSome_iff_exists.mp
        (step?_isSome_of_nextStep? peers route (after.trans waits))
      have reaches : moment ≤ (prospect peers route now task).last :=
        le_last_of_nextStep? (before.trans waits)
      rw [Nat.max_eq_right (Nat.le_trans (inTime moment waits) reaches),
        prospect_of_step (after.trans waits) stepped,
        prospect_of_step (before.trans waits) stepped]

end AtLeastOnce.Task
