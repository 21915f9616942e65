import AtLeastOnce.Handling.Batch
import AtLeastOnce.Proofs.Handling.Prospect
import Mathlib.Algebra.GroupWithZero.Nat
import Mathlib.Algebra.Order.BigOperators.Group.List
import Mathlib.Algebra.Order.Group.Nat
import Mathlib.Data.List.Nodup
import Mathlib.Data.List.Perm.Basic

/-!
# Tasks side by side

The tasks of a batch share one clock and nothing else.  So what a batch comes to is,
task by task, what lies ahead of each when it is alone.
-/

namespace AtLeastOnce

/-- What the task with a number has done, and when. -/
def ownPart (number : Nat) (history : List Occurrence) : List Occurrence :=
  history.filter fun occurrence => occurrence.task = some number

@[simp] theorem ownPart_append (number : Nat) (history later : List Occurrence) :
    ownPart number (history ++ later) = ownPart number history ++ ownPart number later :=
  List.filter_append _ _

theorem ownPart_eq_self {number : Nat} {history : List Occurrence}
    (own : ∀ occurrence ∈ history, occurrence.task = some number) :
    ownPart number history = history :=
  List.filter_eq_self.mpr fun occurrence member => by simpa using own occurrence member

theorem ownPart_eq_nil {number other : Nat} {history : List Occurrence}
    (own : ∀ occurrence ∈ history, occurrence.task = some other)
    (different : other ≠ number) : ownPart number history = [] := by
  apply List.filter_eq_nil_iff.mpr
  intro occurrence member
  simp [own occurrence member, different]

theorem task_of_mem_occurrences {time : Nat} {task : Option Nat} {events : List Event}
    {occurrence : Occurrence} (member : occurrence ∈ occurrences time task events) :
    occurrence.task = task := by
  obtain ⟨event, _, rfl⟩ := List.mem_map.mp member
  rfl

/-- Among what several tasks have done, each finds what it has done itself. -/
theorem ownPart_flatMap {tasks : List Task} {task : Task} {part : Task → List Occurrence}
    (distinct : (tasks.map Task.number).Nodup)
    (own : ∀ task, ∀ occurrence ∈ part task, occurrence.task = some task.number)
    (member : task ∈ tasks) :
    ownPart task.number (tasks.flatMap part) = part task := by
  induction tasks with
  | nil => cases member
  | cons head rest induction =>
      obtain ⟨fresh, distinctRest⟩ := List.nodup_cons.mp distinct
      rw [List.flatMap_cons, ownPart_append]
      rcases List.mem_cons.mp member with rfl | later
      · have others : ownPart task.number (rest.flatMap part) = [] := by
          apply List.filter_eq_nil_iff.mpr
          intro occurrence inside
          obtain ⟨other, otherMember, found⟩ := List.mem_flatMap.mp inside
          have different : other.number ≠ task.number := by
            rintro same
            exact fresh (same ▸ List.mem_map_of_mem otherMember)
          simp [own other occurrence found, different]
        rw [others, List.append_nil, ownPart_eq_self (own task)]
      · have different : head.number ≠ task.number := by
          intro same
          exact fresh (same ▸ List.mem_map_of_mem later)
        rw [ownPart_eq_nil (own head) different, List.nil_append,
          induction distinctRest later]

namespace Task

variable {peers : Peers} {route : Route} {now : Nat} {task : Task}

theorem task_of_mem_prospect {occurrence : Occurrence}
    (member : occurrence ∈ (prospect peers route now task).events) :
    occurrence.task = some task.number := by
  refine (prospect_induction peers route []
    (fun _ other before => other.number = task.number ∧
      ∀ occurrence ∈ before, occurrence.task = some task.number) ?_
    ⟨rfl, by simp⟩).2 occurrence member
  intro _ _ _ next _ _ holds _ stepped
  obtain ⟨same, own⟩ := holds
  refine ⟨?_, ?_⟩
  · rw [(step?_eq_some stepped).1]
    exact same
  · intro occurrence inside
    rcases List.mem_append.mp inside with early | late
    · exact own occurrence early
    · rw [task_of_mem_occurrences late, same]

theorem stepUpTo_number (limit : Nat) :
    (stepUpTo peers route now limit task).1.number = task.number := by
  induction limit generalizing task with
  | zero => rfl
  | succ limit induction =>
      cases stepped : step? peers route now task with
      | none => simp only [stepUpTo, stepped]
      | some result =>
          obtain ⟨next, events⟩ := result
          simp only [stepUpTo, stepped]
          rw [induction, (step?_eq_some stepped).1]

end Task

namespace Batch

variable {peers : Peers} {route : Route} {batch result : Batch}

/-- A batch has come to what lay ahead of its tasks. -/
structure Foreseen (peers : Peers) (route : Route) (batch result : Batch) : Prop where
  tasks : result.tasks =
    batch.tasks.map fun task => (task.prospect peers route batch.now).task
  now : result.now =
    (batch.tasks.map fun task => (task.prospect peers route batch.now).last).foldr
      max batch.now
  history : result.history.Perm
    (batch.history ++
      batch.tasks.flatMap fun task => (task.prospect peers route batch.now).events)
  own : ∀ task ∈ batch.tasks, ownPart task.number result.history =
    ownPart task.number batch.history ++ (task.prospect peers route batch.now).events

/-- A batch in which nobody waits for a moment that has gone by. -/
structure Orderly (batch : Batch) : Prop where
  distinct : (batch.tasks.map Task.number).Nodup
  ahead : ∀ task ∈ batch.tasks, task.Ahead batch.now

/-- A batch whose tasks have taken all the steps they have at this moment. -/
def Settled (peers : Peers) (route : Route) (batch : Batch) : Prop :=
  ∀ task ∈ batch.tasks, task.step? peers route batch.now = none

def stepsLeft (batch : Batch) : Nat :=
  (batch.tasks.map fun task => task.stage.stepsLeft).sum

/-! ## Settling -/

theorem tasks_settle :
    (batch.settle peers route).tasks =
      batch.tasks.map fun task => (task.settle peers route batch.now).1 := by
  simp [settle, List.map_map, Function.comp_def]

theorem history_settle :
    (batch.settle peers route).history = batch.history ++
      batch.tasks.flatMap fun task =>
        occurrences batch.now (some task.number) (task.settle peers route batch.now).2 := by
  simp only [settle, List.flatMap_map]
  congr 1
  apply List.flatMap_congr
  intro task _
  rw [Task.settle, Task.stepUpTo_number]

theorem settled_settle : (batch.settle peers route).Settled peers route := by
  intro task member
  rw [tasks_settle] at member
  obtain ⟨task, _, rfl⟩ := List.mem_map.mp member
  apply Task.stepUpTo_still
  cases task.stage with
  | queued | processing | publishing | deleting | done | broken | cut =>
      simp [Stage.stepsLeft, Task.stepLimit]

theorem Orderly.settle (orderly : batch.Orderly) :
    (batch.settle peers route).Orderly where
  distinct := by
    rw [tasks_settle, List.map_map]
    have same : (Task.number ∘ fun task => (task.settle peers route batch.now).1) =
        Task.number := by
      funext task
      exact Task.stepUpTo_number _
    rw [same]
    exact orderly.distinct
  ahead := by
    intro task member
    rw [tasks_settle] at member
    obtain ⟨task, inside, rfl⟩ := List.mem_map.mp member
    exact (Task.stepUpTo_prospect (orderly.ahead task inside)).1

theorem Foreseen.of_settle (orderly : batch.Orderly)
    (foreseen : Foreseen peers route (batch.settle peers route) result) :
    Foreseen peers route batch result := by
  have same : ∀ task ∈ batch.tasks, task.prospect peers route batch.now =
      { (task.settle peers route batch.now).1.prospect peers route batch.now with
        events := occurrences batch.now (some task.number)
            (task.settle peers route batch.now).2 ++
          ((task.settle peers route batch.now).1.prospect peers route
            batch.now).events } :=
    fun task member => (Task.stepUpTo_prospect (orderly.ahead task member)).2
  have now_settle : (batch.settle peers route).now = batch.now := rfl
  refine ⟨?_, ?_, ?_, ?_⟩
  · rw [foreseen.tasks, tasks_settle, List.map_map]
    apply List.map_congr_left
    intro task member
    rw [same task member]
    rfl
  · rw [foreseen.now, tasks_settle, List.map_map, now_settle]
    congr 1
    apply List.map_congr_left
    intro task member
    rw [same task member]
    rfl
  · refine foreseen.history.trans ?_
    rw [history_settle, tasks_settle, List.append_assoc, List.flatMap_map]
    apply List.Perm.append_left
    refine (List.flatMap_append_perm batch.tasks _ _).trans ?_
    apply List.Perm.of_eq
    apply List.flatMap_congr
    intro task member
    rw [same task member]
    rfl
  · intro task member
    have settled := foreseen.own (task.settle peers route batch.now).1
      (tasks_settle ▸ List.mem_map_of_mem member)
    rw [show (task.settle peers route batch.now).1.number = task.number from
      Task.stepUpTo_number _] at settled
    rw [settled, history_settle, ownPart_append,
      ownPart_flatMap orderly.distinct (fun _ _ => task_of_mem_occurrences) member,
      List.append_assoc, same task member]
    rfl

/-! ## Letting time pass -/

theorem foldr_max_le_iff {values : List Nat} {first bound : Nat} :
    values.foldr max first ≤ bound ↔ first ≤ bound ∧ ∀ value ∈ values, value ≤ bound := by
  induction values with
  | nil => simp
  | cons head rest induction =>
      rw [List.foldr_cons, Nat.max_le, induction, List.forall_mem_cons]
      constructor
      · rintro ⟨headLe, firstLe, restLe⟩
        exact ⟨firstLe, headLe, restLe⟩
      · rintro ⟨firstLe, headLe, restLe⟩
        exact ⟨headLe, firstLe, restLe⟩

/-- A bound from below that some value keeps anyway changes no maximum. -/
theorem foldr_max_raise {values : List Nat} {first bound : Nat} (above : first ≤ bound)
    (kept : ∃ value ∈ values, bound ≤ value) :
    (values.map (max bound)).foldr max bound = values.foldr max first := by
  obtain ⟨value, member, boundLe⟩ := kept
  have reaches := (foldr_max_le_iff.mp (Nat.le_refl (values.foldr max first)))
  have raised := (foldr_max_le_iff.mp
    (Nat.le_refl ((values.map (max bound)).foldr max bound)))
  apply Nat.le_antisymm
  · refine foldr_max_le_iff.mpr ⟨Nat.le_trans boundLe (reaches.2 value member), ?_⟩
    intro other inside
    obtain ⟨other, otherMember, rfl⟩ := List.mem_map.mp inside
    exact Nat.max_le.mpr ⟨Nat.le_trans boundLe (reaches.2 value member),
      reaches.2 other otherMember⟩
  · refine foldr_max_le_iff.mpr ⟨Nat.le_trans above raised.1, ?_⟩
    intro other otherMember
    exact Nat.le_trans (Nat.le_max_right bound other)
      (raised.2 _ (List.mem_map_of_mem otherMember))

theorem nextMoment?_mem {moment : Nat} (next : batch.nextMoment? = some moment) :
    ∃ task ∈ batch.tasks, task.stage.wakeTime? = some moment :=
  List.mem_map.mp (mem_of_earliest? next)

theorem Orderly.pass {moment : Nat} (orderly : batch.Orderly)
    (next : batch.nextMoment? = some moment) : { batch with now := moment }.Orderly where
  distinct := orderly.distinct
  ahead := fun task member _ waits =>
    le_of_earliest? next (List.mem_map.mpr ⟨task, member, waits⟩)

/-- Up to the next moment that some task waits for, nothing is missed. -/
theorem Foreseen.of_pass {moment : Nat} (orderly : batch.Orderly)
    (settled : batch.Settled peers route) (next : batch.nextMoment? = some moment)
    (foreseen : Foreseen peers route { batch with now := moment } result) :
    Foreseen peers route batch result := by
  obtain ⟨waiting, waitingMember, waits⟩ := nextMoment?_mem next
  have passes : batch.now ≤ moment := orderly.ahead waiting waitingMember moment waits
  have same : ∀ task ∈ batch.tasks, task.prospect peers route moment =
      { task.prospect peers route batch.now with
        last := max moment (task.prospect peers route batch.now).last } := by
    intro task member
    exact Task.prospect_of_settled (settled task member) passes
      ((orderly.pass next).ahead task member)
  refine ⟨?_, ?_, ?_, ?_⟩
  · rw [foreseen.tasks]
    apply List.map_congr_left
    intro task member
    rw [same task member]
  · -- The task that is waited for lasts beyond the moment, and so does the batch.
    rw [foreseen.now, ← foldr_max_raise passes, List.map_map]
    · congr 1
      apply List.map_congr_left
      intro task member
      rw [same task member]
      rfl
    · refine ⟨_, List.mem_map_of_mem waitingMember, ?_⟩
      exact Task.le_last_of_nextStep? (Task.nextStep?_of_wakeTime? _ waits)
  · refine foreseen.history.trans ?_
    apply List.Perm.append_left
    apply List.Perm.of_eq
    apply List.flatMap_congr
    intro task member
    rw [same task member]
  · intro task member
    rw [foreseen.own task member, same task member]

theorem Foreseen.of_still (settled : batch.Settled peers route)
    (still : batch.nextMoment? = none) : Foreseen peers route batch batch := by
  have same : ∀ task ∈ batch.tasks,
      task.prospect peers route batch.now = ⟨batch.now, task, []⟩ := by
    intro task member
    apply Task.prospect_of_still
    rw [Task.nextStep?_of_settled (settled task member)]
    exact eq_none_of_earliest? still (List.mem_map_of_mem member)
  refine ⟨?_, ?_, ?_, ?_⟩
  · rw [List.map_congr_left fun task member => congrArg Task.Prospect.task (same task member)]
    exact (List.map_id batch.tasks).symm
  · rw [List.map_congr_left fun task member => congrArg Task.Prospect.last (same task member)]
    apply Nat.le_antisymm
    · exact (foldr_max_le_iff.mp (Nat.le_refl _)).1
    · apply foldr_max_le_iff.mpr
      simp
  · have nothing : (batch.tasks.flatMap fun task =>
        (task.prospect peers route batch.now).events) = [] :=
      List.flatMap_eq_nil_iff.mpr fun task member => by rw [same task member]
    rw [nothing, List.append_nil]
  · intro task member
    rw [same task member, List.append_nil]

/-! ## The whole run -/

theorem stepsLeft_settle_lt (peers : Peers) (route : Route) {moment : Nat}
    (next : batch.nextMoment? = some moment) :
    ({ batch with now := moment }.settle peers route).stepsLeft < batch.stepsLeft := by
  obtain ⟨waiting, waitingMember, waits⟩ := nextMoment?_mem next
  rw [stepsLeft, stepsLeft, tasks_settle, List.map_map]
  apply List.sum_lt_sum
  · intro task _
    exact Task.stepUpTo_stepsLeft _ _
  · refine ⟨waiting, waitingMember, Task.stepUpTo_fewer (by decide) ?_⟩
    exact Task.step?_isSome_of_nextStep? peers route (Task.nextStep?_of_wakeTime? moment waits)

/-- A run with enough jumps comes to what lies ahead of the tasks.  Each jump is to a
moment at which some task takes a step, so it need not jump more often than its
settled tasks have steps left. -/
theorem runUpTo_foreseen {jumps : Nat} (orderly : batch.Orderly)
    (enough : (batch.settle peers route).stepsLeft ≤ jumps) :
    Foreseen peers route batch (runUpTo peers route (jumps + 1) batch) := by
  induction jumps generalizing batch with
  | zero =>
      apply Foreseen.of_settle orderly
      rw [runUpTo]
      cases next : (batch.settle peers route).nextMoment? with
      | none => exact .of_still settled_settle next
      | some moment =>
          have fewer := stepsLeft_settle_lt peers route next
          omega
  | succ jumps induction =>
      apply Foreseen.of_settle orderly
      rw [runUpTo]
      cases next : (batch.settle peers route).nextMoment? with
      | none => exact .of_still settled_settle next
      | some moment =>
          have fewer := stepsLeft_settle_lt peers route next
          apply Foreseen.of_pass orderly.settle settled_settle next
          exact induction (orderly.settle.pass next) (by omega)

theorem tasks_start (deliveries : List Delivery) :
    (start deliveries).tasks =
      deliveries.zipIdx.map fun (delivery, number) => Task.start number delivery := rfl

theorem orderly_start (deliveries : List Delivery) : (start deliveries).Orderly where
  distinct := by
    rw [tasks_start, List.map_map]
    have numbers : (Task.number ∘ fun (delivery, number) => Task.start number delivery) =
        (Prod.snd : Delivery × Nat → Nat) := rfl
    rw [numbers, List.zipIdx_map_snd]
    exact List.nodup_range'
  ahead := by
    intro task member
    obtain ⟨⟨delivery, number⟩, _, rfl⟩ := List.mem_map.mp member
    exact Task.ahead_start number delivery

/-- After its first moment every task has called its processor. -/
theorem stepsLeft_settle_start (deliveries : List Delivery) :
    ((start deliveries).settle peers route).stepsLeft ≤ 3 * deliveries.length := by
  have each : ∀ steps ∈ ((start deliveries).settle peers route).tasks.map
      (fun task => task.stage.stepsLeft), steps ≤ 3 := by
    intro steps member
    rw [tasks_settle, tasks_start] at member
    simp only [List.mem_map] at member
    obtain ⟨_, ⟨_, ⟨⟨delivery, number⟩, _, rfl⟩, rfl⟩, rfl⟩ := member
    exact Nat.le_of_lt_succ (Task.stepUpTo_fewer (by decide) rfl)
  have total := List.sum_le_card_nsmul _ 3 each
  rw [stepsLeft]
  refine Nat.le_trans total (Nat.le_of_eq ?_)
  simp [tasks_settle, tasks_start, Nat.mul_comm]

/-- A batch comes to what lies ahead of the tasks of its deliveries. -/
theorem run_foreseen (peers : Peers) (route : Route) (deliveries : List Delivery) :
    Foreseen peers route (start deliveries) (run peers route deliveries) :=
  runUpTo_foreseen (orderly_start deliveries) (stepsLeft_settle_start deliveries)

/-! ## One delivery alone -/

theorem history_run_single (peers : Peers) (route : Route) (delivery : Delivery) :
    (run peers route [delivery]).history =
      (Task.prospect peers route 0 (Task.start 0 delivery)).events := by
  have foreseen := run_foreseen peers route [delivery]
  have together : (run peers route [delivery]).history.Perm
      (Task.prospect peers route 0 (Task.start 0 delivery)).events := by
    have history := foreseen.history
    simpa [start] using history
  have own := foreseen.own (Task.start 0 delivery) (by simp [start])
  have whole : ownPart 0 (run peers route [delivery]).history =
      (run peers route [delivery]).history := by
    apply ownPart_eq_self
    intro occurrence member
    exact Task.task_of_mem_prospect (together.mem_iff.mp member)
  rw [← whole]
  exact own

theorem now_run_single (peers : Peers) (route : Route) (delivery : Delivery) :
    (run peers route [delivery]).now =
      (Task.prospect peers route 0 (Task.start 0 delivery)).last := by
  rw [(run_foreseen peers route [delivery]).now]
  exact Nat.max_zero _

end Batch

end AtLeastOnce
