import AtLeastOnce.Proofs.Receiver.History
import AtLeastOnce.Proofs.Receiver.Transition
import Mathlib.Data.List.Nodup

/-!
# Lists of tasks

What storing a task, starting tasks and joining those that have finished do to the
list of the tasks in flight.  Tasks are told apart by their numbers, which no two
of them share.
-/

namespace AtLeastOnce.Receiver

section

variable {tasks : List Task} {task next : Task}

theorem eq_of_number_eq {other : Task} (distinct : (tasks.map Task.number).Nodup)
    (member : task ∈ tasks) (otherMember : other ∈ tasks)
    (same : task.number = other.number) : task = other :=
  List.inj_on_of_nodup_map distinct member otherMember same

@[simp] theorem map_number_replaceTask (tasks : List Task) (next : Task) :
    (replaceTask tasks next).map Task.number = tasks.map Task.number := by
  simp only [replaceTask, List.map_map]
  apply List.map_congr_left
  intro task _
  simp only [Function.comp_apply]
  split
  · rename_i same
    exact same.symm
  · rfl

theorem mem_replaceTask (member : task ∈ replaceTask tasks next) :
    task = next ∨ task ∈ tasks ∧ task.number ≠ next.number := by
  obtain ⟨before, inside, made⟩ := List.mem_map.mp member
  split at made
  · exact .inl made.symm
  · rename_i other
    rw [← made]
    exact .inr ⟨inside, other⟩

theorem mem_replaceTask_self (member : task ∈ tasks)
    (same : task.number = next.number) : next ∈ replaceTask tasks next :=
  List.mem_map.mpr ⟨task, member, if_pos same⟩

theorem mem_replaceTask_other (member : task ∈ tasks)
    (other : task.number ≠ next.number) : task ∈ replaceTask tasks next :=
  List.mem_map.mpr ⟨task, member, if_neg other⟩

theorem map_number_newTasks (dispatched : Nat) (deliveries : List Delivery) :
    (newTasks dispatched deliveries).map Task.number =
      List.range' dispatched deliveries.length := by
  rw [← List.zipIdx_map_snd, newTasks, List.map_map]
  rfl

theorem mem_newTasks {dispatched : Nat} {deliveries : List Delivery}
    (member : task ∈ newTasks dispatched deliveries) :
    task.stage = .queued ∧ dispatched ≤ task.number ∧
      deliveries[task.number - dispatched]? = some task.delivery := by
  obtain ⟨⟨delivery, number⟩, inside, rfl⟩ := List.mem_map.mp member
  have place := List.mk_mem_zipIdx_iff_le_and_getElem?_sub.mp inside
  exact ⟨rfl, place.1, place.2⟩

theorem finishedTasks_append_runningTasks (tasks : List Task) :
    (finishedTasks tasks ++ runningTasks tasks).Perm tasks :=
  List.filter_append_perm _ tasks

theorem mem_finishedTasks :
    task ∈ finishedTasks tasks ↔ task ∈ tasks ∧ task.isFinished = true := by
  simp [finishedTasks]

theorem mem_runningTasks :
    task ∈ runningTasks tasks ↔ task ∈ tasks ∧ task.isFinished = false := by
  simp [runningTasks]

/-! ## Running tasks -/

@[simp] theorem runningTasks_runningTasks (tasks : List Task) :
    runningTasks (runningTasks tasks) = runningTasks tasks := by
  simp [runningTasks]

@[simp] theorem runningTasks_append (tasks later : List Task) :
    runningTasks (tasks ++ later) = runningTasks tasks ++ runningTasks later :=
  List.filter_append tasks later

@[simp] theorem runningTasks_newTasks (dispatched : Nat)
    (deliveries : List Delivery) :
    runningTasks (newTasks dispatched deliveries) =
      newTasks dispatched deliveries := by
  refine List.filter_eq_self.mpr ?_
  intro task member
  simp [Task.isFinished, (mem_newTasks member).1, Stage.isFinished]

@[simp] theorem length_newTasks (dispatched : Nat) (deliveries : List Delivery) :
    (newTasks dispatched deliveries).length = deliveries.length := by
  simp [newTasks]

/-- Only the task with the number is replaced. -/
theorem replaceTask_split {before after : List Task}
    (distinct : ((before ++ task :: after).map Task.number).Nodup)
    (same : next.number = task.number) :
    replaceTask (before ++ task :: after) next = before ++ next :: after := by
  have others : ∀ tasks : List Task, task.number ∉ tasks.map Task.number →
      replaceTask tasks next = tasks := by
    intro tasks absent
    have fixed : ∀ other ∈ tasks,
        (if other.number = next.number then next else other) = id other := by
      intro other member
      refine if_neg ?_
      intro equal
      exact absent (List.mem_map.mpr ⟨other, member, equal.trans same⟩)
    rw [replaceTask, List.map_congr_left fixed, List.map_id]
  have parts : replaceTask (before ++ task :: after) next =
      replaceTask before next ++ next :: replaceTask after next := by
    simp [replaceTask, same]
  have shifted := List.nodup_middle.mp (by simpa using distinct)
  have absent := (List.nodup_cons.mp shifted).1
  rw [List.mem_append, not_or] at absent
  rw [parts, others before absent.1, others after absent.2]

/-- A running task holds a permit until it has finished. -/
theorem length_runningTasks_replaceTask (distinct : (tasks.map Task.number).Nodup)
    (found : task ∈ tasks) (unfinished : task.isFinished = false)
    (same : next.number = task.number) :
    (runningTasks (replaceTask tasks next)).length +
        (if next.isFinished then 1 else 0) =
      (runningTasks tasks).length := by
  obtain ⟨before, after, rfl⟩ := List.append_of_mem found
  rw [replaceTask_split distinct same]
  simp only [runningTasks, List.filter_append, List.filter_cons, unfinished]
  cases next.isFinished with
  | true => simp; omega
  | false => simp

end

/-! ## Joined tasks -/

section

variable {state next : State}

theorem joinedTasks_of_appended {added : List Task}
    (inFlight : next.inFlight = state.inFlight ++ added) :
    joinedTasks state next = [] := by
  refine joinedTasks_eq_nil ?_
  intro task member
  rw [inFlight]
  exact ⟨task, List.mem_append_left _ member, rfl⟩

theorem joinedTasks_of_replaced {after : Task}
    (inFlight : next.inFlight = replaceTask state.inFlight after) :
    joinedTasks state next = [] := by
  refine joinedTasks_eq_nil ?_
  intro task member
  have number : task.number ∈ next.inFlight.map Task.number := by
    rw [inFlight, map_number_replaceTask]
    exact List.mem_map_of_mem member
  exact List.mem_map.mp number

theorem joinedTasks_of_running
    (distinct : (state.inFlight.map Task.number).Nodup)
    (inFlight : next.inFlight = runningTasks state.inFlight) :
    joinedTasks state next = finishedTasks state.inFlight := by
  unfold joinedTasks finishedTasks
  refine List.filter_congr ?_
  intro task member
  rw [inFlight]
  cases finished : task.isFinished with
  | true =>
      simp only [Bool.not_eq_true', List.any_eq_false, decide_eq_true_eq]
      intro remaining inside same
      obtain ⟨inside, unfinished⟩ := mem_runningTasks.mp inside
      rw [eq_of_number_eq distinct inside member same, finished] at unfinished
      cases unfinished
  | false =>
      simp only [Bool.not_eq_false', List.any_eq_true, decide_eq_true_eq]
      exact ⟨task, mem_runningTasks.mpr ⟨member, finished⟩, rfl⟩

end

end AtLeastOnce.Receiver
