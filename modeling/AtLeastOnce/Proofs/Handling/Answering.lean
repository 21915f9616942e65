import AtLeastOnce.Proofs.Handling.SideBySide
import Mathlib.Data.List.Forall2

/-!
# Peers that answer

Where every processor ends and every queue call comes back, with an answer or with an
error, each task of a batch ends with a report.
-/

namespace AtLeastOnce

/-- A call that comes back, with an answer or with an error. -/
structure Timed.Returns (call : Timed (CallEnd α)) : Prop where
  ends : call.delay.isSome = true
  calm : ∀ text, call.result ≠ .panicked text

structure Peers.Answering (peers : Peers) : Prop where
  process : ∀ number delivery, (peers.process number delivery).delay.isSome = true
  send : ∀ number queueUrl publication, (peers.send number queueUrl publication).Returns
  delete : ∀ number queueUrl handle, (peers.delete number queueUrl handle).Returns

variable {peers : Peers} {route : Route} {number : Nat} {delivery : Delivery}
  {now : Nat} {task : Task}

theorem Timed.isSome_endFrom {timed : Timed α} (ends : timed.delay.isSome = true)
    (moment : Nat) : ∃ ending, timed.endFrom moment = some ending := by
  obtain ⟨delay, given⟩ := Option.isSome_iff_exists.mp ends
  exact ⟨moment + delay, by rw [Timed.endFrom, given]; rfl⟩

namespace Peers.Answering

theorem deletion_isOk (answering : peers.Answering) (copyId : Option String) :
    ∃ ack, Task.deletion peers route number delivery copyId = .ok ack := by
  have calm := (answering.delete number route.source delivery.handle).calm
  unfold Task.deletion Task.deleteResult
  split
  · exact ⟨_, rfl⟩
  · exact ⟨_, rfl⟩
  · rename_i panicked
    exact (calm _ panicked).elim

theorem handled_isOk (answering : peers.Answering) :
    ∃ ack, Task.handled peers route number delivery = .ok ack := by
  unfold Task.handled
  split
  · exact answering.deletion_isOk none
  · exact ⟨_, rfl⟩
  · split
    · exact ⟨_, rfl⟩
    · rename_i url _
      split
      · exact answering.deletion_isOk _
      · exact ⟨_, rfl⟩
      · rename_i panicked
        exact ((answering.send number url _).calm _ panicked).elim

theorem sentEnd?_isSome (answering : peers.Answering) (url : String) (moment : Nat) :
    (Task.sentEnd? peers route task url moment).isSome = true := by
  unfold Task.sentEnd?
  split
  · obtain ⟨ending, ends⟩ := Timed.isSome_endFrom
      (answering.delete task.number route.source task.delivery.handle).ends moment
    rw [Task.deleteEnd?, ends]
    rfl
  · rfl
  · rfl

theorem processedEnd?_isSome (answering : peers.Answering) (moment : Nat) :
    (Task.processedEnd? peers route task moment).isSome = true := by
  unfold Task.processedEnd? Task.decisionEnd?
  split
  · obtain ⟨ending, ends⟩ := Timed.isSome_endFrom
      (answering.delete task.number route.source task.delivery.handle).ends moment
    rw [Task.deleteEnd?, ends]
    rfl
  · rfl
  · split
    · rfl
    · rename_i url _
      obtain ⟨sent, ends⟩ := Timed.isSome_endFrom
        (answering.send task.number url (Task.deadLetterCopy url task.delivery)).ends moment
      rw [ends]
      exact answering.sentEnd?_isSome url sent

theorem end?_start_isSome (answering : peers.Answering) :
    ((Task.start number delivery).end? peers route now).isSome = true := by
  obtain ⟨processed, ends⟩ := Timed.isSome_endFrom (answering.process number delivery) now
  have opened : (Task.start number delivery).end? peers route now =
      ((peers.process number delivery).endFrom now).bind
        (Task.processedEnd? peers route (Task.start number delivery)) := rfl
  rw [opened, ends]
  exact answering.processedEnd?_isSome processed

end Peers.Answering

namespace Task

theorem end?_of_nextStep? {moment : Nat} (comes : task.nextStep? now = some moment) :
    task.end? peers route moment = task.end? peers route now := by
  obtain ⟨number, delivery, stage⟩ := task
  cases stage with
  | queued => rw [Option.some.inj comes]
  | processing | publishing | deleting => rfl
  | done | broken | cut => cases comes

theorem nextStep?_isSome_of_end? (unfinished : task.isFinished = false)
    (ends : (task.end? peers route now).isSome = true) :
    (task.nextStep? now).isSome = true := by
  obtain ⟨ending, ends⟩ := Option.isSome_iff_exists.mp ends
  by_cases queued : task.stage = .queued
  · rw [nextStep?, queued]
    rfl
  · obtain ⟨moment, waits, _⟩ := wakeTime?_of_end? unfinished queued ends
    rw [nextStep?_of_wakeTime? _ waits]
    rfl

theorem prospect_still :
    (prospect peers route now task).task.nextStep?
      (prospect peers route now task).last = none := by
  induction left : task.stage.stepsLeft using Nat.strongRecOn generalizing now task with
  | _ left induction =>
      cases comes : task.nextStep? now with
      | none => rw [prospect_of_still comes, comes]
      | some moment =>
          obtain ⟨⟨next, events⟩, stepped⟩ :=
            Option.isSome_iff_exists.mp (step?_isSome_of_nextStep? peers route comes)
          have shorter := step?_fewer stepped
          rw [prospect_of_step comes stepped]
          exact induction _ (by omega) rfl

theorem prospect_isFinished (ahead : Ahead now task)
    (ends : (task.end? peers route now).isSome = true) :
    (prospect peers route now task).task.isFinished = true := by
  have reached := (prospect_induction peers route []
    (fun moment task _ =>
      Ahead moment task ∧ (task.end? peers route moment).isSome = true) (by
      intro _ _ _ _ _ _ holds comes stepped
      have timely := step?_timely stepped (ahead_nextStep? comes)
      refine ⟨timely.ahead, ?_⟩
      rw [timely.ends, end?_of_nextStep? comes]
      exact holds.2) ⟨ahead, ends⟩).2
  by_contra unfinished
  have comes := nextStep?_isSome_of_end? (Bool.eq_false_of_not_eq_true unfinished) reached
  rw [prospect_still] at comes
  cases comes

theorem prospect_course :
    Course peers route number delivery
      (prospect peers route now (start number delivery)).task.stage
      ((prospect peers route now (start number delivery)).events.map Occurrence.event) := by
  refine (prospect_induction peers route []
    (fun _ task before => task.number = number ∧ task.delivery = delivery ∧
      Course peers route number delivery task.stage (before.map Occurrence.event)) ?_
    ⟨rfl, rfl, .queued⟩).2.2
  rintro _ moment task next events before ⟨rfl, rfl, course⟩ _ stepped
  have kept := (step?_eq_some stepped).1
  refine ⟨by rw [kept], by rw [kept], ?_⟩
  have more : (occurrences moment (some task.number) events).map Occurrence.event =
      events := by
    simp [occurrences, Function.comp_def]
  rw [List.map_append, more]
  exact course.step stepped

theorem prospect_isCut :
    (prospect peers route now (start number delivery)).task.stage.isCut = false := by
  refine prospect_induction peers route [] (fun _ task _ => task.stage.isCut = false) ?_ rfl
  intro _ _ _ _ _ _ _ _ stepped
  exact step?_isCut stepped

end Task

namespace Batch

theorem exists_mapM {items : List α} {read : α → Option β}
    (all : ∀ item ∈ items, (read item).isSome = true) :
    ∃ values, items.mapM read = some values ∧
      List.Forall₂ (fun item value => read item = some value) items values := by
  induction items with
  | nil => exact ⟨[], rfl, .nil⟩
  | cons item rest induction =>
      obtain ⟨first, others⟩ := List.forall_mem_cons.mp all
      obtain ⟨value, found⟩ := Option.isSome_iff_exists.mp first
      obtain ⟨values, founds, related⟩ := induction others
      refine ⟨value :: values, ?_, .cons found related⟩
      rw [List.mapM_cons, found, founds]
      rfl

theorem reports?_eq (batch : Batch) :
    batch.reports? = batch.tasks.mapM fun task => task.stage.report? := rfl

end Batch

theorem Stage.eq_done_of_report? {stage : Stage} {report : Report}
    (reported : stage.report? = some report) : stage = .done report := by
  cases stage with
  | done found =>
      cases reported
      rfl
  | queued | processing | publishing | deleting | broken | cut => cases reported

/-- A task that is left alone among peers that answer ends as its handling does. -/
theorem Peers.Answering.stage_prospect (answering : peers.Answering) :
    (Task.prospect peers route now (Task.start number delivery)).task.stage =
      Task.lastStage peers route number delivery :=
  Task.prospect_course.stage_eq
    (Task.prospect_isFinished (Task.ahead_start number delivery)
      answering.end?_start_isSome) Task.prospect_isCut

/-- Every delivery of a batch is reported on, each with what its own handling comes
to. -/
theorem Peers.Answering.exists_reports (answering : peers.Answering) (route : Route)
    (deliveries : List Delivery) :
    ∃ reports, (Batch.run peers route deliveries).reports? = some reports ∧
      reports.length = deliveries.length ∧
      ∀ place (inside : place < deliveries.length) (reported : place < reports.length),
        (Task.lastStage peers route place deliveries[place]).report? =
          some reports[place] := by
  have each : ∀ place ∈ deliveries.zipIdx,
      ((Task.lastStage peers route place.2 place.1).report?).isSome = true := by
    intro place _
    obtain ⟨ack, handled⟩ : ∃ ack, Task.handled peers route place.2 place.1 = .ok ack :=
      answering.handled_isOk
    rw [Task.lastStage, handled]
    rfl
  obtain ⟨reports, reported, related⟩ := Batch.exists_mapM each
  obtain ⟨sameLength, places⟩ := List.forall₂_iff_get.mp related
  rw [List.length_zipIdx] at sameLength
  refine ⟨reports, ?_, sameLength.symm, ?_⟩
  · rw [Batch.reports?_eq, (Batch.run_foreseen peers route deliveries).tasks,
      Batch.tasks_start, List.map_map, List.mapM_map, ← reported]
    congr 1
    funext place
    exact congrArg Stage.report? answering.stage_prospect
  · intro place inside present
    have found := places place (by rwa [List.length_zipIdx]) present
    simpa using found

end AtLeastOnce
