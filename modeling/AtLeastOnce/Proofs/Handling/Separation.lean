import AtLeastOnce.Proofs.Handling.Answering
import AtLeastOnce.Proofs.Handling.Counts
import Mathlib.Data.List.OfFn
import Mathlib.Logic.Equiv.Defs

/-!
# A batch is its deliveries, each handled alone

Handling many deliveries at once comes to the same reports, the same calls at the same
moments and the same end as handling each of them in a batch of its own.
-/

namespace AtLeastOnce

namespace Peers

/-- The peers of one batch treat a task as those of another batch treat one there. -/
structure Alike (peers : Peers) (number : Nat) (others : Peers) (other : Nat) : Prop where
  process : others.process other = peers.process number
  send : others.send other = peers.send number
  delete : others.delete other = peers.delete number

/-- Queue calls are answered by what is asked, whoever asks. -/
structure Impartial (peers : Peers) : Prop where
  send : ∀ number other, peers.send number = peers.send other
  delete : ∀ number other, peers.delete number = peers.delete other

/-- The peers as one task of a batch meets them. -/
def facing (peers : Peers) (number : Nat) : Peers :=
  { peers with process := fun _ => peers.process number }

variable {peers others : Peers} {number other : Nat}

theorem Impartial.alike_facing (impartial : peers.Impartial) :
    Alike peers number (peers.facing number) other where
  process := rfl
  send := impartial.send other number
  delete := impartial.delete other number

theorem Answering.facing (answering : peers.Answering) (number : Nat) :
    (peers.facing number).Answering where
  process := fun _ delivery => answering.process number delivery
  send := answering.send
  delete := answering.delete

end Peers

/-- An event with its moment, whichever task it belongs to. -/
def Occurrence.stamp (occurrence : Occurrence) : Nat × Event :=
  (occurrence.time, occurrence.event)

/-! ## A task under another number -/

namespace Task

def renumber (number : Nat) (task : Task) : Task := { task with number := number }

variable {peers others : Peers} {route : Route} {other now : Nat} {task : Task}
  {delivery : Delivery}

theorem beginDecision_renumber (alike : Peers.Alike peers task.number others other)
    (outcome : Outcome) :
    beginDecision others route now (task.renumber other) outcome =
      beginDecision peers route now task outcome := by
  simp only [beginDecision, beginDelete, renumber, alike.send, alike.delete]

theorem afterProcessing_renumber (route : Route) (now : Nat)
    (alike : Peers.Alike peers task.number others other) :
    afterProcessing others route now (task.renumber other) =
      afterProcessing peers route now task := by
  simp only [afterProcessing, beginDecision_renumber alike]
  simp only [renumber, alike.process]

theorem afterSend_renumber (route : Route) (now : Nat)
    (alike : Peers.Alike peers task.number others other)
    (outcome : Outcome) (url : String) :
    afterSend others route now (task.renumber other) outcome url =
      afterSend peers route now task outcome url := by
  simp only [afterSend, beginDelete, renumber, alike.send, alike.delete]

theorem afterDelete_renumber (route : Route)
    (alike : Peers.Alike peers task.number others other)
    (outcome : Outcome) (copyId : Option String) :
    afterDelete others route (task.renumber other) outcome copyId =
      afterDelete peers route task outcome copyId := by
  simp only [afterDelete, renumber, alike.delete]

theorem step?_renumber (alike : Peers.Alike peers task.number others other) :
    step? others route now (task.renumber other) =
      (step? peers route now task).map fun result =>
        (result.1.renumber other, result.2) := by
  have process := alike.process
  obtain ⟨number, delivery, stage⟩ := task
  cases stage with
  | queued => simp [step?, renumber, process]
  | processing until? =>
      have after := afterProcessing_renumber route now alike
      simp only [renumber] at after ⊢
      simp only [step?, after]
      split <;> rfl
  | publishing outcome url until? =>
      have after := afterSend_renumber route now alike outcome url
      simp only [renumber] at after ⊢
      simp only [step?, after]
      split <;> rfl
  | deleting outcome copyId until? =>
      have after := afterDelete_renumber route alike outcome copyId
      simp only [renumber] at after ⊢
      simp only [step?, after]
      split <;> rfl
  | done | broken | cut => rfl

theorem prospect_renumber (route : Route) (now : Nat) (task : Task)
    (alike : Peers.Alike peers task.number others other) :
    (prospect others route now (task.renumber other)).last =
        (prospect peers route now task).last ∧
      (prospect others route now (task.renumber other)).events.map Occurrence.stamp =
        (prospect peers route now task).events.map Occurrence.stamp := by
  induction left : task.stage.stepsLeft using Nat.strongRecOn generalizing now task with
  | _ left induction =>
      cases comes : task.nextStep? now with
      | none =>
          have still : (task.renumber other).nextStep? now = none := comes
          rw [prospect_of_still comes, prospect_of_still still]
          exact ⟨rfl, rfl⟩
      | some moment =>
          have alsoComes : (task.renumber other).nextStep? now = some moment := comes
          obtain ⟨⟨next, events⟩, stepped⟩ := Option.isSome_iff_exists.mp
            (step?_isSome_of_nextStep? peers route comes)
          have alsoStepped : step? others route moment (task.renumber other) =
              some (next.renumber other, events) := by
            rw [step?_renumber alike, stepped]
            rfl
          have shorter := step?_fewer stepped
          have kept : next.number = task.number := by
            rw [(step?_eq_some stepped).1]
          obtain ⟨sameLast, sameEvents⟩ := induction _ (by omega) moment next
            (kept ▸ alike) rfl
          rw [prospect_of_step comes stepped, prospect_of_step alsoComes alsoStepped]
          refine ⟨sameLast, ?_⟩
          simp only [List.map_append, sameEvents]
          simp [occurrences, Occurrence.stamp, Function.comp_def]

theorem lastStage_alike {number : Nat} (alike : Peers.Alike peers number others other) :
    lastStage others route other delivery = lastStage peers route number delivery := by
  simp only [lastStage, handled, deletion, outcome, sendResult, deleteResult, alike.process,
    alike.send, alike.delete]

end Task

namespace Batch

/-- One delivery of a batch, handled alone by the same peers. -/
def alone (peers : Peers) (route : Route) (number : Nat) (delivery : Delivery) : Batch :=
  run (peers.facing number) route [delivery]

/-- A batch with its reports, set against its deliveries handled one by one. -/
structure Separate (peers : Peers) (route : Route) (deliveries : List Delivery)
    (reports : List Report) : Prop where
  length : reports.length = deliveries.length
  each : ∀ place (inside : place < deliveries.length) (reported : place < reports.length),
    (alone peers route place deliveries[place]).reports? = some [reports[place]]
  own : ∀ place (inside : place < deliveries.length),
    (ownPart place (run peers route deliveries).history).map Occurrence.stamp =
      (alone peers route place deliveries[place]).history.map Occurrence.stamp
  union : ((run peers route deliveries).history.map Occurrence.stamp).Perm
    (deliveries.zipIdx.flatMap fun (delivery, place) =>
      (alone peers route place delivery).history.map Occurrence.stamp)
  ends : (run peers route deliveries).now =
    (deliveries.zipIdx.map fun (delivery, place) =>
      (alone peers route place delivery).now).foldr max 0
  total : (AckCounts.ofReports reports).deleted + (AckCounts.ofReports reports).deadLettered +
    (AckCounts.ofReports reports).left + (AckCounts.ofReports reports).failed =
      deliveries.length
  found : ∀ place (inside : place < deliveries.length) (reported : place < reports.length),
    (∀ delivery ∈ deliveries.take place, delivery.id ≠ deliveries[place].id) →
    findReport? reports deliveries[place].id = some reports[place]
  missing : ∀ messageId, (∀ delivery ∈ deliveries, delivery.id ≠ messageId) →
    findReport? reports messageId = none
  permuted : ∀ (order : Equiv.Perm (Fin deliveries.length)) (others : Peers),
    others.Answering → others.send = peers.send → others.delete = peers.delete →
    (∀ place : Fin deliveries.length,
      others.process place = peers.process (order place)) →
    ∃ permuted, (run others route
        (List.ofFn fun place => deliveries.get (order place))).reports? = some permuted ∧
      ∀ place : Fin deliveries.length,
        permuted[place.val]? = reports[(order place).val]?

section

variable {peers : Peers} {route : Route} {deliveries : List Delivery}
  {delivery : Delivery} {place : Nat} {report : Report}

theorem now_alone (impartial : peers.Impartial) :
    (alone peers route place delivery).now =
      (Task.prospect peers route 0 (Task.start place delivery)).last := by
  have alike : Peers.Alike peers place (peers.facing place) 0 := impartial.alike_facing
  rw [alone, now_run_single]
  have same := Task.prospect_renumber route 0 (Task.start place delivery) alike
  exact same.1

theorem stamps_alone (impartial : peers.Impartial) :
    (alone peers route place delivery).history.map Occurrence.stamp =
      (Task.prospect peers route 0 (Task.start place delivery)).events.map
        Occurrence.stamp := by
  have alike : Peers.Alike peers place (peers.facing place) 0 := impartial.alike_facing
  rw [alone, history_run_single]
  have same := Task.prospect_renumber route 0 (Task.start place delivery) alike
  exact same.2

theorem reports?_alone (impartial : peers.Impartial) (answering : peers.Answering)
    (reported : (Task.lastStage peers route place delivery).report? = some report) :
    (alone peers route place delivery).reports? = some [report] := by
  obtain ⟨reports, found, single, places⟩ :=
    (answering.facing place).exists_reports route [delivery]
  obtain ⟨only, rfl⟩ := List.length_eq_one_iff.mp single
  have same : (Task.lastStage (peers.facing place) route 0 delivery).report? = some only :=
    places 0 Nat.one_pos Nat.one_pos
  rw [Task.lastStage_alike impartial.alike_facing, reported] at same
  rw [alone, found, Option.some.inj same]

theorem messageId_of_lastStage
    (reported : (Task.lastStage peers route place delivery).report? = some report) :
    report.messageId = delivery.id := by
  unfold Task.lastStage at reported
  split at reported
  · cases reported
    rfl
  · cases reported

theorem stamps_own (impartial : peers.Impartial) (inside : place < deliveries.length) :
    (ownPart place (run peers route deliveries).history).map Occurrence.stamp =
      (alone peers route place deliveries[place]).history.map Occurrence.stamp := by
  have member : Task.start place deliveries[place] ∈ (start deliveries).tasks := by
    rw [tasks_start]
    exact List.mem_map.mpr ⟨(deliveries[place], place),
      List.mem_zipIdx_iff_getElem?.mpr (List.getElem?_eq_getElem inside), rfl⟩
  have own := (run_foreseen peers route deliveries).own _ member
  rw [stamps_alone impartial]
  exact congrArg (List.map Occurrence.stamp) own

theorem stamps_run (impartial : peers.Impartial) :
    ((run peers route deliveries).history.map Occurrence.stamp).Perm
      (deliveries.zipIdx.flatMap fun (delivery, place) =>
        (alone peers route place delivery).history.map Occurrence.stamp) := by
  have together := (run_foreseen peers route deliveries).history.map Occurrence.stamp
  refine together.trans (List.Perm.of_eq ?_)
  simp only [tasks_start, List.flatMap_map, stamps_alone impartial]
  exact List.map_flatMap

theorem now_run (impartial : peers.Impartial) :
    (run peers route deliveries).now =
      (deliveries.zipIdx.map fun (delivery, place) =>
        (alone peers route place delivery).now).foldr max 0 := by
  rw [(run_foreseen peers route deliveries).now, tasks_start, List.map_map]
  simp only [now_alone impartial]
  rfl

end

section

variable {deliveries : List Delivery} {reports : List Report}

theorem findReport?_first
    (named : ∀ place (inside : place < deliveries.length) (reported : place < reports.length),
      reports[place].messageId = deliveries[place].id)
    (place : Nat) (inside : place < deliveries.length) (reported : place < reports.length)
    (first : ∀ delivery ∈ deliveries.take place, delivery.id ≠ deliveries[place].id) :
    findReport? reports deliveries[place].id = some reports[place] := by
  apply List.find?_eq_some_iff_getElem.mpr
  refine ⟨?_, place, reported, rfl, ?_⟩
  · simp [named place inside reported]
  · intro before earlier
    have within := Nat.lt_trans earlier inside
    have name := named before within (Nat.lt_trans earlier reported)
    have member : deliveries[before] ∈ deliveries.take place :=
      List.mem_take_iff_getElem.mpr ⟨before, Nat.lt_min.mpr ⟨earlier, within⟩, rfl⟩
    simpa [name] using first _ member

theorem findReport?_missing (length : reports.length = deliveries.length)
    (named : ∀ place (inside : place < deliveries.length) (reported : place < reports.length),
      reports[place].messageId = deliveries[place].id)
    (messageId : String) (absent : ∀ delivery ∈ deliveries, delivery.id ≠ messageId) :
    findReport? reports messageId = none := by
  apply List.find?_eq_none.mpr
  intro report member
  obtain ⟨place, reported, rfl⟩ := List.getElem_of_mem member
  have inside : place < deliveries.length := length ▸ reported
  simpa [named place inside reported] using absent _ (List.getElem_mem inside)

end

/-- Reordering the deliveries, each with its processor, reorders their reports. -/
theorem reports?_permuted {peers others : Peers} {route : Route}
    {deliveries : List Delivery} {reports : List Report} (impartial : peers.Impartial)
    (length : reports.length = deliveries.length)
    (places : ∀ place (inside : place < deliveries.length)
      (reported : place < reports.length),
      (Task.lastStage peers route place deliveries[place]).report? = some reports[place])
    (order : Equiv.Perm (Fin deliveries.length)) (answering : others.Answering)
    (sends : others.send = peers.send) (deletes : others.delete = peers.delete)
    (processes : ∀ place : Fin deliveries.length,
      others.process place = peers.process (order place)) :
    ∃ permuted, (run others route
        (List.ofFn fun place => deliveries.get (order place))).reports? = some permuted ∧
      ∀ place : Fin deliveries.length,
        permuted[place.val]? = reports[(order place).val]? := by
  obtain ⟨permuted, found, otherLength, otherPlaces⟩ := answering.exists_reports route
    (List.ofFn fun place => deliveries.get (order place))
  refine ⟨permuted, found, ?_⟩
  intro place
  have alike : Peers.Alike peers (order place) others place :=
    ⟨processes place, by rw [sends]; exact impartial.send place (order place),
      by rw [deletes]; exact impartial.delete place (order place)⟩
  have inside : place.val < permuted.length := by
    rw [otherLength, List.length_ofFn]
    exact place.isLt
  have reported : (order place).val < reports.length := by
    rw [length]
    exact (order place).isLt
  have other := otherPlaces place (otherLength ▸ inside) inside
  rw [List.getElem_ofFn] at other
  have own := places (order place) (order place).isLt reported
  rw [List.getElem?_eq_getElem inside, List.getElem?_eq_getElem reported, ← other, ← own]
  exact congrArg Stage.report? (Task.lastStage_alike alike)

end Batch

/-- Handling a batch is handling each of its deliveries alone. -/
theorem Peers.Answering.separate {peers : Peers} (answering : peers.Answering)
    (impartial : peers.Impartial) (route : Route) (deliveries : List Delivery) :
    ∃ reports, (Batch.run peers route deliveries).reports? = some reports ∧
      Batch.Separate peers route deliveries reports := by
  obtain ⟨reports, reported, length, places⟩ := answering.exists_reports route deliveries
  have named := fun place inside present =>
    Batch.messageId_of_lastStage (places place inside present)
  refine ⟨reports, reported, ?_⟩
  exact
    { length := length
      each := fun place inside present =>
        Batch.reports?_alone impartial answering (places place inside present)
      own := fun _ inside => Batch.stamps_own impartial inside
      union := Batch.stamps_run impartial
      ends := Batch.now_run impartial
      total := length ▸ AckCounts.total_ofReports reports
      found := Batch.findReport?_first named
      missing := Batch.findReport?_missing length named
      permuted := fun order _ => Batch.reports?_permuted impartial length places order }

/-! Three deliveries, two of them of one message under one handle: one is processed, on
one the processor panics, and one is to be left. -/

def trio : List Delivery :=
  [⟨"a", "first", ⟨"rh"⟩, 1, none⟩, ⟨"a", "second", ⟨"rh"⟩, 2, none⟩,
    ⟨"b", "third", ⟨"rh-b"⟩, 1, some "g"⟩]

def trioPeers : Peers where
  process number _ :=
    match number with
    | 0 => ⟨some 5, ⟨[], .returns .success⟩⟩
    | 1 => ⟨some 1, ⟨[], .panics none⟩⟩
    | _ => ⟨some 0, ⟨[], .returns (.retryable "later")⟩⟩
  send _ queueUrl _ := ⟨some 7, .failed ⟨.send, queueUrl, .timeout⟩⟩
  delete _ _ _ := ⟨some 2, .answered ()⟩

theorem trioPeers_answering : trioPeers.Answering where
  process number _ := by
    rcases number with _ | _ | number <;> rfl
  send _ _ _ := ⟨rfl, by simp [trioPeers]⟩
  delete _ _ _ := ⟨rfl, by simp [trioPeers]⟩

theorem separate_trio :
    trioPeers.Answering ∧ trioPeers.Impartial ∧
      (Batch.run trioPeers ⟨"orders", some "dead"⟩ trio).now = 8 ∧
      ∃ reports,
        (Batch.run trioPeers ⟨"orders", some "dead"⟩ trio).reports? = some reports ∧
          Batch.Separate trioPeers ⟨"orders", some "dead"⟩ trio reports := by
  have impartial : trioPeers.Impartial := ⟨fun _ _ => rfl, fun _ _ => rfl⟩
  exact ⟨trioPeers_answering, impartial, rfl,
    trioPeers_answering.separate impartial ⟨"orders", some "dead"⟩ trio⟩

end AtLeastOnce
