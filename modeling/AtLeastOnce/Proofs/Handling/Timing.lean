import AtLeastOnce.Proofs.Handling.Course

/-!
# When the task of a delivery ends

`end?` tells when a task comes to its end if every step is taken as soon as it is
due.  A step that is taken on time leaves that moment where it was, and so does the
passing of time while the task waits.
-/

namespace AtLeastOnce

theorem Timed.le_of_endFrom {timed : Timed α} {now moment : Nat}
    (ends : timed.endFrom now = some moment) : now ≤ moment := by
  obtain ⟨delay, _, rfl⟩ := Option.map_eq_some_iff.mp ends
  exact Nat.le_add_right now delay

/-! ## The earliest of some moments -/

/-- The earlier of two moments, one of which may be missing. -/
def sooner? (best moment : Option Nat) : Option Nat :=
  match best, moment with
  | none, moment => moment
  | some best, none => some best
  | some best, some moment => some (Min.min best moment)

theorem foldl_sooner?_le {moments : List (Option Nat)} {first : Option Nat} {best : Nat}
    (earliest : moments.foldl sooner? first = some best) :
    (∀ moment, first = some moment → best ≤ moment) ∧
      ∀ moment, some moment ∈ moments → best ≤ moment := by
  induction moments generalizing first with
  | nil =>
      refine ⟨?_, by simp⟩
      rintro moment rfl
      exact Nat.le_of_eq (Option.some.inj earliest).symm
  | cons head rest induction =>
      obtain ⟨ahead, inside⟩ := induction earliest
      constructor
      · rintro moment rfl
        cases head with
        | none => exact ahead moment rfl
        | some other => exact Nat.le_trans (ahead _ rfl) (Nat.min_le_left moment other)
      · intro moment member
        rcases List.mem_cons.mp member with rfl | later
        · cases first with
          | none => exact ahead moment rfl
          | some other => exact Nat.le_trans (ahead _ rfl) (Nat.min_le_right other moment)
        · exact inside moment later

theorem le_of_earliest? {moments : List (Option Nat)} {best moment : Nat}
    (earliest : earliest? moments = some best) (member : some moment ∈ moments) :
    best ≤ moment :=
  (foldl_sooner?_le earliest).2 moment member

theorem foldl_sooner?_mem {moments : List (Option Nat)} {first : Option Nat} {best : Nat}
    (earliest : moments.foldl sooner? first = some best) :
    first = some best ∨ some best ∈ moments := by
  induction moments generalizing first with
  | nil => exact .inl earliest
  | cons head rest induction =>
      rcases induction earliest with sooner | inside
      · cases first with
        | none =>
            right
            rw [show head = some best from sooner]
            exact List.mem_cons_self
        | some moment =>
            cases head with
            | none => exact .inl sooner
            | some other =>
                have least : Min.min moment other = best := Option.some.inj sooner
                by_cases before : moment ≤ other
                · left
                  rw [← least, Nat.min_eq_left before]
                · right
                  rw [← least, Nat.min_eq_right (Nat.le_of_not_le before)]
                  exact List.mem_cons_self
      · exact .inr (List.mem_cons_of_mem head inside)

theorem mem_of_earliest? {moments : List (Option Nat)} {best : Nat}
    (earliest : earliest? moments = some best) : some best ∈ moments := by
  rcases foldl_sooner?_mem earliest with absent | member
  · cases absent
  · exact member

theorem foldl_sooner?_isSome (moments : List (Option Nat)) {first : Option Nat}
    (some_first : first.isSome = true) : (moments.foldl sooner? first).isSome = true := by
  induction moments generalizing first with
  | nil => exact some_first
  | cons head rest induction =>
      apply induction
      obtain ⟨moment, rfl⟩ := Option.isSome_iff_exists.mp some_first
      cases head with
      | none => rfl
      | some other => rfl

/-- Only what nobody waits for has no earliest moment. -/
theorem eq_none_of_earliest? {moments : List (Option Nat)} {moment : Option Nat}
    (none_waits : earliest? moments = none) (member : moment ∈ moments) :
    moment = none := by
  obtain ⟨before, after, rfl⟩ := List.append_of_mem member
  cases moment with
  | none => rfl
  | some moment =>
      have found : ((before ++ some moment :: after).foldl sooner? none).isSome = true := by
        rw [List.foldl_append, List.foldl_cons]
        apply foldl_sooner?_isSome
        cases before.foldl sooner? none with
        | none => rfl
        | some other => rfl
      rw [show (before ++ some moment :: after).foldl sooner? none = none from none_waits]
        at found
      cases found

/-- The most steps that lie ahead of a task. -/
def Stage.stepsLeft : Stage → Nat
  | .queued => 4
  | .processing _ => 3
  | .publishing _ _ _ => 2
  | .deleting _ _ _ => 1
  | .done _ => 0
  | .broken _ => 0
  | .cut => 0

theorem Stage.stepsLeft_eq_zero {stage : Stage} (finished : stage.isFinished = true) :
    stage.stepsLeft = 0 := by
  cases stage with
  | done | broken | cut => rfl
  | queued | processing | publishing | deleting => cases finished

namespace Task

section

variable (peers : Peers) (route : Route) (task : Task)

def deleteEnd? (moment : Nat) : Option Nat :=
  (peers.delete task.number route.source task.delivery.handle).endFrom moment

/-- When a task ends whose copy has been sent, or not, at a moment. -/
def sentEnd? (deadLetterUrl : String) (moment : Nat) : Option Nat :=
  match sendResult peers task.number task.delivery deadLetterUrl with
  | .answered _ => deleteEnd? peers route task moment
  | .failed _ => some moment
  | .panicked _ => some moment

/-- When a task ends that begins at a moment to do what the outcome asks for. -/
def decisionEnd? (outcome : Outcome) (moment : Nat) : Option Nat :=
  match outcome.decision with
  | .delete => deleteEnd? peers route task moment
  | .leave => some moment
  | .deadLetter =>
      match route.deadLetter with
      | none => some moment
      | some url =>
          ((peers.send task.number url (deadLetterCopy url task.delivery)).endFrom
            moment).bind (sentEnd? peers route task url)

def processedEnd? (moment : Nat) : Option Nat :=
  decisionEnd? peers route task (outcome peers task.number task.delivery) moment

/-- When a task ends that is left alone from `now` on. -/
def end? (now : Nat) : Option Nat :=
  match task.stage with
  | .queued =>
      ((peers.process task.number task.delivery).endFrom now).bind
        (processedEnd? peers route task)
  | .processing until? => until?.bind (processedEnd? peers route task)
  | .publishing _ url until? => until?.bind (sentEnd? peers route task url)
  | .deleting _ _ until? => until?
  | .done _ => some now
  | .broken _ => some now
  | .cut => some now

end

variable {peers : Peers} {route : Route} {now moment : Nat} {task next : Task}
  {more : List Event}

/-! ## No end lies behind -/

theorem le_of_deleteEnd? {ending : Nat}
    (ends : deleteEnd? peers route task moment = some ending) : moment ≤ ending :=
  Timed.le_of_endFrom ends

theorem le_of_sentEnd? {url : String} {ending : Nat}
    (ends : sentEnd? peers route task url moment = some ending) :
    moment ≤ ending := by
  unfold sentEnd? at ends
  split at ends
  · exact le_of_deleteEnd? ends
  · exact Nat.le_of_eq (Option.some.inj ends)
  · exact Nat.le_of_eq (Option.some.inj ends)

theorem le_of_processedEnd? {ending : Nat}
    (ends : processedEnd? peers route task moment = some ending) :
    moment ≤ ending := by
  unfold processedEnd? decisionEnd? at ends
  split at ends
  · exact le_of_deleteEnd? ends
  · exact Nat.le_of_eq (Option.some.inj ends)
  · split at ends
    · exact Nat.le_of_eq (Option.some.inj ends)
    · obtain ⟨sent, answered, rest⟩ := Option.bind_eq_some_iff.mp ends
      exact Nat.le_trans (Timed.le_of_endFrom answered) (le_of_sentEnd? rest)

/-- A task that waits, and for something that comes, does not end before. -/
theorem wakeTime?_of_end? {ending : Nat} (unfinished : task.isFinished = false)
    (begun : task.stage ≠ .queued)
    (ends : task.end? peers route now = some ending) :
    ∃ moment, task.stage.wakeTime? = some moment ∧ moment ≤ ending := by
  obtain ⟨number, delivery, stage⟩ := task
  cases stage with
  | queued => exact (begun rfl).elim
  | processing until? =>
      obtain ⟨moment, comes, rest⟩ := Option.bind_eq_some_iff.mp ends
      exact ⟨moment, comes, le_of_processedEnd? rest⟩
  | publishing outcome url until? =>
      obtain ⟨moment, comes, rest⟩ := Option.bind_eq_some_iff.mp ends
      exact ⟨moment, comes, le_of_sentEnd? rest⟩
  | deleting outcome copyId until? => exact ⟨ending, ends, Nat.le_refl _⟩
  | done | broken | cut => cases unfinished

/-- The passing of time does not move the end of a task that waits. -/
theorem end?_of_waits {later : Nat} (unfinished : task.isFinished = false)
    (begun : task.stage ≠ .queued) :
    task.end? peers route later = task.end? peers route now := by
  obtain ⟨number, delivery, stage⟩ := task
  cases stage with
  | queued => exact (begun rfl).elim
  | processing | publishing | deleting => rfl
  | done | broken | cut => cases unfinished

theorem unfinished_of_wakeTime? (waits : task.stage.wakeTime? = some moment) :
    task.isFinished = false := by
  obtain ⟨number, delivery, stage⟩ := task
  cases stage with
  | queued | processing | publishing | deleting => rfl
  | done | broken | cut => cases waits

theorem stepsLeft_pos (unfinished : task.isFinished = false) :
    0 < task.stage.stepsLeft := by
  obtain ⟨number, delivery, stage⟩ := task
  cases stage with
  | queued | processing | publishing | deleting => simp [Stage.stepsLeft]
  | done | broken | cut => cases unfinished

theorem end?_of_finished (finished : task.isFinished = true) :
    task.end? peers route now = some now := by
  obtain ⟨number, delivery, stage⟩ := task
  cases stage with
  | done | broken | cut => rfl
  | queued | processing | publishing | deleting => cases finished

theorem le_of_end? {ending : Nat}
    (ahead : ∀ moment, task.stage.wakeTime? = some moment → now ≤ moment)
    (ends : task.end? peers route now = some ending) : now ≤ ending := by
  by_cases finished : task.isFinished = true
  · rw [end?_of_finished finished] at ends
    exact Nat.le_of_eq (Option.some.inj ends)
  · by_cases queued : task.stage = .queued
    · unfold end? at ends
      rw [queued] at ends
      obtain ⟨processed, answered, rest⟩ := Option.bind_eq_some_iff.mp ends
      exact Nat.le_trans (Timed.le_of_endFrom answered) (le_of_processedEnd? rest)
    · obtain ⟨moment, waits, before⟩ :=
        wakeTime?_of_end? (eq_false_of_ne_true finished) queued ends
      exact Nat.le_trans (ahead moment waits) before

/-! ## What a step does to the time -/

/-- A step that leads from one task to the next at a moment, seen from the clock:
what the next waits for lies ahead, and its end is the one that was to be. -/
structure Timely (peers : Peers) (route : Route) (now : Nat) (next : Task)
    (stepsLeft : Nat) (ending? : Option Nat) : Prop where
  fewer : next.stage.stepsLeft < stepsLeft
  ahead : ∀ moment, next.stage.wakeTime? = some moment → now ≤ moment
  ends : next.end? peers route now = ending?

theorem timely_of_finished {stepsLeft : Nat} (finished : next.isFinished = true)
    (some_left : 0 < stepsLeft) :
    Timely peers route now next stepsLeft (some now) := by
  obtain ⟨number, delivery, stage⟩ := next
  cases stage with
  | done | broken | cut => exact ⟨some_left, by simp [Stage.wakeTime?], rfl⟩
  | queued | processing | publishing | deleting => cases finished

theorem timely_deleting {stepsLeft : Nat} {outcome : Outcome} {copyId : Option String}
    (some_left : 1 < stepsLeft) :
    Timely peers route now
      { task with stage := .deleting outcome copyId (deleteEnd? peers route task now) }
      stepsLeft (deleteEnd? peers route task now) where
  fewer := some_left
  ahead := fun _ ends => le_of_deleteEnd? ends
  ends := rfl

theorem timely_beginDecision (peers : Peers) (route : Route) (now : Nat) (task : Task)
    (outcome : Outcome) :
    Timely peers route now
      { task with stage := (beginDecision peers route now task outcome).1 } 3
      (decisionEnd? peers route task outcome now) := by
  unfold beginDecision decisionEnd?
  cases outcome.decision with
  | delete => exact timely_deleting (by decide)
  | leave => exact timely_of_finished rfl (by decide)
  | deadLetter =>
      cases route.deadLetter with
      | none => exact timely_of_finished rfl (by decide)
      | some url =>
          exact
            { fewer := by simp [Stage.stepsLeft]
              ahead := fun _ ends => Timed.le_of_endFrom ends
              ends := rfl }

theorem timely_afterSend (peers : Peers) (route : Route) (now : Nat) (task : Task)
    (outcome : Outcome) (url : String) :
    Timely peers route now
      { task with stage := (afterSend peers route now task outcome url).1 } 2
      (sentEnd? peers route task url now) := by
  have sent : (peers.send task.number url (deadLetterCopy url task.delivery)).result =
      sendResult peers task.number task.delivery url := rfl
  cases published : sendResult peers task.number task.delivery url with
  | answered copyId =>
      have stage : (afterSend peers route now task outcome url).1 =
          .deleting outcome (some copyId) (deleteEnd? peers route task now) := by
        simp [afterSend, sent, published, beginDelete, deleteEnd?]
      simp only [stage, sentEnd?, published]
      exact timely_deleting (by decide)
  | failed error =>
      simp only [afterSend, sent, sentEnd?, published]
      exact timely_of_finished rfl (by decide)
  | panicked =>
      simp only [afterSend, sent, sentEnd?, published]
      exact timely_of_finished rfl (by decide)

theorem afterDelete_isFinished (outcome : Outcome) (copyId : Option String) :
    (afterDelete peers route task outcome copyId).1.isFinished = true := by
  cases ended : (peers.delete task.number route.source task.delivery.handle).result with
  | answered nothing => simp [afterDelete, ended, conclude, Stage.isFinished]
  | failed error => simp [afterDelete, ended, conclude, Stage.isFinished]
  | panicked => simp [afterDelete, ended, Stage.isFinished]

/-- A step that is due when it is taken is due just then, or it would be late. -/
theorem eq_some_of_isDue {until? : Option Nat} (due : isDue now until? = true)
    (ahead : ∀ moment, until? = some moment → now ≤ moment) : until? = some now := by
  cases until? with
  | none => cases due
  | some moment =>
      have passed : moment ≤ now := by simpa [isDue] using due
      rw [Nat.le_antisymm passed (ahead moment rfl)]

theorem step?_timely (stepped : task.step? peers route now = some (next, more))
    (ahead : ∀ moment, task.stage.wakeTime? = some moment → now ≤ moment) :
    Timely peers route now next task.stage.stepsLeft
      (task.end? peers route now) := by
  obtain ⟨number, delivery, stage⟩ := task
  cases stage with
  | queued =>
      simp only [step?, Option.some.injEq, Prod.mk.injEq] at stepped
      obtain ⟨rfl, _⟩ := stepped
      exact
        { fewer := by simp [Stage.stepsLeft]
          ahead := fun _ ends => Timed.le_of_endFrom ends
          ends := rfl }
  | processing until? =>
      simp only [step?, Option.ite_none_right_eq_some, Option.some.injEq,
        Prod.mk.injEq] at stepped
      obtain ⟨due, rfl, _⟩ := stepped
      obtain rfl := eq_some_of_isDue due ahead
      exact timely_beginDecision peers route now ⟨number, delivery, _⟩ _
  | publishing outcome url until? =>
      simp only [step?, Option.ite_none_right_eq_some, Option.some.injEq,
        Prod.mk.injEq] at stepped
      obtain ⟨due, rfl, _⟩ := stepped
      obtain rfl := eq_some_of_isDue due ahead
      exact timely_afterSend peers route now ⟨number, delivery, _⟩ outcome url
  | deleting outcome copyId until? =>
      simp only [step?, Option.ite_none_right_eq_some, Option.some.injEq,
        Prod.mk.injEq] at stepped
      obtain ⟨due, rfl, _⟩ := stepped
      obtain rfl := eq_some_of_isDue due ahead
      exact timely_of_finished (afterDelete_isFinished outcome copyId)
        (by simp [Stage.stepsLeft])
  | done | broken | cut => simp [step?] at stepped

/-- A step brings a task nearer to its end, also when it is late. -/
theorem step?_fewer (stepped : task.step? peers route now = some (next, more)) :
    next.stage.stepsLeft < task.stage.stepsLeft := by
  obtain ⟨number, delivery, stage⟩ := task
  cases stage with
  | queued =>
      simp only [step?, Option.some.injEq, Prod.mk.injEq] at stepped
      obtain ⟨rfl, _⟩ := stepped
      simp [Stage.stepsLeft]
  | processing until? =>
      simp only [step?, Option.ite_none_right_eq_some, Option.some.injEq,
        Prod.mk.injEq] at stepped
      obtain ⟨_, rfl, _⟩ := stepped
      exact (timely_beginDecision peers route now ⟨number, delivery, _⟩ _).fewer
  | publishing outcome url until? =>
      simp only [step?, Option.ite_none_right_eq_some, Option.some.injEq,
        Prod.mk.injEq] at stepped
      obtain ⟨_, rfl, _⟩ := stepped
      exact (timely_afterSend peers route now ⟨number, delivery, _⟩ outcome url).fewer
  | deleting outcome copyId until? =>
      simp only [step?, Option.ite_none_right_eq_some, Option.some.injEq,
        Prod.mk.injEq] at stepped
      obtain ⟨_, rfl, _⟩ := stepped
      exact Nat.lt_of_le_of_lt (Nat.le_of_eq
        (Stage.stepsLeft_eq_zero (afterDelete_isFinished outcome copyId))) Nat.one_pos
  | done | broken | cut => simp [step?] at stepped

theorem step?_isSome (unfinished : task.isFinished = false)
    (due : task.stage = .queued ∨ isDue now task.stage.wakeTime? = true) :
    (task.step? peers route now).isSome = true := by
  obtain ⟨number, delivery, stage⟩ := task
  cases stage with
  | queued => rfl
  | processing until? | publishing outcome url until? | deleting outcome copyId until? =>
      rcases due with queued | due
      · cases queued
      · have come : isDue now until? = true := due
        simp [step?, come]
  | done | broken | cut => cases unfinished

end Task

end AtLeastOnce
