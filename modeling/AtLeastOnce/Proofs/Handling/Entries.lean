import AtLeastOnce.Proofs.Handling.Ending
import AtLeastOnce.Proofs.Handling.Counts

/-!
# What a task logs of its delivery

After its processor has ended, a task logs at most that a copy was published and, as
the last thing that it does, the entry that closes the handling.  That entry is worded
by the outcome and by whether the acknowledgement succeeded, and so fits the report,
because no other pairs of the two come about.
-/

namespace AtLeastOnce

/-- The message with which handling is closed that comes to an acknowledgement of a
kind. -/
def AckKind.message : AckKind → String
  | .deleted => "message processed"
  | .deadLettered => "terminal failure, message dead-lettered"
  | .left => "retryable failure, message left for redelivery"
  | .failed => "ack failed, message left for redelivery"

namespace Event

/-- Whether an event is a log entry with a message. -/
def bears (message : String) : Event → Bool
  | .logged entry => entry.message = message
  | _ => false

/-- Whether an event is a call, the end of one, or a published copy. -/
def isUnderway : Event → Bool
  | .logged (.deadLetterPublished _ _ _) => true
  | .logged _ => false
  | _ => true

theorem bears_of_isUnderway {event : Event} (underway : event.isUnderway = true)
    {message : String} (other : message ≠ "published to dead-letter queue") :
    event.bears message = false := by
  unfold isUnderway at underway
  split at underway
  · exact decide_eq_false other.symm
  · cases underway
  · rename_i unlogged
    unfold bears
    split
    · exact (unlogged _ rfl).elim
    · rfl

end Event

namespace AckKind

theorem message_ne_published (kind : AckKind) :
    kind.message ≠ "published to dead-letter queue" := by
  cases kind <;> simp [message]

theorem message_ne_taskFailed (kind : AckKind) :
    kind.message ≠ "message task failed" := by
  cases kind <;> simp [message]

theorem message_inj {kind other : AckKind} : kind.message = other.message ↔ kind = other := by
  constructor
  · cases kind <;> cases other <;> simp [message]
  · rintro rfl
    rfl

end AckKind

namespace Task

/-- What a task has done after its processor has ended. -/
def handling (peers : Peers) (number : Nat) (delivery : Delivery) (events : List Event) :
    List Event :=
  events.drop (opening peers number delivery).length

/-- What a task has done until its processor has ended, with what is logged of that. -/
def beginning (peers : Peers) (number : Nat) (delivery : Delivery) (events : List Event) :
    List Event :=
  events.take (opening peers number delivery).length

/-- What a task in a stage can have done after its processor has ended. -/
inductive Handles : Stage → List Event → Prop where
  | unreported {stage : Stage} {own : List Event} (report : stage.report? = none)
      (underway : ∀ event ∈ own, event.isUnderway = true) :
      Handles stage own
  | closed {report : Report} {entry : LogEntry} (own : List Event)
      (underway : ∀ event ∈ own, event.isUnderway = true)
      (worded : entry.message = (AckKind.of report.ack).message) :
      Handles (.done report) (own ++ [.logged entry])

variable {peers : Peers} {route : Route} {number : Nat} {delivery : Delivery}
  {stage : Stage} {events before : List Event} {copyId : Option String}

@[simp] theorem handling_opening_append (own : List Event) :
    handling peers number delivery (opening peers number delivery ++ own) = own :=
  List.drop_left

/-- A cleared delete comes after nothing but what led to it. -/
theorem Cleared.handling_append
    (cleared : Cleared peers route number delivery copyId before) (more : List Event) :
    ∃ own, handling peers number delivery (before ++ more) = own ++ more ∧
      ∀ event ∈ own, event.isUnderway = true := by
  cases cleared with
  | processed => exact ⟨[], handling_opening_append more, by simp⟩
  | copied =>
      rw [List.append_assoc, handling_opening_append]
      exact ⟨_, rfl, by simp [Event.isUnderway]⟩

/-- After a cleared delete, the closing entry fits the acknowledgement. -/
theorem Cleared.message_finalEntry
    (cleared : Cleared peers route number delivery copyId before) :
    (finalEntry route delivery (outcome peers number delivery)
        (deleteAck copyId (.ok ()))).message =
      (AckKind.of (deleteAck copyId (.ok ()))).message := by
  cases cleared with
  | processed succeeded =>
      rw [succeeded]
      rfl
  | copied failed =>
      rw [failed]
      rfl

/-- So it does when the delete was refused. -/
theorem message_finalEntry_of_refused (outcome : Outcome) (error : CallError) :
    (finalEntry route delivery outcome (deleteAck copyId (.error error))).message =
      (AckKind.of (deleteAck copyId (.error error))).message := by
  cases copyId with
  | none | some => rfl

theorem Course.handles (course : Course peers route number delivery stage events) :
    Handles stage (handling peers number delivery events) := by
  induction course with
  | queued => exact .unreported rfl (by simp [handling])
  | processing => exact .unreported rfl (by simp [handling, opening])
  | left | unroutable =>
      rw [handling_opening_append]
      exact .closed [] (by simp) rfl
  | publishing | publishingBroke =>
      rw [handling_opening_append]
      exact .unreported rfl (by simp [Event.isUnderway])
  | unpublished =>
      rw [handling_opening_append]
      exact .closed [_, _] (by simp [Event.isUnderway]) rfl
  | deleting _ cleared | deletingBroke cleared =>
      obtain ⟨own, handled, underway⟩ := cleared.handling_append _
      rw [handled]
      exact .unreported rfl (List.forall_mem_append.mpr ⟨underway, by simp [Event.isUnderway]⟩)
  | deleted cleared =>
      obtain ⟨own, handled, underway⟩ := cleared.handling_append _
      rw [handled, List.append_cons, List.append_cons]
      refine .closed _ ?_ cleared.message_finalEntry
      rw [List.append_assoc]
      exact List.forall_mem_append.mpr ⟨underway, by simp [Event.isUnderway]⟩
  | undeleted cleared =>
      obtain ⟨own, handled, underway⟩ := cleared.handling_append _
      rw [handled, List.append_cons, List.append_cons]
      refine .closed _ ?_ (message_finalEntry_of_refused _ _)
      rw [List.append_assoc]
      exact List.forall_mem_append.mpr ⟨underway, by simp [Event.isUnderway]⟩
  | cut _ unfinished induction =>
      generalize handling peers number delivery _ = own at induction ⊢
      cases induction with
      | unreported _ underway => exact .unreported rfl underway
      | closed => cases unfinished

/-! ## What comes before -/

@[simp] theorem beginning_opening_append (own : List Event) :
    beginning peers number delivery (opening peers number delivery ++ own) =
      opening peers number delivery :=
  List.take_left

theorem Cleared.beginning_append
    (cleared : Cleared peers route number delivery copyId before) (more : List Event) :
    beginning peers number delivery (before ++ more) = opening peers number delivery := by
  cases cleared with
  | processed => exact beginning_opening_append more
  | copied =>
      rw [List.append_assoc]
      exact beginning_opening_append _

theorem Course.mem_opening (course : Course peers route number delivery stage events)
    {event : Event} (member : event ∈ beginning peers number delivery events) :
    event ∈ opening peers number delivery := by
  induction course with
  | queued => simp [beginning] at member
  | processing =>
      obtain rfl := List.mem_singleton.mp (List.mem_of_mem_take member)
      exact List.mem_cons_self
  | left | unroutable | publishing | publishingBroke | unpublished =>
      rwa [beginning_opening_append] at member
  | deleting _ cleared | deletingBroke cleared | deleted cleared | undeleted cleared =>
      rwa [cleared.beginning_append] at member
  | cut _ _ induction => exact induction member

/-- What is logged until then are the words of the processor, or that it panicked. -/
theorem bears_of_mem_opening {message : String} (other : message ≠ "processor panicked")
    (unused : ∀ entry ∈ (peers.process number delivery).result.notes,
      entry.message ≠ message)
    {event : Event} (member : event ∈ opening peers number delivery) :
    event.bears message = false := by
  rcases List.mem_cons.mp member with rfl | later
  · rfl
  · rcases List.mem_cons.mp later with rfl | noted
    · rfl
    · obtain ⟨entry, inside, rfl⟩ := List.mem_map.mp noted
      unfold endingNotes at inside
      split at inside
      · exact decide_eq_false (unused entry inside)
      · rcases List.mem_append.mp inside with own | last
        · exact decide_eq_false (unused entry own)
        · rw [List.mem_singleton.mp last]
          exact decide_eq_false other.symm

/-! ## What the entries count -/

namespace Handles

variable {own : List Event}

theorem countP_bears_of_isUnderway {message : String}
    (underway : ∀ event ∈ own, event.isUnderway = true)
    (other : message ≠ "published to dead-letter queue") :
    own.countP (Event.bears message) = 0 := by
  refine List.countP_eq_zero.mpr ?_
  intro event member
  rw [Event.bears_of_isUnderway (underway event member) other]
  exact Bool.false_ne_true

/-- A task that reports has closed its handling once, and as it reports. -/
theorem countP_bears (handles : Handles stage own) (kind : AckKind) :
    own.countP (Event.bears kind.message) =
      if stage.report?.any (fun report => AckKind.of report.ack = kind) then 1 else 0 := by
  cases handles with
  | unreported report underway =>
      rw [countP_bears_of_isUnderway underway kind.message_ne_published, report]
      rfl
  | @closed report entry own underway worded =>
      rw [List.countP_append, countP_bears_of_isUnderway underway kind.message_ne_published]
      simp [List.countP_cons, Event.bears, worded, AckKind.message_inj, Stage.report?]

/-- No task says of itself that it has failed. -/
theorem countP_bears_taskFailed (handles : Handles stage own) :
    own.countP (Event.bears "message task failed") = 0 := by
  have other : "message task failed" ≠ "published to dead-letter queue" := by simp
  cases handles with
  | unreported _ underway => exact countP_bears_of_isUnderway underway other
  | @closed report entry own underway worded =>
      rw [List.countP_append, countP_bears_of_isUnderway underway other]
      simp [Event.bears, worded, AckKind.message_ne_taskFailed]

end Handles

end Task

end AtLeastOnce
