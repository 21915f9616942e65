import AtLeastOnce.Proofs.Receiver.DeleteSafety
import AtLeastOnce.Wire.Record

/-!
# Copies in a dead-letter queue that keeps order

Such a queue keeps the first copy with a deduplication id and lets every later one
with the same id go, though it accepts it.  A copy carries the id of its message, so
redeliveries leave one copy behind.  Messages without an id all carry the same one:
of them the queue keeps a single copy, whatever is reported about the others.
-/

namespace AtLeastOnce

/-! ## The queue -/

/-- A publication with the number of the task that sends it. -/
structure Copy where
  task : Nat
  publication : Publication
  deriving DecidableEq, Repr

namespace Copy

def hasKey (key : String) (copy : Copy) : Bool := copy.publication.deduplication = some key

/-- Whether a queue takes the second copy for the first. -/
def repeats (copy earlier : Copy) : Bool :=
  earlier.publication.deduplication = copy.publication.deduplication

/-- What a queue holds after one more copy has come in. -/
def accept (held : List Copy) (copy : Copy) : List Copy :=
  if held.any copy.repeats then held else held ++ [copy]

/-- What a queue holds of the copies that have come in. -/
def keep (taken : List Copy) : List Copy := taken.foldl accept []

section

variable {key : String} {held taken : List Copy} {copy : Copy}

theorem filter_accept_of_hasKey (same : copy.hasKey key = true) :
    (accept held copy).filter (hasKey key) =
      if held.filter (hasKey key) = [] then [copy] else held.filter (hasKey key) := by
  have known : held.any copy.repeats = true ↔ held.filter (hasKey key) ≠ [] := by
    simp only [hasKey, decide_eq_true_eq] at same
    simp [List.any_eq_true, List.filter_eq_nil_iff, repeats, hasKey, same]
  unfold accept
  by_cases repeated : held.any copy.repeats = true
  · simp [repeated, known.mp repeated]
  · have first : held.filter (hasKey key) = [] := by
      by_contra others
      exact repeated (known.mpr others)
    simp [repeated, first, same]

theorem filter_accept_of_not_hasKey (other : copy.hasKey key = false) :
    (accept held copy).filter (hasKey key) = held.filter (hasKey key) := by
  unfold accept
  split
  · rfl
  · simp [other]

theorem filter_foldl_accept (key : String) (held taken : List Copy) :
    (taken.foldl accept held).filter (hasKey key) =
      if held.filter (hasKey key) = [] then (taken.find? (hasKey key)).toList
      else held.filter (hasKey key) := by
  induction taken generalizing held with
  | nil =>
      by_cases none_yet : held.filter (hasKey key) = []
      · simp [none_yet]
      · simp [none_yet]
  | cons copy taken induction =>
      rw [List.foldl_cons, induction]
      cases same : copy.hasKey key with
      | true =>
          rw [filter_accept_of_hasKey same, List.find?_cons_of_pos same]
          by_cases none_yet : held.filter (hasKey key) = []
          · simp [none_yet]
          · simp [none_yet]
      | false =>
          rw [filter_accept_of_not_hasKey same, List.find?_cons_of_neg (by simp [same])]

/-- A queue keeps the first copy with each key. -/
theorem filter_keep (key : String) (taken : List Copy) :
    (keep taken).filter (hasKey key) = (taken.find? (hasKey key)).toList :=
  filter_foldl_accept key [] taken

theorem mem_of_mem_accept {other : Copy} (member : other ∈ accept held copy) :
    other ∈ held ∨ other = copy := by
  unfold accept at member
  split at member
  · exact .inl member
  · simpa using member

theorem mem_of_mem_keep (member : copy ∈ keep taken) : copy ∈ taken := by
  have either : ∀ held : List Copy,
      copy ∈ taken.foldl accept held → copy ∈ held ∨ copy ∈ taken := by
    clear member
    induction taken with
    | nil => exact fun held inside => .inl inside
    | cons next taken induction =>
        intro held inside
        rcases induction _ inside with early | late
        · rcases mem_of_mem_accept early with before | rfl
          · exact .inl before
          · exact .inr List.mem_cons_self
        · exact .inr (List.mem_cons_of_mem _ late)
  rcases either [] member with nothing | inside
  · cases nothing
  · exact inside

end

end Copy

/-! ## The messages -/

/-- A message in the queue that is received from, as far as its copies show it. -/
structure Letter where
  id : Option String
  body : Option String
  deriving DecidableEq, Repr

namespace Letter

/-- The id that all deliveries of the message carry. -/
def key (letter : Letter) : String := letter.id.getD Wire.Record.unknownId

def text (letter : Letter) : String := letter.body.getD ""

theorem id_eq_of_key {letter : Letter} {id : String} (same : letter.key = id)
    (known : id ≠ Wire.Record.unknownId) : letter.id = some id := by
  unfold key at same
  cases carried : letter.id with
  | none =>
      rw [carried] at same
      exact absurd same.symm known
  | some own =>
      rw [carried] at same
      exact congrArg some same

end Letter

namespace Receiver

variable {ι : Type} {options : ReceiverOptions} {world : World} {shutdown : Shutdown}
  {state : State} {history : List Occurrence} {joined : List Task}
  {letters : ι → Letter} {origin : Nat → ι} {deadLetterUrl : String} {taken : List Copy}

/-- Every delivery that was handed out has been read off a record of its message.  The
record may lack anything that the message lacks; the rest may change from delivery to
delivery. -/
def Delivers (letters : ι → Letter) (origin : Nat → ι) (history : List Occurrence) : Prop :=
  ∀ number delivery, (handedOut history)[number]? = some delivery →
    ∃ record : Wire.Record,
      record.delivery? = some delivery ∧
        record.id = (letters (origin number)).id ∧
        record.body = (letters (origin number)).body

/-- What has come in at a dead-letter queue, in any order: the copies that the queue
confirmed, and of those that it did not perhaps some. -/
structure TakesIn (deadLetterUrl : String) (history : List Occurrence) (taken : List Copy) :
    Prop where
  sent : ∀ copy ∈ taken,
    .sendCalled deadLetterUrl copy.publication ∈ eventsOf copy.task history
  confirmed : ∀ number copyId, .sendEnded (.answered copyId) ∈ eventsOf number history →
    ∃ copy ∈ taken, copy.task = number

/-- The delivery with a number has been reported as dead-lettered. -/
def Reported (joined : List Task) (state : State) (number : Nat) : Prop :=
  ∃ task ∈ joined ++ state.inFlight,
    task.number = number ∧
      ∃ report copyId, task.stage = .done report ∧ report.ack = .ok (.deadLettered copyId)

/-- The copies that a run has sent. -/
def sends (history : List Occurrence) : List Copy :=
  history.filterMap fun occurrence =>
    match occurrence.task, occurrence.event with
    | some number, .sendCalled _ publication => some ⟨number, publication⟩
    | _, _ => none

/-- A queue may take in every copy that is sent to it. -/
theorem Reaches.takesIn_sends (reached : Reaches options world shutdown state history)
    (configured : options.deadLetterUrl = some deadLetterUrl) :
    TakesIn deadLetterUrl history (sends history) := by
  constructor
  · intro copy member
    obtain ⟨⟨time, task, event⟩, inside, made⟩ := List.mem_filterMap.mp member
    cases task with
    | none => cases made
    | some number =>
        cases event with
        | sendCalled queueUrl publication =>
            cases made
            obtain ⟨_, _, _, _, same, _⟩ := reached.concernsOnly inside rfl
            rw [show options.route.deadLetter = some deadLetterUrl from configured] at same
            cases same
            exact mem_eventsOf.mpr ⟨time, inside⟩
        | _ => cases made
  · intro number copyId ended
    rcases reached.course_or_nothing number with ⟨delivery, stage, _, course⟩ | nothing
    · obtain ⟨queueUrl, publication, called⟩ := course.sendCalled_of_sendEnded ended
      obtain ⟨time, inside⟩ := mem_eventsOf.mp called
      exact ⟨⟨number, publication⟩, List.mem_filterMap.mpr ⟨_, inside, rfl⟩, rfl⟩
    · rw [nothing] at ended
      cases ended

/-- A copy carries the key and the body of the message that it is made of. -/
theorem Reaches.copy_eq (reached : Reaches options world shutdown state history)
    (delivers : Delivers letters origin history) (ordered : isOrderedQueue deadLetterUrl = true)
    (takesIn : TakesIn deadLetterUrl history taken) {copy : Copy} (member : copy ∈ taken) :
    copy.publication.deduplication = some (letters (origin copy.task)).key ∧
      copy.publication.body = (letters (origin copy.task)).text := by
  obtain ⟨time, called⟩ := mem_eventsOf.mp (takesIn.sent copy member)
  obtain ⟨number, delivery, same, handed, _, made⟩ := reached.concernsOnly called rfl
  cases same
  obtain ⟨record, decoded, id, body⟩ := delivers _ delivery handed
  obtain ⟨token, _, rfl⟩ := Option.map_eq_some_iff.mp decoded
  rw [made, Task.deadLetterCopy_deduplication ordered, Task.deadLetterCopy_body]
  exact ⟨by rw [id]; rfl, by rw [body]; rfl⟩

theorem Joins.exists_copy (run : Joins options world shutdown state history joined)
    (takesIn : TakesIn deadLetterUrl history taken) {number : Nat}
    (reported : Reported joined state number) : ∃ copy ∈ taken, copy.task = number := by
  obtain ⟨task, member, rfl, report, copyId, done, acked⟩ := reported
  have course := (run.ledger.onCourse task member).course
  rw [done] at course
  exact takesIn.confirmed task.number copyId (course.accepted_of_deadLettered acked)

/-- Of the messages with one key a dead-letter queue that keeps order holds one copy, as
soon as a delivery of any of them has been reported as dead-lettered; the copy is one
of theirs.  As ids are distinct, only the key that stands for a missing id can be
shared.  A message that does not share it has one copy of its own, however often it is
redelivered. -/
theorem Joins.deadLettered_once [DecidableEq ι]
    (run : Joins options world shutdown state history joined)
    (delivers : Delivers letters origin history) (ordered : isOrderedQueue deadLetterUrl = true)
    (takesIn : TakesIn deadLetterUrl history taken)
    (distinct : ∀ one two id,
      (letters one).id = some id → (letters two).id = some id → one = two)
    {number : Nat} (reported : Reported joined state number) :
    ∃ copy,
      (Copy.keep taken).filter (Copy.hasKey (letters (origin number)).key) = [copy] ∧
        (letters (origin copy.task)).key = (letters (origin number)).key ∧
        copy.publication.body = (letters (origin copy.task)).text ∧
        (((letters (origin number)).key = Wire.Record.unknownId →
            ∀ message, (letters message).key = Wire.Record.unknownId → message = origin number) →
          (Copy.keep taken).filter (fun kept => origin kept.task = origin number) = [copy] ∧
            copy.publication.body = (letters (origin number)).text) := by
  obtain ⟨own, inside, rfl⟩ := run.exists_copy takesIn reported
  have kind : ∀ kept ∈ taken, ∀ key,
      kept.hasKey key = true ↔ (letters (origin kept.task)).key = key := by
    intro kept member key
    have made := (run.reaches.copy_eq delivers ordered takesIn member).1
    simp [Copy.hasKey, made]
  obtain ⟨copy, found⟩ := Option.isSome_iff_exists.mp
    (List.find?_isSome.mpr ⟨own, inside, (kind own inside _).mpr rfl⟩)
  have member := List.mem_of_find?_eq_some found
  have same := (kind copy member _).mp (List.find?_some found)
  have single : (Copy.keep taken).filter (Copy.hasKey (letters (origin own.task)).key) =
      [copy] := by
    rw [Copy.filter_keep, found]
    rfl
  have body := (run.reaches.copy_eq delivers ordered takesIn member).2
  refine ⟨copy, single, same, body, ?_⟩
  intro alone
  have identified : ∀ message, (letters message).key = (letters (origin own.task)).key →
      message = origin own.task := by
    intro message shared
    by_cases missing : (letters (origin own.task)).key = Wire.Record.unknownId
    · exact alone missing message (shared.trans missing)
    · exact distinct _ _ _ (Letter.id_eq_of_key shared missing)
        (Letter.id_eq_of_key rfl missing)
  constructor
  · rw [← single]
    apply List.filter_congr
    intro kept held
    rw [Bool.eq_iff_iff, kind kept (Copy.mem_of_mem_keep held), decide_eq_true_iff]
    constructor
    · intro ours
      rw [ours]
    · exact identified _
  · rw [body, identified _ same]

/-- Two deliveries with one id, or without any, that the processor gives up on. -/
def twice (id : Option String) (first second : String) : World :=
  .once
    ([⟨id, some "a", some first, none, none⟩, ⟨id, some "b", some second, none, none⟩].filterMap
      Wire.Record.delivery?)
    fun _ => .returns (.terminal "unreadable")

def orderedOptions : ReceiverOptions :=
  (ReceiverOptions.standard "letters").withDeadLetterQueue "dead.fifo"

def twiceRun (id : Option String) (first second : String) : Run :=
  run orderedOptions (twice id first second) none 40

/-- A message that is delivered twice is sent twice, and one copy is held. -/
theorem deadLettered_once_redelivered :
    (sends (twiceRun (some "1") "first" "first").history).length = 2 ∧
      ∃ copy,
        Copy.keep (sends (twiceRun (some "1") "first" "first").history) = [copy] ∧
          copy.publication.body = "first" := by
  have reached := run_reaches orderedOptions (twice (some "1") "first" "first") none 40
  obtain ⟨joined, joins⟩ := reached.joins
  have delivers : Delivers (fun _ => ⟨some "1", some "first"⟩) (fun _ => ())
      (twiceRun (some "1") "first" "first").history := by
    intro number delivery handed
    have both : handedOut (twiceRun (some "1") "first" "first").history =
        [⟨"1", "first", ⟨"a"⟩, 1, none⟩, ⟨"1", "first", ⟨"b"⟩, 1, none⟩] := rfl
    rw [both] at handed
    match number, handed with
    | 0, rfl => exact ⟨⟨some "1", some "a", some "first", none, none⟩, rfl, rfl, rfl⟩
    | 1, rfl => exact ⟨⟨some "1", some "b", some "first", none, none⟩, rfl, rfl, rfl⟩
  have reported : Reported joined (twiceRun (some "1") "first" "first").state 0 :=
    ⟨_, List.mem_append_right _ List.mem_cons_self, rfl, _, _, rfl, rfl⟩
  obtain ⟨copy, _, _, _, own⟩ := Joins.deadLettered_once joins delivers (by decide)
    (reached.takesIn_sends rfl) (fun _ _ _ _ _ => rfl) reported
  obtain ⟨single, body⟩ := own fun _ _ _ => rfl
  exact ⟨rfl, copy, by simpa [twiceRun] using single, body⟩

/-- Two messages without an id are both reported as dead-lettered, and the queue holds
no copy of the second. -/
theorem anonymous_copy_lost :
    ∃ joined,
      Joins orderedOptions (twice none "first" "second") .idle
        (twiceRun none "first" "second").state (twiceRun none "first" "second").history joined ∧
      Delivers (fun number => ⟨none, some (if number = 0 then "first" else "second")⟩)
        (fun number : Nat => number) (twiceRun none "first" "second").history ∧
      TakesIn "dead.fifo" (twiceRun none "first" "second").history
        (sends (twiceRun none "first" "second").history) ∧
      (∀ number < 2, Reported joined (twiceRun none "first" "second").state number) ∧
      (Copy.keep (sends (twiceRun none "first" "second").history)).map
        (fun copy => copy.publication.body) = ["first"] := by
  have reached := run_reaches orderedOptions (twice none "first" "second") none 40
  obtain ⟨joined, joins⟩ := reached.joins
  refine ⟨joined, joins, ?_, reached.takesIn_sends rfl, ?_, rfl⟩
  · intro number delivery handed
    have both : handedOut (twiceRun none "first" "second").history =
        [⟨"unknown", "first", ⟨"a"⟩, 1, none⟩, ⟨"unknown", "second", ⟨"b"⟩, 1, none⟩] := rfl
    rw [both] at handed
    match number, handed with
    | 0, rfl => exact ⟨⟨none, some "a", some "first", none, none⟩, rfl, rfl, rfl⟩
    | 1, rfl => exact ⟨⟨none, some "b", some "second", none, none⟩, rfl, rfl, rfl⟩
  · intro number small
    match number, small with
    | 0, _ => exact ⟨_, List.mem_append_right _ List.mem_cons_self, rfl, _, _, rfl, rfl⟩
    | 1, _ =>
        exact ⟨_, List.mem_append_right _ (List.mem_cons_of_mem _ List.mem_cons_self), rfl, _, _,
          rfl, rfl⟩

end Receiver

end AtLeastOnce
