import AtLeastOnce.Proofs.Receiver.Ledger

/-!
# Who makes an event

The loop receives, and what is done about a delivery is done by the task that the
delivery was handed out to.  A number has the events of a course, or none.
-/

namespace AtLeastOnce.Receiver

variable {options : ReceiverOptions} {world : World} {shutdown : Shutdown}
  {state next : State} {history events : List Occurrence} {occurrence : Occurrence}

theorem mem_occurrences {time : Nat} {task : Option Nat} {made : List Event} :
    occurrence ∈ occurrences time task made ↔
      occurrence.time = time ∧ occurrence.task = task ∧
        occurrence.event ∈ made := by
  obtain ⟨at_, by_, event⟩ := occurrence
  simp only [occurrences, List.mem_map, Occurrence.mk.injEq]
  constructor
  · rintro ⟨_, member, rfl, rfl, rfl⟩
    exact ⟨rfl, rfl, member⟩
  · rintro ⟨rfl, rfl, member⟩
    exact ⟨event, member, rfl, rfl, rfl⟩

/-- No task, no call about a delivery. -/
theorem Move.untasked (move : Move options world state next events)
    (member : occurrence ∈ events) (none : occurrence.task = none) :
    occurrence.event.isOfTask = false := by
  cases move with
  | trigger =>
      obtain ⟨_, _, inside⟩ := mem_occurrences.mp member
      rw [List.mem_singleton.mp inside]
      rfl
  | loop move =>
      obtain ⟨_, _, inside⟩ := mem_occurrences.mp member
      generalize occurrence.event = event at inside
      cases move.ofLoop inside <;> rfl
  | task =>
      obtain ⟨_, tasked, _⟩ := mem_occurrences.mp member
      rw [none] at tasked
      cases tasked
  | cut | advance => cases member

theorem Reaches.untasked (reached : Reaches options world shutdown state history)
    (member : occurrence ∈ history) (none : occurrence.task = none) :
    occurrence.event.isOfTask = false := by
  induction reached with
  | start => cases member
  | step _ stepped induction =>
      rcases List.mem_append.mp member with earlier | now
      · exact induction earlier
      · exact (step?_cases stepped).untasked now none

/-- The events of a number that was given out are those of the delivery that was
handed out under it; a number that was not given out has none. -/
theorem Reaches.course_or_nothing
    (reached : Reaches options world shutdown state history)
    (number : Nat) :
    (∃ delivery stage, (handedOut history)[number]? = some delivery ∧
      Task.Course world.peers options.route number delivery stage
        (eventsOf number history)) ∨
      eventsOf number history = [] := by
  obtain ⟨joined, run⟩ := reached.joins
  have ledger := run.ledger
  rcases Nat.lt_or_ge number state.dispatched with given | beyond
  · obtain ⟨task, member, rfl⟩ := ledger.exists_task given
    have onCourse := ledger.onCourse task member
    exact .inl ⟨task.delivery, task.stage, onCourse.delivery, onCourse.course⟩
  · exact .inr (ledger.unused number beyond)

/-- What only a task can do is done by the task of a delivery that was handed out,
and is about that delivery. -/
theorem Reaches.concernsOnly
    (reached : Reaches options world shutdown state history)
    (member : occurrence ∈ history) (ofTask : occurrence.event.isOfTask = true) :
    ∃ number delivery,
      occurrence.task = some number ∧ (handedOut history)[number]? = some delivery ∧
        occurrence.event.ConcernsOnly options.route delivery := by
  obtain ⟨time, task, event⟩ := occurrence
  cases task with
  | none =>
      rw [reached.untasked member rfl] at ofTask
      cases ofTask
  | some number =>
      have own := mem_eventsOf.mpr ⟨time, member⟩
      rcases reached.course_or_nothing number with
        ⟨delivery, stage, handed, course⟩ | nothing
      · exact ⟨number, delivery, rfl, handed, course.concernsOnly own⟩
      · rw [nothing] at own
        cases own

/-- Only the loop receives. -/
theorem Reaches.ofLoop (reached : Reaches options world shutdown state history)
    (move : Move options world state next events) (member : occurrence ∈ events)
    (receive : isReceive occurrence.event = true) :
    OfLoop options state next occurrence.event := by
  cases move with
  | trigger =>
      obtain ⟨_, _, inside⟩ := mem_occurrences.mp member
      rw [List.mem_singleton.mp inside] at receive
      cases receive
  | loop move => exact move.ofLoop (mem_occurrences.mp member).2.2
  | @task task after more _ found stepped =>
      obtain ⟨joined, run⟩ := reached.joins
      have course :=
        (run.ledger.onCourse task (List.mem_append_right _ found)).course
      have inside := List.mem_append_right (eventsOf task.number history)
        (mem_occurrences.mp member).2.2
      rw [isReceive_of_course (course.step stepped) inside] at receive
      cases receive
  | cut | advance => cases member

end AtLeastOnce.Receiver
