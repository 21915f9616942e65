import AtLeastOnce.Receiver.Schedule

/-!
# The schedule keeps to the machine

Whatever the schedule picks is a step of the machine, so a run on the virtual
clock is one of the runs that the invariants are about.
-/

namespace AtLeastOnce.Receiver

variable {options : ReceiverOptions} {world : World} {shutdown : Shutdown}

theorem advance?_eq_some {before after : Run}
    (advanced : advance? options world before = some after) :
    ∃ action events,
      step? options world before.state action = some (after.state, events) ∧
        after.history = before.history ++ events := by
  obtain ⟨action, _, taken⟩ := Option.bind_eq_some_iff.mp advanced
  obtain ⟨⟨state, events⟩, stepped, rfl⟩ := Option.map_eq_some_iff.mp taken
  exact ⟨action, events, stepped, rfl⟩

theorem runUpTo_reaches (limit : Nat) {before : Run}
    (reached : Reaches options world shutdown before.state before.history) :
    Reaches options world shutdown (runUpTo options world limit before).state
      (runUpTo options world limit before).history := by
  induction limit generalizing before with
  | zero => exact reached
  | succ limit induction =>
      unfold runUpTo
      cases advanced : advance? options world before with
      | none => exact reached
      | some after =>
          obtain ⟨action, events, stepped, history⟩ := advance?_eq_some advanced
          have next := Reaches.step reached stepped
          rw [← history] at next
          exact induction next

/-- A scheduled run is a run of the machine. -/
theorem run_reaches (options : ReceiverOptions) (world : World)
    (triggerAt : Option Nat)
    (limit : Nat) :
    Reaches options world ⟨triggerAt = some 0⟩
      (run options world triggerAt limit).state
      (run options world triggerAt limit).history :=
  runUpTo_reaches limit .start

/-- A world in which the first receive brings some deliveries and no other ever
ends, and every queue call succeeds at once. -/
def World.once (deliveries : List Delivery) (ending : Nat → ProcessorEnd) : World :=
  { peers :=
      { process := fun number _ => ⟨some 0, ⟨[], ending number⟩⟩
        send := fun _ _ _ => ⟨some 0, .answered "copy"⟩
        delete := fun _ _ _ => ⟨some 0, .answered ()⟩ }
    receive := fun number _ =>
      ⟨if number = 0 then some 0 else none, .answered deliveries⟩
    sampler := fun _ range => range }

def letterOptions : ReceiverOptions :=
  (ReceiverOptions.standard "letters").withDeadLetterQueue "dead"

/-- Two deliveries: the processor accepts the first and panics on the second. -/
def twoLetters : World :=
  .once [⟨"1", "first", ⟨"a"⟩, 1, none⟩, ⟨"2", "second", ⟨"b"⟩, 1, none⟩]
    fun number => if number = 0 then .returns .success else .panics none

end AtLeastOnce.Receiver
