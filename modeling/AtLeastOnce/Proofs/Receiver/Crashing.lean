import AtLeastOnce.Proofs.Backoff
import AtLeastOnce.Proofs.Receiver.Schedule
import AtLeastOnce.Proofs.Receiver.Transition
import AtLeastOnce.Settings
import Mathlib.Algebra.Group.Int.Defs

/-!
# What makes a run panic

A receiver panics when it is to have more permits than a semaphore holds, when there is
no delay to be drawn after a failed receive, or inside a receive.  Settings always have
a delay, but nothing in their rules bounds the permits.
-/

namespace AtLeastOnce.Receiver

/-- What a receiver can panic on. -/
inductive Fragile (options : ReceiverOptions) (world : World) : Prop where
  | permits (beyond : permitLimit < options.capacity)
  | delay {number attempt : Nat}
      (undrawn : options.backoff.delay? (world.sampler number) attempt = none)
  | receive {number : Nat} {request : ReceiveRequest} {text : String}
      (panicked : (world.receive number request).result = .panicked text)

section

variable {options : ReceiverOptions} {world : World} {shutdown : Shutdown}
  {state next : State} {history : List Occurrence} {made : List Event}

theorem LoopMove.fragile (move : LoopMove options world state (next, made))
    (crashed : next.phase = .crashed) : Fragile options world := by
  generalize same : (next, made) = result at move
  cases move with
  | refuse _ beyond => exact .permits beyond
  | unsampled _ _ _ _ _ undrawn => exact .delay undrawn
  | breakOff _ _ _ panicked => exact .receive panicked
  | begin | goOn | ask | call | retry | resume | abandon =>
      cases same
      cases crashed
  | leaveHead | leave | giveUp =>
      cases same
      rw [beginDrain_fst] at crashed
      cases crashed
  | answer =>
      cases same
      rw [onDeliveries_fst] at crashed
      dsimp only at crashed
      split at crashed <;> cases crashed
  | join ending =>
      cases same
      rw [show state.phase = .crashed from crashed] at ending
      cases ending
  | finish =>
      cases same
      rw [finish_fst] at crashed
      cases crashed

theorem Reaches.fragile (reached : Reaches options world shutdown state history)
    (crashed : state.phase = .crashed) : Fragile options world := by
  induction reached with
  | start => cases crashed
  | step _ stepped induction =>
      cases step?_cases stepped with
      | trigger | task | cut | advance => exact induction crashed
      | loop move => exact move.fragile crashed

/-- With more permits than there can be the very first step of the loop panics. -/
theorem reaches_crashed (world : World) (shutdown : Shutdown)
    (beyond : permitLimit < options.capacity) :
    Reaches options world shutdown { start shutdown with phase := .crashed } [] := by
  have stepped : step? options world (start shutdown) (.loop false) =
      some ({ start shutdown with phase := .crashed }, []) := by
    simp [step?, loopStep?, start, beyond, occurrences]
  exact .step .start stepped

end

end AtLeastOnce.Receiver

namespace AtLeastOnce

open Receiver

/-- Settings that pass the rules of a worker, each number within its type. -/
structure Settings.Accepted (settings : Settings) : Prop where
  valid : settings.invalidForWorker? = none
  maxMessages : -2 ^ 31 ≤ settings.queue.maxMessages ∧ settings.queue.maxMessages < 2 ^ 31
  waitSeconds : -2 ^ 31 ≤ settings.queue.waitSeconds ∧ settings.queue.waitSeconds < 2 ^ 31
  maxInFlight : settings.queue.maxInFlight < 2 ^ 64
  graceSeconds : settings.shutdown.graceSeconds < 2 ^ 64
  maxAttempts : settings.retry.maxAttempts < 2 ^ 32
  initialMilliseconds : settings.retry.initialMilliseconds < 2 ^ 64
  maxMilliseconds : settings.retry.maxMilliseconds < 2 ^ 64
  port : settings.http.port < 2 ^ 16
  timeoutSeconds : settings.http.timeoutSeconds < 2 ^ 64

namespace Settings

variable {settings : Settings}

theorem receiverOptions_backoff : settings.receiverOptions.backoff = settings.backoff := by
  unfold receiverOptions
  cases settings.queue.deadLetterUrl with
  | none | some => rfl

theorem receiverOptions_capacity :
    settings.receiverOptions.capacity = Max.max 1 settings.queue.maxInFlight := by
  unfold receiverOptions
  cases settings.queue.deadLetterUrl with
  | none | some => exact Nat.max_eq_right (Nat.le_max_left 1 _)

/-- Whatever the delays and the multiplier of accepted settings, there is a delay after
every failure. -/
theorem Accepted.delay?_isSome (accepted : settings.Accepted) {sampler : Backoff.Sampler}
    (fair : sampler.Fair) (attempt : Nat) :
    (settings.backoff.delay? sampler attempt).isSome = true := by
  have short : settings.backoff.cap.seconds ≤ 2 ^ 55 := by
    have few := accepted.maxMilliseconds
    show settings.retry.maxMilliseconds * 1000000 / 1000000000 ≤ 2 ^ 55
    omega
  have quarter : 0 < Double.unitsPerOne / 4 := by decide +kernel
  exact Backoff.delay?_isSome fair rfl quarter (Nat.div_le_self _ _) short attempt

/-- A receiver with accepted settings panics if and only if it is to have more permits
than a semaphore holds: the rules let through a number of messages in flight that is
too large. -/
theorem Accepted.crashes_iff (accepted : settings.Accepted) {world : World}
    (fair : ∀ number, (world.sampler number).Fair)
    (unbroken : ∀ number request text, (world.receive number request).result ≠ .panicked text)
    (shutdown : Shutdown) :
    (∃ state history,
      Reaches settings.receiverOptions world shutdown state history ∧
        state.phase = .crashed) ↔
      permitLimit < settings.queue.maxInFlight := by
  have capacity : permitLimit < settings.receiverOptions.capacity ↔
      permitLimit < settings.queue.maxInFlight := by
    rw [receiverOptions_capacity]
    simp only [permitLimit]
    omega
  constructor
  · rintro ⟨state, history, reached, crashed⟩
    cases reached.fragile crashed with
    | permits beyond => exact capacity.mp beyond
    | @delay number attempt undrawn =>
        have drawn := accepted.delay?_isSome (fair number) attempt
        rw [← receiverOptions_backoff, undrawn] at drawn
        cases drawn
    | receive panicked => exact absurd panicked (unbroken _ _ _)
  · intro beyond
    exact ⟨_, _, reaches_crashed world shutdown (capacity.mpr beyond), rfl⟩

/-- One message more in flight than there are permits. -/
def tooMany : Settings :=
  { standard with
    queue := { QueueSettings.standard with url := "orders", maxInFlight := permitLimit + 1 } }

theorem tooMany_accepted : tooMany.Accepted := by
  constructor <;> decide

theorem crashes_iff_tooMany :
    tooMany.Accepted ∧
      ((∃ state history,
        Reaches tooMany.receiverOptions (World.once [] fun _ => .panics none) .idle state
            history ∧
          state.phase = .crashed) ↔
        permitLimit < tooMany.queue.maxInFlight) :=
  ⟨tooMany_accepted,
    Accepted.crashes_iff tooMany_accepted (fun _ => Backoff.Sampler.fair_id)
      (by simp [World.once]) .idle⟩

/-- The rules accept these settings, every receive succeeds, and the run panics. -/
theorem accepted_may_crash :
    tooMany.invalidForWorker? = none ∧
      (run tooMany.receiverOptions (World.once [] fun _ => .panics none) (some 5) 10).state.phase =
        .crashed :=
  ⟨by decide, rfl⟩

end Settings

end AtLeastOnce
