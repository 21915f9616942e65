import AtLeastOnce.Time.Duration

/-!
# Exponential backoff

The delay before a retry grows by a factor for every failure in a row, is capped,
and is then spread by a random amount within a share of itself.
-/

namespace AtLeastOnce

structure Backoff where
  /-- Failures in a row after which no further attempt is made. -/
  maxAttempts : Nat
  initial : Duration
  cap : Duration
  multiplier : Double
  jitter : Bool
  /-- The spread as a share of the delay. -/
  jitterShare : Double
  deriving DecidableEq, Repr

namespace Backoff

/-- `0.25` -/
def quarter : Double := .finite false (Double.unitsPerOne / 4)

/-- `2` -/
def two : Double := .finite false (2 * Double.unitsPerOne)

/-- A policy whose delays are spread by a quarter. -/
def of (maxAttempts : Nat) (initial cap : Duration) (multiplier : Double) : Backoff :=
  { maxAttempts, initial, cap, multiplier, jitter := true, jitterShare := quarter }

/-- Eight attempts, from one second up to thirty, doubling. -/
def standard : Backoff := of 8 (.ofSeconds 1) (.ofSeconds 30) two

def withoutJitter (policy : Backoff) : Backoff := { policy with jitter := false }

/-- Sets the spread, moved into `[0, 1]`. -/
def withJitterShare (policy : Backoff) (share : Double) : Backoff :=
  { policy with jitterShare := share.clamp .zero .one }

/-- Whether another attempt may follow `failures` failures in a row. -/
def allowsRetry (policy : Backoff) (failures : Nat) : Bool := failures < policy.maxAttempts

/-- The largest exponent that the growth uses. -/
def greatestExponent : Nat := 2147483647

/-- The capped delay in seconds, before it is spread. -/
def cappedSeconds (policy : Backoff) (attempt : Nat) : Double :=
  let growth := policy.multiplier.power (Min.min attempt greatestExponent)
  (policy.initial.toDouble.mul growth).min policy.cap.toDouble

/-- A sampler picks the spread for a range `r` out of `[-r, r]`. -/
abbrev Sampler := Double → Double

/-- The samplers that stay within the range they are given, as long as that is not
empty. -/
def Sampler.Fair (sampler : Sampler) : Prop :=
  ∀ range : Double, range.isFinite → Double.zero.le range →
    range.neg.le (sampler range) ∧ (sampler range).le range

/-- The delay with its spread.  A range of zero or less leaves the delay alone;
there is no sample from a range that is no finite number. -/
def spread? (sampler : Sampler) (delay share : Double) : Option Double :=
  let range := delay.mul share
  if range.le .zero then some delay
  else if (range.add range).isFinite then some (delay.add (sampler range))
  else none

/-- The delay in seconds before retry number `attempt`, counted from zero. -/
def seconds? (policy : Backoff) (sampler : Sampler) (attempt : Nat) : Option Double :=
  let capped := policy.cappedSeconds attempt
  if policy.jitter then spread? sampler capped policy.jitterShare else some capped

/-- The delay before retry number `attempt`; none when no sample can be drawn
or the delay does not fit a duration. -/
def delay? (policy : Backoff) (sampler : Sampler) (attempt : Nat) : Option Duration :=
  (policy.seconds? sampler attempt).bind fun seconds =>
    Duration.ofDouble? (seconds.max .zero)

end Backoff

end AtLeastOnce
