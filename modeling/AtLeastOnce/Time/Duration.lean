import AtLeastOnce.Number.Double.Text

/-!
# Durations

A duration is a whole number of nanoseconds.  Conversions from and to seconds as
a double round once to the nearest nanosecond; a timer that waits for a duration
fires at the next whole millisecond.
-/

namespace AtLeastOnce

structure Duration where
  nanoseconds : Nat
  deriving DecidableEq, Repr, Inhabited

namespace Duration

def nanosecondsPerSecond : Nat := 1000000000

def nanosecondsPerMillisecond : Nat := 1000000

def ofSeconds (seconds : Nat) : Duration := ⟨seconds * nanosecondsPerSecond⟩

def ofMilliseconds (milliseconds : Nat) : Duration :=
  ⟨milliseconds * nanosecondsPerMillisecond⟩

def ofParts (seconds nanoseconds : Nat) : Duration :=
  ⟨seconds * nanosecondsPerSecond + nanoseconds⟩

/-- The whole seconds. -/
def seconds (duration : Duration) : Nat := duration.nanoseconds / nanosecondsPerSecond

/-- The nanoseconds beyond the whole seconds. -/
def subsecond (duration : Duration) : Nat := duration.nanoseconds % nanosecondsPerSecond

/-- The whole milliseconds, as a 64-bit count. -/
def wholeMilliseconds (duration : Duration) : Nat :=
  duration.nanoseconds / nanosecondsPerMillisecond % 18446744073709551616

/-- The milliseconds that a timer set for this duration takes. -/
def timerMilliseconds (duration : Duration) : Nat :=
  (duration.nanoseconds + nanosecondsPerMillisecond - 1) / nanosecondsPerMillisecond

/-- The seconds as a double: whole seconds plus the rounded fraction. -/
def toDouble (duration : Duration) : Double :=
  (Double.ofNat duration.seconds).add
    ((Double.ofNat duration.subsecond).div (Double.ofNat nanosecondsPerSecond))

/-- The first number of seconds that no duration holds. -/
def secondsLimit : Nat := 18446744073709551616

/-- The duration nearest to a number of seconds.  There is none for a negative
number, for what is no number, and from `2 ^ 64` seconds on. -/
def ofDouble? : Double → Option Duration
  | .nan => none
  | .infinite _ => none
  | .finite negative units =>
      if negative && units ≠ 0 then none
      else if secondsLimit * Double.unitsPerOne ≤ units then none
      else some ⟨Double.nearestEven (units * nanosecondsPerSecond) Double.unitsPerOne⟩

/-- A whole part and the `width` digits of a fraction, without trailing zeros. -/
def decimalText (whole fraction width : Nat) (unit : String) : String :=
  let digits := Double.digitsOf fraction
  let padded := Double.zeros (width - digits.length) ++ digits
  let shown := (padded.reverse.dropWhile (· = '0')).reverse
  let point := if shown = [] then "" else "." ++ String.ofList shown
  toString whole ++ point ++ unit

/-- The duration in the largest unit that leaves a whole part. -/
def text (duration : Duration) : String :=
  let fraction := duration.subsecond
  if 0 < duration.seconds then decimalText duration.seconds fraction 9 "s"
  else if 1000000 ≤ fraction then decimalText (fraction / 1000000) (fraction % 1000000) 6 "ms"
  else if 1000 ≤ fraction then decimalText (fraction / 1000) (fraction % 1000) 3 "µs"
  else decimalText fraction 0 0 "ns"

end Duration

end AtLeastOnce
