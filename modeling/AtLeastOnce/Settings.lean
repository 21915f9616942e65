import AtLeastOnce.Config.Field
import AtLeastOnce.Failure
import AtLeastOnce.Receiver.Options
import AtLeastOnce.Text.Blank

/-!
# Settings

Everything about a consumer that can be configured, with the defaults, the rules
that a worker and an HTTP listener need, and the options of a receiver that follow.
-/

namespace AtLeastOnce

open Config

structure QueueSettings where
  url : String
  deadLetterUrl : Option String
  region : Option String
  endpointUrl : Option String
  accessKeyId : Option String
  secretAccessKey : Option String
  maxMessages : Int
  waitSeconds : Int
  maxInFlight : Nat
  deriving DecidableEq, Repr

structure ShutdownSettings where
  graceSeconds : Nat
  deriving DecidableEq, Repr

structure RetrySettings where
  maxAttempts : Nat
  initialMilliseconds : Nat
  maxMilliseconds : Nat
  multiplier : Double
  deriving DecidableEq, Repr

structure HttpSettings where
  port : Nat
  timeoutSeconds : Nat
  deriving DecidableEq, Repr

structure LogSettings where
  level : String
  json : Bool
  deriving DecidableEq, Repr

structure Settings where
  queue : QueueSettings
  shutdown : ShutdownSettings
  retry : RetrySettings
  http : HttpSettings
  log : LogSettings
  deriving DecidableEq, Repr

def QueueSettings.standard : QueueSettings :=
  { url := ""
    deadLetterUrl := none
    region := none
    endpointUrl := none
    accessKeyId := none
    secretAccessKey := none
    maxMessages := 10
    waitSeconds := 20
    maxInFlight := 10 }

def ShutdownSettings.standard : ShutdownSettings := ⟨30⟩

def RetrySettings.standard : RetrySettings := ⟨8, 1000, 30000, Backoff.two⟩

def HttpSettings.standard : HttpSettings := ⟨8080, 10⟩

def LogSettings.standard : LogSettings := ⟨"info", false⟩

namespace Settings

def standard : Settings := ⟨.standard, .standard, .standard, .standard, .standard⟩

def readQueue (part : Section) : Except Misfit QueueSettings := do
  let base := QueueSettings.standard
  let url ← part.read 0 "url" Field.asText base.url
  let deadLetterUrl ← part.read 1 "dead_letter_url" Field.asOptionalText base.deadLetterUrl
  let region ← part.read 2 "region" Field.asOptionalText base.region
  let endpointUrl ← part.read 3 "endpoint_url" Field.asOptionalText base.endpointUrl
  let accessKeyId ← part.read 4 "access_key_id" Field.asOptionalText base.accessKeyId
  let secretAccessKey ←
    part.read 5 "secret_access_key" Field.asOptionalText base.secretAccessKey
  let maxMessages ← part.read 6 "max_messages" Field.asInt32 base.maxMessages
  let waitSeconds ← part.read 7 "wait_time_seconds" Field.asInt32 base.waitSeconds
  let maxInFlight ← part.read 8 "max_in_flight" Field.asNat64 base.maxInFlight
  return { url, deadLetterUrl, region, endpointUrl, accessKeyId, secretAccessKey,
           maxMessages, waitSeconds, maxInFlight }

def readShutdown (part : Section) : Except Misfit ShutdownSettings := do
  let base := ShutdownSettings.standard
  let graceSeconds ← part.read 0 "grace_period_secs" Field.asNat64 base.graceSeconds
  return { graceSeconds }

def readRetry (part : Section) : Except Misfit RetrySettings := do
  let base := RetrySettings.standard
  let maxAttempts ← part.read 0 "max_attempts" Field.asNat32 base.maxAttempts
  let initialMilliseconds ←
    part.read 1 "initial_delay_ms" Field.asNat64 base.initialMilliseconds
  let maxMilliseconds ← part.read 2 "max_delay_ms" Field.asNat64 base.maxMilliseconds
  let multiplier ← part.read 3 "multiplier" Field.asDouble base.multiplier
  return { maxAttempts, initialMilliseconds, maxMilliseconds, multiplier }

def readHttp (part : Section) : Except Misfit HttpSettings := do
  let base := HttpSettings.standard
  let port ← part.read 0 "port" Field.asNat16 base.port
  let timeoutSeconds ← part.read 1 "request_timeout_secs" Field.asNat64 base.timeoutSeconds
  return { port, timeoutSeconds }

def readLog (part : Section) : Except Misfit LogSettings := do
  let base := LogSettings.standard
  let level ← part.read 0 "level" Field.asText base.level
  let json ← part.read 1 "json" Field.asBool base.json
  return { level, json }

/-- The settings that a configuration holds.  What it leaves out keeps its default,
and what is no setting is passed over. -/
def ofEntries (entries : Entries) : Except Misfit Settings := do
  let queue ← (Section.ofEntries "queue" "QueueSettings" entries).bind readQueue
  let shutdown ← (Section.ofEntries "shutdown" "ShutdownSettings" entries).bind readShutdown
  let retry ← (Section.ofEntries "retry" "RetrySettings" entries).bind readRetry
  let http ← (Section.ofEntries "http" "HttpSettings" entries).bind readHttp
  let log ← (Section.ofEntries "log" "LogSettings" entries).bind readLog
  return { queue, shutdown, retry, http, log }

end Settings

/-- A rule that settings do not keep. -/
inductive InvalidSettings where
  | noRequestTimeout
  | noQueueUrl
  | nothingInFlight
  | negativeWait
  | credentialsIncomplete
  | credentialsWithoutRegion
  | deadLetterLoop
  deriving DecidableEq, Repr

def InvalidSettings.message : InvalidSettings → String
  | .noRequestTimeout => "http.request_timeout_secs must be at least 1"
  | .noQueueUrl => "queue.url must be set"
  | .nothingInFlight => "queue.max_in_flight must be at least 1"
  | .negativeWait => "queue.wait_time_seconds must not be negative"
  | .credentialsIncomplete =>
      "queue.access_key_id and queue.secret_access_key must be set together"
  | .credentialsWithoutRegion => "queue.region is required with static credentials"
  | .deadLetterLoop => "queue.dead_letter_url must differ from queue.url"

namespace Settings

/-- Credentials, if both halves are configured. -/
def credentials? (settings : Settings) : Option (String × String) :=
  match settings.queue.accessKeyId, settings.queue.secretAccessKey with
  | some accessKeyId, some secretAccessKey => some (accessKeyId, secretAccessKey)
  | _, _ => none

/-- The rule that an HTTP listener needs and that is not kept. -/
def invalidForHttp? (settings : Settings) : Option InvalidSettings :=
  if settings.http.timeoutSeconds = 0 then some .noRequestTimeout else none

/-- The first rule about credentials that is not kept. -/
def invalidCredentials? (queue : QueueSettings) : Option InvalidSettings :=
  if queue.accessKeyId.isSome ≠ queue.secretAccessKey.isSome then some .credentialsIncomplete
  else if queue.accessKeyId.isSome && queue.region.isNone then some .credentialsWithoutRegion
  else none

/-- The first rule about the queue that is not kept. -/
def invalidQueue? (queue : QueueSettings) : Option InvalidSettings :=
  if Text.allBlank queue.url then some .noQueueUrl
  else if queue.maxInFlight = 0 then some .nothingInFlight
  else if queue.waitSeconds < 0 then some .negativeWait
  else
    match invalidCredentials? queue with
    | some invalid => some invalid
    | none => if queue.deadLetterUrl = some queue.url then some .deadLetterLoop else none

/-- The first rule that a worker needs and that is not kept. -/
def invalidForWorker? (settings : Settings) : Option InvalidSettings :=
  match settings.invalidForHttp? with
  | some invalid => some invalid
  | none => invalidQueue? settings.queue

/-- The failure that a broken rule leads to. -/
def check (invalid? : Option InvalidSettings) : Except Failure Unit :=
  match invalid? with
  | some invalid => .error (.configuration invalid.message)
  | none => .ok ()

def gracePeriod (settings : Settings) : Duration := .ofSeconds settings.shutdown.graceSeconds

def requestTimeout (settings : Settings) : Duration := .ofSeconds settings.http.timeoutSeconds

def backoff (settings : Settings) : Backoff :=
  .of settings.retry.maxAttempts (.ofMilliseconds settings.retry.initialMilliseconds)
    (.ofMilliseconds settings.retry.maxMilliseconds) settings.retry.multiplier

def receiverOptions (settings : Settings) : ReceiverOptions :=
  let options := (ReceiverOptions.standard settings.queue.url)
    |>.withBatch settings.queue.maxMessages settings.queue.waitSeconds
    |>.withMaxInFlight settings.queue.maxInFlight
    |>.withGracePeriod settings.gracePeriod
    |>.withBackoff settings.backoff
  match settings.queue.deadLetterUrl with
  | some url => options.withDeadLetterQueue url
  | none => options

end Settings

end AtLeastOnce
