import AtLeastOnce.Proofs.Config.Layering
import AtLeastOnce.Proofs.Success
import AtLeastOnce.Settings

/-!
# Settings one by one

Every setting has a place of its own in a configuration, a type, a way to be read and a
default.  Settings can be made of a configuration if and only if no section is a scalar and
every single setting can be read, and then each is what is read for it.
-/

namespace AtLeastOnce

open Config

inductive Setting where
  | url
  | deadLetterUrl
  | region
  | endpointUrl
  | accessKeyId
  | secretAccessKey
  | maxMessages
  | waitSeconds
  | maxInFlight
  | graceSeconds
  | maxAttempts
  | initialMilliseconds
  | maxMilliseconds
  | multiplier
  | port
  | timeoutSeconds
  | level
  | json
  deriving DecidableEq, Repr

namespace Setting

def spot : Setting → Spot
  | .url => ⟨"queue", "url"⟩
  | .deadLetterUrl => ⟨"queue", "dead_letter_url"⟩
  | .region => ⟨"queue", "region"⟩
  | .endpointUrl => ⟨"queue", "endpoint_url"⟩
  | .accessKeyId => ⟨"queue", "access_key_id"⟩
  | .secretAccessKey => ⟨"queue", "secret_access_key"⟩
  | .maxMessages => ⟨"queue", "max_messages"⟩
  | .waitSeconds => ⟨"queue", "wait_time_seconds"⟩
  | .maxInFlight => ⟨"queue", "max_in_flight"⟩
  | .graceSeconds => ⟨"shutdown", "grace_period_secs"⟩
  | .maxAttempts => ⟨"retry", "max_attempts"⟩
  | .initialMilliseconds => ⟨"retry", "initial_delay_ms"⟩
  | .maxMilliseconds => ⟨"retry", "max_delay_ms"⟩
  | .multiplier => ⟨"retry", "multiplier"⟩
  | .port => ⟨"http", "port"⟩
  | .timeoutSeconds => ⟨"http", "request_timeout_secs"⟩
  | .level => ⟨"log", "level"⟩
  | .json => ⟨"log", "json"⟩

/-- The position in a section that is a list. -/
def position : Setting → Nat
  | .url | .graceSeconds | .maxAttempts | .port | .level => 0
  | .deadLetterUrl | .initialMilliseconds | .timeoutSeconds | .json => 1
  | .region | .maxMilliseconds => 2
  | .endpointUrl | .multiplier => 3
  | .accessKeyId => 4
  | .secretAccessKey => 5
  | .maxMessages => 6
  | .waitSeconds => 7
  | .maxInFlight => 8

/-- The type of the values. -/
abbrev Value : Setting → Type
  | .url | .level => String
  | .deadLetterUrl | .region | .endpointUrl | .accessKeyId | .secretAccessKey => Option String
  | .maxMessages | .waitSeconds => Int
  | .multiplier => Double
  | .json => Bool
  | _ => Nat

def decode : (setting : Setting) → Field → Except Misfit setting.Value
  | .url | .level => Field.asText
  | .deadLetterUrl | .region | .endpointUrl | .accessKeyId | .secretAccessKey =>
      Field.asOptionalText
  | .maxMessages | .waitSeconds => Field.asInt32
  | .maxInFlight | .graceSeconds | .initialMilliseconds | .maxMilliseconds
  | .timeoutSeconds => Field.asNat64
  | .maxAttempts => Field.asNat32
  | .port => Field.asNat16
  | .multiplier => Field.asDouble
  | .json => Field.asBool

def of (settings : Settings) : (setting : Setting) → setting.Value
  | .url => settings.queue.url
  | .deadLetterUrl => settings.queue.deadLetterUrl
  | .region => settings.queue.region
  | .endpointUrl => settings.queue.endpointUrl
  | .accessKeyId => settings.queue.accessKeyId
  | .secretAccessKey => settings.queue.secretAccessKey
  | .maxMessages => settings.queue.maxMessages
  | .waitSeconds => settings.queue.waitSeconds
  | .maxInFlight => settings.queue.maxInFlight
  | .graceSeconds => settings.shutdown.graceSeconds
  | .maxAttempts => settings.retry.maxAttempts
  | .initialMilliseconds => settings.retry.initialMilliseconds
  | .maxMilliseconds => settings.retry.maxMilliseconds
  | .multiplier => settings.retry.multiplier
  | .port => settings.http.port
  | .timeoutSeconds => settings.http.timeoutSeconds
  | .level => settings.log.level
  | .json => settings.log.json

def default (setting : Setting) : setting.Value := setting.of .standard

/-- The settings that hold some values. -/
def build (value : (setting : Setting) → setting.Value) : Settings :=
  { queue :=
      { url := value .url
        deadLetterUrl := value .deadLetterUrl
        region := value .region
        endpointUrl := value .endpointUrl
        accessKeyId := value .accessKeyId
        secretAccessKey := value .secretAccessKey
        maxMessages := value .maxMessages
        waitSeconds := value .waitSeconds
        maxInFlight := value .maxInFlight }
    shutdown := ⟨value .graceSeconds⟩
    retry :=
      { maxAttempts := value .maxAttempts
        initialMilliseconds := value .initialMilliseconds
        maxMilliseconds := value .maxMilliseconds
        multiplier := value .multiplier }
    http := ⟨value .port, value .timeoutSeconds⟩
    log := ⟨value .level, value .json⟩ }

/-- The field that a configuration has for a setting. -/
def field? (setting : Setting) (entries : Entries) : Option Field :=
  (entries.lookup setting.spot.root).bind fun content =>
    Section.field? ⟨setting.spot.root, content⟩ setting.position setting.spot.field

/-- A value is read from a configuration, or the default is left. -/
def Reads (setting : Setting) (entries : Entries) (value : setting.Value) : Prop :=
  match setting.field? entries with
  | none => value = setting.default
  | some field => setting.decode field = .ok value

theorem field?_of_at? {setting : Setting} {entries : Entries} {tree : Tree}
    (held : entries.at? setting.spot = some tree) :
    setting.field? entries = some ⟨setting.spot.root ++ "." ++ setting.spot.field, tree⟩ := by
  obtain ⟨content, found, inside⟩ := Option.bind_eq_some_iff.mp held
  rw [field?, found, Option.bind_some]
  cases content with
  | leaf | list => cases inside
  | table origin fields =>
      have lookup : fields.lookup setting.spot.field = some tree := inside
      simp [Section.field?, lookup]

theorem Reads.decode_of_at? {setting : Setting} {entries : Entries} {value : setting.Value}
    (reads : setting.Reads entries value) {tree : Tree}
    (held : entries.at? setting.spot = some tree) :
    setting.decode ⟨setting.spot.root ++ "." ++ setting.spot.field, tree⟩ = .ok value := by
  rw [Reads, field?_of_at? held] at reads
  exact reads

end Setting

/-- No section is a scalar. -/
def Config.Entries.Sectioned (entries : Entries) : Prop :=
  ∀ setting : Setting, ∀ origin value,
    entries.lookup setting.spot.root ≠ some (.leaf origin value)

namespace Settings

variable {entries : Entries} {part : Section} {α : Type}

/-- The section with a name; one that is absent has no fields. -/
def sectionOf (root : String) (entries : Entries) : Section :=
  ⟨root, (entries.lookup root).getD (.table none [])⟩

theorem readSection_eq_ok {root struct : String} {read : Section → Except Misfit α} {result : α} :
    (Section.ofEntries root struct entries).bind read = .ok result ↔
      (∀ origin value, entries.lookup root ≠ some (.leaf origin value)) ∧
        read (sectionOf root entries) = .ok result := by
  unfold Section.ofEntries sectionOf
  cases found : entries.lookup root with
  | none => simp [Except.bind]
  | some tree =>
      cases tree with
      | leaf => simp [Except.bind]
      | list | table => simp [Except.bind]

/-- What reading the section of a setting comes to for the setting. -/
theorem read_eq_ok (setting : Setting) {value : setting.Value} :
    (sectionOf setting.spot.root entries).read setting.position setting.spot.field
        setting.decode setting.default = .ok value ↔
      setting.Reads entries value := by
  unfold Section.read sectionOf Setting.Reads Setting.field?
  cases entries.lookup setting.spot.root with
  | none => simp [Section.field?, eq_comm]
  | some tree =>
      rw [Option.getD_some, Option.bind_some]
      cases Section.field? ⟨setting.spot.root, tree⟩ setting.position setting.spot.field with
      | none => simp [eq_comm]
      | some field => rfl

theorem readQueue_eq_ok {queue : QueueSettings} :
    readQueue (sectionOf "queue" entries) = .ok queue ↔
      Setting.url.Reads entries queue.url ∧
        Setting.deadLetterUrl.Reads entries queue.deadLetterUrl ∧
        Setting.region.Reads entries queue.region ∧
        Setting.endpointUrl.Reads entries queue.endpointUrl ∧
        Setting.accessKeyId.Reads entries queue.accessKeyId ∧
        Setting.secretAccessKey.Reads entries queue.secretAccessKey ∧
        Setting.maxMessages.Reads entries queue.maxMessages ∧
        Setting.waitSeconds.Reads entries queue.waitSeconds ∧
        Setting.maxInFlight.Reads entries queue.maxInFlight := by
  simp only [readQueue, bind_eq_ok, ← read_eq_ok]
  constructor
  · rintro ⟨url, hasUrl, deadLetterUrl, hasDeadLetterUrl, region, hasRegion, endpointUrl,
      hasEndpointUrl, accessKeyId, hasAccessKeyId, secretAccessKey, hasSecret, maxMessages,
      hasMaxMessages, waitSeconds, hasWait, maxInFlight, hasMaxInFlight, built⟩
    cases built
    exact ⟨hasUrl, hasDeadLetterUrl, hasRegion, hasEndpointUrl, hasAccessKeyId, hasSecret,
      hasMaxMessages, hasWait, hasMaxInFlight⟩
  · rintro ⟨url, deadLetterUrl, region, endpointUrl, accessKeyId, secretAccessKey, maxMessages,
      waitSeconds, maxInFlight⟩
    exact ⟨_, url, _, deadLetterUrl, _, region, _, endpointUrl, _, accessKeyId, _,
      secretAccessKey, _, maxMessages, _, waitSeconds, _, maxInFlight, rfl⟩

theorem readShutdown_eq_ok {shutdown : ShutdownSettings} :
    readShutdown (sectionOf "shutdown" entries) = .ok shutdown ↔
      Setting.graceSeconds.Reads entries shutdown.graceSeconds := by
  simp only [readShutdown, bind_eq_ok, ← read_eq_ok]
  constructor
  · rintro ⟨graceSeconds, hasGrace, built⟩
    cases built
    exact hasGrace
  · intro graceSeconds
    exact ⟨_, graceSeconds, rfl⟩

theorem readRetry_eq_ok {retry : RetrySettings} :
    readRetry (sectionOf "retry" entries) = .ok retry ↔
      Setting.maxAttempts.Reads entries retry.maxAttempts ∧
        Setting.initialMilliseconds.Reads entries retry.initialMilliseconds ∧
        Setting.maxMilliseconds.Reads entries retry.maxMilliseconds ∧
        Setting.multiplier.Reads entries retry.multiplier := by
  simp only [readRetry, bind_eq_ok, ← read_eq_ok]
  constructor
  · rintro ⟨maxAttempts, hasAttempts, initial, hasInitial, most, hasMost, multiplier,
      hasMultiplier, built⟩
    cases built
    exact ⟨hasAttempts, hasInitial, hasMost, hasMultiplier⟩
  · rintro ⟨maxAttempts, initial, most, multiplier⟩
    exact ⟨_, maxAttempts, _, initial, _, most, _, multiplier, rfl⟩

theorem readHttp_eq_ok {http : HttpSettings} :
    readHttp (sectionOf "http" entries) = .ok http ↔
      Setting.port.Reads entries http.port ∧
        Setting.timeoutSeconds.Reads entries http.timeoutSeconds := by
  simp only [readHttp, bind_eq_ok, ← read_eq_ok]
  constructor
  · rintro ⟨port, hasPort, timeoutSeconds, hasTimeout, built⟩
    cases built
    exact ⟨hasPort, hasTimeout⟩
  · rintro ⟨port, timeoutSeconds⟩
    exact ⟨_, port, _, timeoutSeconds, rfl⟩

theorem readLog_eq_ok {log : LogSettings} :
    readLog (sectionOf "log" entries) = .ok log ↔
      Setting.level.Reads entries log.level ∧ Setting.json.Reads entries log.json := by
  simp only [readLog, bind_eq_ok, ← read_eq_ok]
  constructor
  · rintro ⟨level, hasLevel, json, hasJson, built⟩
    cases built
    exact ⟨hasLevel, hasJson⟩
  · rintro ⟨level, json⟩
    exact ⟨_, level, _, json, rfl⟩

/-- Settings can be made if and only if no section is a scalar and each of them can be
read. -/
theorem ofEntries_eq_ok_iff {settings : Settings} :
    Settings.ofEntries entries = .ok settings ↔
      entries.Sectioned ∧ ∀ setting : Setting, setting.Reads entries (setting.of settings) := by
  simp only [Settings.ofEntries, bind_eq_ok, readSection_eq_ok, readQueue_eq_ok,
    readShutdown_eq_ok, readRetry_eq_ok, readHttp_eq_ok, readLog_eq_ok]
  constructor
  · rintro ⟨queue, ⟨queueKept, url, deadLetterUrl, region, endpointUrl, accessKeyId,
      secretAccessKey, maxMessages, waitSeconds, maxInFlight⟩, shutdown,
      ⟨shutdownKept, graceSeconds⟩, retry, ⟨retryKept, maxAttempts, initial, most, multiplier⟩,
      http, ⟨httpKept, port, timeoutSeconds⟩, log, ⟨logKept, level, json⟩, built⟩
    cases built
    constructor
    · intro setting
      cases setting <;> assumption
    · intro setting
      cases setting <;> assumption
  · rintro ⟨sectioned, reads⟩
    exact ⟨_, ⟨sectioned .url, reads .url, reads .deadLetterUrl, reads .region,
        reads .endpointUrl, reads .accessKeyId, reads .secretAccessKey, reads .maxMessages,
        reads .waitSeconds, reads .maxInFlight⟩,
      _, ⟨sectioned .graceSeconds, reads .graceSeconds⟩,
      _, ⟨sectioned .maxAttempts, reads .maxAttempts, reads .initialMilliseconds,
        reads .maxMilliseconds, reads .multiplier⟩,
      _, ⟨sectioned .port, reads .port, reads .timeoutSeconds⟩,
      _, ⟨sectioned .level, reads .level, reads .json⟩, rfl⟩

end Settings

end AtLeastOnce
