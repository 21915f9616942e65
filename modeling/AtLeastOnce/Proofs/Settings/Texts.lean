import AtLeastOnce.Proofs.Settings.Fields
import AtLeastOnce.Settings.Load

/-!
# Texts from the environment

A variable is read as a truth value or a number if it can be, also where a text is
wanted; the field then shows that value again.  So a text comes through as it is
only if it is not taken for something else, or is written the way it is shown.
-/

namespace AtLeastOnce.Settings

open Config

inductive TextSetting where
  | queueUrl
  | deadLetterUrl
  | region
  | endpointUrl
  | accessKeyId
  | secretAccessKey
  | logLevel
  deriving DecidableEq, Repr

namespace TextSetting

def variableName : TextSetting → String
  | .queueUrl => "SQS_CONSUMER__QUEUE__URL"
  | .deadLetterUrl => "SQS_CONSUMER__QUEUE__DEAD_LETTER_URL"
  | .region => "SQS_CONSUMER__QUEUE__REGION"
  | .endpointUrl => "SQS_CONSUMER__QUEUE__ENDPOINT_URL"
  | .accessKeyId => "SQS_CONSUMER__QUEUE__ACCESS_KEY_ID"
  | .secretAccessKey => "SQS_CONSUMER__QUEUE__SECRET_ACCESS_KEY"
  | .logLevel => "SQS_CONSUMER__LOG__LEVEL"

def spot : TextSetting → Spot
  | .queueUrl => ⟨"queue", "url"⟩
  | .deadLetterUrl => ⟨"queue", "dead_letter_url"⟩
  | .region => ⟨"queue", "region"⟩
  | .endpointUrl => ⟨"queue", "endpoint_url"⟩
  | .accessKeyId => ⟨"queue", "access_key_id"⟩
  | .secretAccessKey => ⟨"queue", "secret_access_key"⟩
  | .logLevel => ⟨"log", "level"⟩

def value? (settings : Settings) : TextSetting → Option String
  | .queueUrl => some settings.queue.url
  | .deadLetterUrl => settings.queue.deadLetterUrl
  | .region => settings.queue.region
  | .endpointUrl => settings.queue.endpointUrl
  | .accessKeyId => settings.queue.accessKeyId
  | .secretAccessKey => settings.queue.secretAccessKey
  | .logLevel => some settings.log.level

end TextSetting

/-- A text in small letters that is a truth value. -/
def IsTruth (word : String) : Prop := word = "true" ∨ word = "false"

def lowered (text : String) : String := String.ofList (Text.lower text.toList)

def integer? (text : String) : Option Int :=
  Decimal.readInt? Decimal.leastInt64 Decimal.greatestInt64 text.toList

/-- What a text field shows of a variable. -/
inductive Shown (value : String) : String → Prop where
  | truth : IsTruth (lowered value) → Shown value (lowered value)
  | integer {number : Int} :
      ¬ IsTruth (lowered value) → integer? value = some number → Shown value (toString number)
  | decimal {number : Double} :
      ¬ IsTruth (lowered value) → integer? value = none →
      Double.read? value.toList = some number →
      Shown value (number.text Double.plainLayout)
  | text :
      ¬ IsTruth (lowered value) → integer? value = none → Double.read? value.toList = none →
      Shown value value

/-- A scalar from the environment is never null, so a text field can show it. -/
theorem exists_shown (value : String) :
    ∃ shown, Field.scalarText? (Environment.scalar value) = some shown ∧ Shown value shown := by
  by_cases truth : IsTruth (lowered value)
  · refine ⟨lowered value, ?_, .truth truth⟩
    rcases truth with yes | no
    · simp only [lowered] at yes
      simp [Environment.scalar, Field.scalarText?, lowered, yes]
    · simp only [lowered] at no
      simp [Environment.scalar, Field.scalarText?, lowered, no]
  · have notYes : String.ofList (Text.lower value.toList) ≠ "true" := fun yes => truth (.inl yes)
    have notNo : String.ofList (Text.lower value.toList) ≠ "false" := fun no => truth (.inr no)
    simp only [Environment.scalar, notYes, notNo, if_false]
    cases whole : integer? value with
    | some number =>
      have read := whole
      rw [integer?] at read
      exact ⟨toString number, by simp [read, Field.scalarText?], .integer truth whole⟩
    | none =>
      have read := whole
      rw [integer?] at read
      cases double : Double.read? value.toList with
      | some number =>
        exact ⟨_, by simp [read, Field.scalarText?], .decimal truth whole double⟩
      | none => exact ⟨value, by simp [read, Field.scalarText?], .text truth whole double⟩

section LeadingZeros

theorem head?_toDigits_ne_zero {number : Nat} (positive : 0 < number) :
    (Nat.toDigits 10 number).head? ≠ some '0' := by
  induction number using Nat.strongRecOn with
  | ind number ih =>
    by_cases small : number < 10
    · rw [Nat.toDigits_of_lt_base small]
      match number, small with
      | 1, _ | 2, _ | 3, _ | 4, _ | 5, _ | 6, _ | 7, _ | 8, _ | 9, _ => decide
    · have parts : Nat.toDigits 10 (number / 10) ++ Nat.toDigits 10 (number % 10) =
          Nat.toDigits 10 (10 * (number / 10) + number % 10) :=
        Nat.toDigits_append_toDigits (by decide) (by omega) (by omega)
      rw [Nat.div_add_mod] at parts
      have front := ih (number / 10) (by omega) (by omega)
      rw [← parts]
      cases first : Nat.toDigits 10 (number / 10) with
      | nil => exact absurd first Nat.toDigits_ne_nil
      | cons digit digits => simpa [first] using front

variable {digits : List Char}

theorem integer?_leading_zero (run : ∀ digit ∈ digits, digit.isDigit = true)
    (fits : Decimal.ofDigits digits ≤ Decimal.greatestInt64) :
    integer? (String.ofList ('0' :: digits)) = some (Decimal.ofDigits digits : Int) := by
  have denoted : Decimal.ofDigits ('0' :: digits) = Decimal.ofDigits digits := rfl
  have isRun : ('0' :: digits).all Char.isDigit = true := by
    simpa using run
  have least : Decimal.leastInt64 ≤ (Decimal.ofDigits digits : Int) := by
    simp only [Decimal.leastInt64]
    omega
  simp [integer?, Decimal.readInt?, Decimal.readNat?, isRun, denoted, least, fits]

/-- No numeral with a zero in front comes through as it is. -/
theorem Shown.ne_of_leading_zero {shown : String} (run : ∀ digit ∈ digits, digit.isDigit = true)
    (nonempty : digits ≠ []) (fits : Decimal.ofDigits digits ≤ Decimal.greatestInt64)
    (shows : Shown (String.ofList ('0' :: digits)) shown) :
    shown ≠ String.ofList ('0' :: digits) := by
  have whole := integer?_leading_zero run fits
  intro same
  have characters := congrArg String.toList same
  rw [String.toList_ofList] at characters
  cases shows with
  | truth isTruth =>
    rcases isTruth with yes | no
    · rw [yes] at characters
      cases characters
    · rw [no] at characters
      cases characters
  | integer _ read =>
    rw [whole] at read
    cases read
    have written : (toString (Decimal.ofDigits digits : Int)).toList =
        Nat.toDigits 10 (Decimal.ofDigits digits) := by
      change (Nat.repr (Decimal.ofDigits digits)).toList = _
      simp
    rw [written] at characters
    rcases Nat.eq_zero_or_pos (Decimal.ofDigits digits) with zero | positive
    · rw [zero] at characters
      cases characters
      exact nonempty rfl
    · apply head?_toDigits_ne_zero positive
      rw [characters]
      rfl
  | decimal _ none =>
    rw [whole] at none
    cases none
  | text _ none =>
    rw [whole] at none
    cases none

end LeadingZeros

section Reading

variable {key shown : String} {origin : Option String} {value : Scalar}

theorem asText_of_shows (shows : Field.scalarText? value = some shown) :
    Field.asText ⟨key, .leaf origin value⟩ = .ok shown := by
  simp [Field.asText, shows]

theorem asOptionalText_of_shows (shows : Field.scalarText? value = some shown) :
    Field.asOptionalText ⟨key, .leaf origin value⟩ = .ok (some shown) := by
  have text : Field.asText ⟨key, .leaf origin value⟩ = .ok shown := asText_of_shows shows
  cases value with
  | null => cases shows
  | _ => simp [Field.asOptionalText, text, Except.map]

/-- A scalar that a configuration holds in the place of a text is shown in it. -/
theorem TextSetting.value?_of_at? {setting : TextSetting} {entries : Entries} {settings : Settings}
    (held : entries.at? setting.spot = some (.leaf origin value))
    (shows : Field.scalarText? value = some shown)
    (read : Settings.ofEntries entries = .ok settings) :
    setting.value? settings = some shown := by
  have reads := (ofEntries_eq_ok_iff.mp read).2
  cases setting with
  | queueUrl =>
    have decoded := (reads .url).decode_of_at? held
    exact congrArg some (Except.ok.inj (decoded.symm.trans (asText_of_shows shows)))
  | logLevel =>
    have decoded := (reads .level).decode_of_at? held
    exact congrArg some (Except.ok.inj (decoded.symm.trans (asText_of_shows shows)))
  | deadLetterUrl =>
    have decoded := (reads .deadLetterUrl).decode_of_at? held
    exact Except.ok.inj (decoded.symm.trans (asOptionalText_of_shows shows))
  | region =>
    have decoded := (reads .region).decode_of_at? held
    exact Except.ok.inj (decoded.symm.trans (asOptionalText_of_shows shows))
  | endpointUrl =>
    have decoded := (reads .endpointUrl).decode_of_at? held
    exact Except.ok.inj (decoded.symm.trans (asOptionalText_of_shows shows))
  | accessKeyId =>
    have decoded := (reads .accessKeyId).decode_of_at? held
    exact Except.ok.inj (decoded.symm.trans (asOptionalText_of_shows shows))
  | secretAccessKey =>
    have decoded := (reads .secretAccessKey).decode_of_at? held
    exact Except.ok.inj (decoded.symm.trans (asOptionalText_of_shows shows))

end Reading

/-- A variable is set to a text, and no other one leads to the same place. -/
structure SetTo (environment : Environment.Variables) (setting : TextSetting) (value : String) :
    Prop where
  set : (setting.variableName, value) ∈ environment
  others : ∀ other ∈ environment,
    other = (setting.variableName, value) ∨ NameApart setting.spot other.1

theorem TextSetting.key?_variableName (setting : TextSetting) :
    ∃ key, Environment.key? setting.variableName = some key ∧
      Path.ofKey key = setting.spot.path := by
  cases setting <;> exact ⟨_, rfl, by decide⟩

/-- The environment lies above all files. -/
theorem load_eq_ok {files : Files} {environment : Environment.Variables} {settings : Settings}
    (loaded : Settings.load files environment = .ok settings) :
    ∃ below, Settings.ofEntries (layer below (Environment.entries environment)) =
      .ok settings := by
  unfold Settings.load at loaded
  split at loaded
  next => cases loaded
  next all gathered =>
    simp only [sources, bind_eq_ok] at gathered
    obtain ⟨base, -, named, -, built⟩ := gathered
    cases built
    refine ⟨layer (layer [] base) named, ?_⟩
    split at loaded
    next => cases loaded
    next read =>
      cases loaded
      exact read

section Alone

theorem sources_alone (setting : TextSetting) (value : String) {key : String}
    (named : Environment.key? setting.variableName = some key) :
    sources [] [(setting.variableName, value)] =
      .ok [[], [], [(key, .leaf (some Environment.origin) (Environment.scalar value))]] := by
  have unnamed : namedFile [] [(setting.variableName, value)] = .ok [] := by
    cases setting <;> rfl
  have standard : Files.allow [] standardFile = .ok [] := rfl
  have made : Environment.entries [(setting.variableName, value)] =
      [(key, .leaf (some Environment.origin) (Environment.scalar value))] := by
    simp [Environment.entries, Environment.entry?, named, Entries.put, Entries.change]
  simp only [sources, standard, unnamed, made]
  rfl

theorem layers_alone {key : String} {spot : Spot} (path : Path.ofKey key = spot.path)
    (origin : Option String) (value : Scalar) :
    layers [[], [], [(key, .leaf origin value)]] =
      [(spot.root, .table none [(spot.field, .leaf origin value)])] := by
  simp [layers, layer, layEntry, path, Spot.path, Entries.changePath, Entries.change, changeAt,
    overlay, Tree.tableOrigin?, Tree.entries, Tree.unset]

theorem ofEntries_alone (setting : TextSetting) (origin : Option String) {value : Scalar}
    {shown : String} (shows : Field.scalarText? value = some shown) :
    ∃ settings, Settings.ofEntries
      [(setting.spot.root, .table none [(setting.spot.field, .leaf origin value)])] =
        .ok settings := by
  cases setting <;>
    simp [TextSetting.spot, Settings.ofEntries, Section.ofEntries, readQueue, readLog,
      readShutdown, readRetry, readHttp, Section.read, Section.field?, bind, Except.bind,
      List.lookup_cons, asText_of_shows shows, asOptionalText_of_shows shows, pure, Except.pure]

/-- A text alone never keeps the settings from loading. -/
theorem exists_load_alone (setting : TextSetting) (value : String) :
    ∃ settings, Settings.load [] [(setting.variableName, value)] = .ok settings := by
  obtain ⟨key, named, path⟩ := setting.key?_variableName
  obtain ⟨shown, shows, -⟩ := exists_shown value
  obtain ⟨settings, read⟩ := ofEntries_alone setting (some Environment.origin) shows
  refine ⟨settings, ?_⟩
  rw [Settings.load, sources_alone setting value named]
  simp only [layers_alone path, read]

end Alone

/-- Whatever the files hold, a text setting is what a text field shows of the
variable that is set for it. -/
theorem SetTo.holds_shown {environment : Environment.Variables} {setting : TextSetting}
    {value : String} (set : SetTo environment setting value) {files : Files} {settings : Settings}
    (loaded : Settings.load files environment = .ok settings) :
    ∃ shown, setting.value? settings = some shown ∧ Shown value shown := by
  obtain ⟨key, named, path⟩ := setting.key?_variableName
  obtain ⟨below, read⟩ := load_eq_ok loaded
  obtain ⟨shown, shows, isShown⟩ := exists_shown value
  have held := (gives_entries named path set.set set.others).at?_layer below
  exact ⟨shown, TextSetting.value?_of_at? held shows read, isShown⟩

theorem holds_shown_alone :
    ∃ settings, Settings.load [] [(TextSetting.accessKeyId.variableName, "012345678901")] =
        .ok settings ∧
      ∃ shown, TextSetting.accessKeyId.value? settings = some shown ∧
        Shown "012345678901" shown := by
  obtain ⟨settings, loaded⟩ := exists_load_alone .accessKeyId "012345678901"
  have set : SetTo [(TextSetting.accessKeyId.variableName, "012345678901")] .accessKeyId
      "012345678901" := by
    refine ⟨List.mem_cons_self, ?_⟩
    intro other member
    exact .inl (List.mem_singleton.mp member)
  exact ⟨settings, loaded, set.holds_shown loaded⟩

/-- An account number with a zero in front loses it on its way. -/
theorem accessKeyId_loses_zero :
    ∃ settings, Settings.load [] [("SQS_CONSUMER__QUEUE__ACCESS_KEY_ID", "012345678901")] =
        .ok settings ∧
      TextSetting.accessKeyId.value? settings ≠ some "012345678901" :=
  ⟨_, rfl, by decide⟩

end AtLeastOnce.Settings
