import AtLeastOnce.Proofs.Config.Files
import AtLeastOnce.Proofs.Config.Variables
import AtLeastOnce.Proofs.Settings.Conversion

/-!
# Which source a setting is read from

A setting follows the last variable that is spelled for it, or else the file that the
environment names, or else the standard file, or else it has its default.  What lies
below the source that it follows changes nothing.
-/

namespace AtLeastOnce

open Config

namespace Setting

variable {setting : Setting} {value : setting.Value} {entries : Entries}

/-- A value follows from what a configuration holds of a setting: it is the default if
that is nothing, and what a scalar is taken for; nothing else is taken. -/
def Told (setting : Setting) (value : setting.Value) : Option (Option Scalar) → Prop
  | none => value = setting.default
  | some none => False
  | some (some scalar) => setting.Takes scalar value

theorem reads_iff_told (table : entries.TableAt setting.spot.root) :
    setting.Reads entries value ↔ setting.Told value (entries.held? setting.spot) := by
  have converts := setting.converts
  unfold Reads field? Entries.held? Entries.at?
  cases found : entries.lookup setting.spot.root with
  | none => rfl
  | some content =>
      obtain ⟨origin, fields, rfl⟩ := table content found
      rw [Option.bind_some, Option.bind_some, Section.field?, Tree.entries]
      dsimp only
      cases fields.lookup setting.spot.field with
      | none => rfl
      | some tree =>
          rw [Option.map_some, Option.map_some]
          dsimp only
          cases tree with
          | leaf origin scalar => exact converts.leaf _ origin scalar value
          | list origin items =>
              exact ⟨fun read => converts.list _ origin items value read, False.elim⟩
          | table origin fields =>
              exact ⟨fun read => converts.table _ origin fields value read, False.elim⟩

/-- A setting holds a value because the topmost source that says anything of it does, or
because none does and the value is its default. -/
inductive Follows (environment : Environment.Variables) (named base : Entries)
    (setting : Setting) : setting.Value → Prop where
  | fromVariable {text : String} {scalar : Scalar} {value : setting.Value} :
      told? setting.spot environment = some text → Settings.ReadAs text scalar →
      setting.Takes scalar value → Follows environment named base setting value
  | fromNamed {scalar : Scalar} {value : setting.Value} :
      told? setting.spot environment = none →
      named.mention? setting.spot = some (some scalar) → setting.Takes scalar value →
      Follows environment named base setting value
  | fromBase {scalar : Scalar} {value : setting.Value} :
      told? setting.spot environment = none → named.mention? setting.spot = none →
      base.mention? setting.spot = some (some scalar) → setting.Takes scalar value →
      Follows environment named base setting value
  | leftOut :
      told? setting.spot environment = none → named.mention? setting.spot = none →
      base.mention? setting.spot = none →
      Follows environment named base setting setting.default

/-- The name of a setting is one that a variable can spell. -/
theorem spot_spelled (setting : Setting) :
    IsWord setting.spot.root.toList ∧ setting.spot.root.toList.getLast? ≠ some '_' ∧
      IsWord setting.spot.field.toList ∧ Path.ofKey setting.spot.key = setting.spot.path := by
  cases setting <;> decide +kernel

end Setting

namespace Settings

variable {files files' : Files} {environment environment' : Environment.Variables}
  {base named base' named' entries : Entries} {settings : Settings}

/-! ## Sources above one another -/

/-- The entries of the file that the environment names.  A file that is named has to be
there; none is named by an empty text. -/
inductive NamedFile (files : Files) (environment : Environment.Variables) : Entries → Prop where
  | unset : environment.lookup "SQS_CONSUMER_CONFIG" = none → NamedFile files environment []
  | empty : environment.lookup "SQS_CONSUMER_CONFIG" = some "" → NamedFile files environment []
  | file {name : String} {entries : Entries} :
      environment.lookup "SQS_CONSUMER_CONFIG" = some name → name ≠ "" →
      files.Supplies name entries → NamedFile files environment entries

theorem namedFile_eq_ok_iff :
    namedFile files environment = .ok entries ↔ NamedFile files environment entries := by
  unfold namedFile fileVariable
  constructor
  · intro read
    split at read
    next unset =>
      cases read
      exact .unset unset
    next name set =>
      split at read
      next empty =>
        cases read
        exact .empty (empty ▸ set)
      next nonempty => exact .file set nonempty (Files.require_eq_ok_iff.mp read)
  · intro supplied
    cases supplied with
    | unset unset => rw [unset]
    | empty set =>
        rw [set]
        rfl
    | file set nonempty supplies =>
        rw [set]
        dsimp only
        rw [if_neg nonempty]
        exact Files.require_eq_ok_iff.mpr supplies

/-- The standard file, if there is one, and the file that the environment names hold tables
where they hold sections, and the variables for configuration set single fields. -/
structure Gathered (files : Files) (environment : Environment.Variables) (base named : Entries) :
    Prop where
  isBase : files.Supplies "config/consumer" base ∨
    (∀ found, ¬ files.Chosen "config/consumer" found) ∧ base = []
  isNamed : NamedFile files environment named
  baseTables : ∀ setting : Setting, Tabular setting.spot.root base
  namedTables : ∀ setting : Setting, Tabular setting.spot.root named
  spelled : Spelled environment

/-- What the topmost source says that says anything of a place. -/
def topmost (environment : Environment.Variables) (named base : Entries) (spot : Spot) :
    Option (Option Scalar) :=
  ((told? spot environment).map fun text => some (Environment.scalar text)).or
    ((named.mention? spot).or (base.mention? spot))

theorem follows_iff_told {setting : Setting} {value : setting.Value} :
    setting.Follows environment named base value ↔
      setting.Told value (topmost environment named base setting.spot) := by
  unfold topmost
  constructor
  · intro follows
    cases follows with
    | fromVariable told reads takes =>
        rw [reads.eq_scalar] at takes
        rw [told]
        exact takes
    | fromNamed untold mentioned takes =>
        rw [untold, mentioned]
        exact takes
    | fromBase untold unmentioned mentioned takes =>
        rw [untold, unmentioned, mentioned]
        exact takes
    | leftOut untold unmentioned nowhere =>
        rw [untold, unmentioned, nowhere]
        rfl
  · intro follows
    cases told : told? setting.spot environment with
    | some text =>
        rw [told] at follows
        exact .fromVariable told (readAs_scalar text) follows
    | none =>
        rw [told] at follows
        cases mentioned : named.mention? setting.spot with
        | some scalar? =>
            rw [mentioned] at follows
            cases scalar? with
            | none => exact follows.elim
            | some scalar => exact .fromNamed told mentioned follows
        | none =>
            rw [mentioned] at follows
            cases below : base.mention? setting.spot with
            | some scalar? =>
                rw [below] at follows
                cases scalar? with
                | none => exact follows.elim
                | some scalar => exact .fromBase told mentioned below follows
            | none =>
                rw [below] at follows
                cases follows
                exact .leftOut told mentioned below

namespace Gathered

theorem sources_eq (gathered : Gathered files environment base named) :
    sources files environment = .ok [base, named, Environment.entries environment] := by
  have isBase : files.allow standardFile = .ok base :=
    Files.allow_eq_ok_iff.mpr gathered.isBase
  rw [sources, isBase, namedFile_eq_ok_iff.mpr gathered.isNamed]
  rfl

theorem fieldWise (gathered : Gathered files environment base named) (setting : Setting) :
    FieldWise setting.spot.root environment :=
  gathered.spelled.fieldWise setting.spot_spelled.1.unpointed

theorem held?_layers (gathered : Gathered files environment base named) (setting : Setting) :
    (layers [base, named, Environment.entries environment]).held? setting.spot =
      topmost environment named base setting.spot := by
  have fieldWise := gathered.fieldWise setting
  obtain ⟨root, closed, field, path⟩ := setting.spot_spelled
  change (layer (layer (layer [] base) named) (Environment.entries environment)).held? _ = _
  rw [held?_layer (tabular_entries fieldWise), held?_layer (gathered.namedTables setting),
    held?_layer (gathered.baseTables setting), mention?_entries path fieldWise,
    given?_eq_told? gathered.spelled root closed field path]
  simp [topmost, Entries.held?, Entries.at?, Function.comp_def]

theorem tableAt_layers (gathered : Gathered files environment base named) (setting : Setting) :
    (layers [base, named, Environment.entries environment]).TableAt setting.spot.root := by
  apply tableAt_layer _ (tabular_entries (gathered.fieldWise setting))
  apply tableAt_layer _ (gathered.namedTables setting)
  apply tableAt_layer _ (gathered.baseTables setting)
  intro tree found
  cases found

/-- The settings that are loaded follow the topmost sources. -/
theorem load_eq_ok_iff (gathered : Gathered files environment base named) :
    load files environment = .ok settings ↔
      ∀ setting : Setting, setting.Follows environment named base (setting.of settings) := by
  have loaded : load files environment = .ok settings ↔
      Settings.ofEntries (layers [base, named, Environment.entries environment]) =
        .ok settings := by
    rw [load, gathered.sources_eq]
    dsimp only
    split
    next misfit => simp [misfit]
    next made => simp [made]
  have sectioned : (layers [base, named, Environment.entries environment]).Sectioned := by
    intro setting origin value found
    obtain ⟨_, _, isTable⟩ := gathered.tableAt_layers setting _ found
    cases isTable
  rw [loaded, ofEntries_eq_ok_iff]
  have reads : ∀ setting : Setting,
      setting.Reads (layers [base, named, Environment.entries environment])
          (setting.of settings) ↔
        setting.Follows environment named base (setting.of settings) := by
    intro setting
    rw [Setting.reads_iff_told (gathered.tableAt_layers setting), gathered.held?_layers,
      follows_iff_told]
  exact ⟨fun made setting => (reads setting).mp (made.2 setting),
    fun follows => ⟨sectioned, fun setting => (reads setting).mpr (follows setting)⟩⟩

end Gathered

/-- Other sources agree wherever nothing above them has been said already. -/
structure AgreeAbove (environment environment' : Environment.Variables)
    (named named' base base' : Entries) : Prop where
  inVariables : ∀ setting : Setting,
    told? setting.spot environment = told? setting.spot environment'
  inNamed : ∀ setting : Setting, told? setting.spot environment = none →
    named.mention? setting.spot = named'.mention? setting.spot
  inBase : ∀ setting : Setting, told? setting.spot environment = none →
    named.mention? setting.spot = none →
    base.mention? setting.spot = base'.mention? setting.spot

theorem AgreeAbove.topmost_eq
    (agree : AgreeAbove environment environment' named named' base base') (setting : Setting) :
    topmost environment named base setting.spot =
      topmost environment' named' base' setting.spot := by
  unfold topmost
  rw [← agree.inVariables setting]
  cases told : told? setting.spot environment with
  | some => rfl
  | none =>
      rw [← agree.inNamed setting told]
      cases mentioned : named.mention? setting.spot with
      | some => rfl
      | none => rw [agree.inBase setting told mentioned]

/-- Every setting follows the topmost source that says anything of it, or is its default;
what lies below that changes nothing, not even whether there are settings. -/
theorem Gathered.load_precedence (gathered : Gathered files environment base named) :
    (∀ settings, load files environment = .ok settings ↔
      ∀ setting : Setting, setting.Follows environment named base (setting.of settings)) ∧
    ∀ files' environment' base' named', Gathered files' environment' base' named' →
      AgreeAbove environment environment' named named' base base' →
      (load files environment).toOption = (load files' environment').toOption := by
  constructor
  · intro settings
    exact gathered.load_eq_ok_iff
  · intro files' environment' base' named' gathered' agree
    apply Option.ext
    intro settings
    simp only [toOption_eq_some, gathered.load_eq_ok_iff, gathered'.load_eq_ok_iff,
      follows_iff_told, agree.topmost_eq]

section Layered

/-- Two files, the lower one with a text for a number and a wait that the upper one sets
too. -/
def layeredFiles : Files :=
  [("config/consumer.toml",
      "[queue]\nurl = \"orders\"\nmax_messages = \"many\"\nwait_time_seconds = 1"),
    ("more.toml", "[queue]\nwait_time_seconds = 5")]

/-- Variables that name the upper file and set that number. -/
def layeredVariables : Environment.Variables :=
  [("SQS_CONSUMER_CONFIG", "more.toml"), ("SQS_CONSUMER__QUEUE__MAX_MESSAGES", "7")]

def layeredSettings : Settings :=
  { queue :=
      { url := "orders"
        deadLetterUrl := none
        region := none
        endpointUrl := none
        accessKeyId := none
        secretAccessKey := none
        maxMessages := 7
        waitSeconds := 5
        maxInFlight := 10 }
    shutdown := ⟨30⟩
    retry := ⟨8, 1000, 30000, .finite false (2 * Double.unitsPerOne)⟩
    http := ⟨8080, 10⟩
    log := ⟨"info", false⟩ }

theorem tabular_of_roots {source : Entries}
    (tabular : ∀ root ∈ ["queue", "shutdown", "retry", "http", "log"], Tabular root source)
    (setting : Setting) : Tabular setting.spot.root source := by
  apply tabular
  cases setting <;> decide

theorem spelled_layered : Spelled layeredVariables := by
  intro setting member meant
  rcases List.mem_cons.mp member with rfl | member
  · exact absurd meant (by decide +kernel)
  · rw [List.mem_singleton.mp member]
    exact ⟨⟨"queue", "max_messages"⟩, by decide +kernel⟩

theorem gathered_layered :
    Gathered layeredFiles layeredVariables
      ((layeredFiles.allow standardFile).toOption.getD [])
      ((namedFile layeredFiles layeredVariables).toOption.getD []) where
  isBase := Files.allow_eq_ok_iff.mp (eq_ok_getD (by decide +kernel))
  isNamed := namedFile_eq_ok_iff.mp (eq_ok_getD (by decide +kernel))
  baseTables := tabular_of_roots (by decide +kernel)
  namedTables := tabular_of_roots (by decide +kernel)
  spelled := spelled_layered

theorem load_precedence_layered :
    ∃ base named, Gathered layeredFiles layeredVariables base named ∧
      ((∀ settings, load layeredFiles layeredVariables = .ok settings ↔
        ∀ setting : Setting,
          setting.Follows layeredVariables named base (setting.of settings)) ∧
      ∀ files' environment' base' named', Gathered files' environment' base' named' →
        AgreeAbove layeredVariables environment' named named' base base' →
        (load layeredFiles layeredVariables).toOption = (load files' environment').toOption) ∧
      load layeredFiles layeredVariables = .ok layeredSettings :=
  ⟨_, _, gathered_layered, gathered_layered.load_precedence,
    toOption_eq_some.mp (by decide +kernel)⟩

end Layered

end Settings

end AtLeastOnce
