import AtLeastOnce.Log.Entry
import AtLeastOnce.Number.Decimal
import AtLeastOnce.Text.Blank

/-!
# Log filters

A filter is a list of directives.  Each lets the entries of one part of the program
through up to a level, or those of all parts; for an entry the directive with the
longest fitting target counts.
-/

namespace AtLeastOnce

/-- The part of the program that an entry comes from, by the name that directives
know it under. -/
def LogEntry.target : LogEntry → String
  | .receiverStarted .. | .stateChanged .. | .noMessages .. | .receiveRecovered ..
  | .surplusReceived .. | .receiveFailed .. | .receivingGivenUp .. | .draining ..
  | .graceElapsed .. | .receiverStopped .. | .taskFailed .. => "rs_sqs_consumer::receiver"
  | .processorPanicked .. | .deadLetterPublished .. | .ackFailed .. | .messageProcessed ..
  | .leftForRedelivery .. | .deadLettered .. => "rs_sqs_consumer::receiver::handler"
  | .receiveCompleted .. | .handleMissing .. => "rs_sqs_consumer::transport"
  | .queueReachable .. | .endpointOverridden .. => "rs_sqs_consumer::client"
  | .listenerStarted .. | .listenerClosed .. | .serverStopped .. | .serverForced .. =>
      "rs_sqs_consumer::http"
  | .signalReceived .. => "rs_sqs_consumer::lifecycle"
  | .orderAccepted .. => "sqs_consumer_worker::orders"
  | .staticCredentials .. | .workerExited .. | .workerFailed .. => "sqs_consumer_worker"
  | .serverExited | .serverFailed .. => "sqs_consumer_http"

structure LogDirective where
  /-- How the target of an entry has to begin. -/
  target : List Char
  /-- The greatest rank that is let through; zero lets nothing through. -/
  rank : Nat
  /-- Only entries within a span are meant.  No entry is within one. -/
  inSpan : Bool
  deriving DecidableEq, Repr

namespace LogDirective

/-- The ranks of levels by their names. -/
def rankNames : List (String × Nat) :=
  [("off", 0), ("error", 1), ("warn", 2), ("info", 3), ("debug", 4), ("trace", 5)]

/-- The greatest rank that a text stands for. -/
def rank? (text : List Char) : Option Nat :=
  (rankNames.lookup (String.ofList (text.map Char.toLower))).or (Decimal.readBounded? 5 text)

/-- The rank after a target; without one everything is let through. -/
def rankAfter? : List Char → Option Nat
  | [] => some LogLevel.trace.rank
  | '=' :: [] => some LogLevel.trace.rank
  | '=' :: text => rank? text
  | _ => none

def isTargetStart (character : Char) : Bool :=
  character.isAlphanum || character = '-' || character = ':' || character = '_'

/-- A directive: a level, a target, or a target with a level.  Between target and
level the name of a span may stand in brackets. -/
def parse? (text : List Char) : Option LogDirective :=
  let target := text.takeWhile fun character => character ≠ '=' && character ≠ '['
  let rest := text.dropWhile fun character => character ≠ '=' && character ≠ '['
  if text = [] || !(target.take 1).all isTargetStart then none
  else
    match rest with
    | [] =>
        match rank? target with
        | some rank => some ⟨[], rank, false⟩
        | none => some ⟨target, LogLevel.trace.rank, false⟩
    | '[' :: span =>
        match span.dropWhile (· ≠ ']') with
        | [] => none
        | _ :: level => (rankAfter? level).map fun rank => ⟨target, rank, true⟩
    | level =>
        if target = [] then none
        else (rankAfter? level).map fun rank => ⟨target, rank, false⟩

/-- Whether the directive is about entries with a target. -/
def fits (directive : LogDirective) (target : String) : Bool :=
  !directive.inSpan && directive.target.isPrefixOf target.toList

end LogDirective

abbrev LogFilter := List LogDirective

namespace LogFilter

/-- The directives of a text stand between commas. -/
def pieces (text : String) : List (List Char) :=
  ((text.toList.splitOn ',').filter fun piece => piece ≠ []).map Text.trimBlanks

/-- Without any directive errors are let through. -/
def orErrors (directives : List LogDirective) : LogFilter :=
  if directives.isEmpty then [⟨[], LogLevel.error.rank, false⟩] else directives

/-- A filter all of whose directives can be read. -/
def parse? (text : String) : Option LogFilter :=
  ((pieces text).mapM LogDirective.parse?).map orErrors

/-- The filter of those directives that can be read. -/
def parseLenient (text : String) : LogFilter :=
  orErrors ((pieces text).filterMap LogDirective.parse?)

/-- The directive with the longest target; of two as long the later one. -/
def strongest? (directives : List LogDirective) : Option LogDirective :=
  directives.foldl (fun best directive =>
    match best with
    | none => some directive
    | some best =>
        if best.target.length ≤ directive.target.length then some directive else some best) none

/-- Whether an entry is let through. -/
def admits (filter : LogFilter) (entry : LogEntry) : Bool :=
  match strongest? (filter.filter fun directive => directive.fits entry.target) with
  | some directive => entry.level.rank ≤ directive.rank
  | none => false

/-- The variable that holds the filter. -/
def variableName : String := "RUST_LOG"

/-- The filter that a variable holds, if it can be read, or that of the settings. -/
def choose (stored? : Option String) (setting : String) : LogFilter :=
  (stored?.bind parse?).getD (parseLenient setting)

end LogFilter

end AtLeastOnce
