import AtLeastOnce.Http.Schedule
import AtLeastOnce.Program.Startup

/-!
# The listener as a process

It takes a port, answers requests about its health, and stops when a signal
arrives.
-/

namespace AtLeastOnce.Program.Listener

/-- The address that is listened on. -/
def address (settings : Settings) : String := "0.0.0.0:" ++ toString settings.http.port

/-- The failure to take a port. -/
def bindFailure (settings : Settings) (reason : String) : Failure :=
  .server ("failed to bind " ++ address settings ++ ": " ++ reason)

/-- The log and the result of serving until a signal arrives; no answer means that
it never ends. -/
def serve? (settings : Settings) (bound : Except String String) (arrival? : Option Arrival) :
    Option (List LogEntry × Except Failure Unit) :=
  match bound with
  | .error reason => some ([], .error (bindFailure settings reason))
  | .ok localAddress =>
      let options : Http.Server.Options :=
        { router := Http.healthRoutes
          timeout := settings.requestTimeout
          grace := settings.gracePeriod
          address := localAddress }
      arrival?.bind fun arrival =>
        let started := (Http.Server.start options .idle).log
        let state := (Http.Server.run options .idle (some arrival.time) []).state
        match state.phase with
        | .stopped result =>
            some (started ++ .signalReceived arrival.signal.name ::
              state.log.drop started.length, result)
        | _ => none

/-- Runs the listener.  `listen` tells the address of a port that is taken, or why it
cannot be. -/
def run? (surroundings : Surroundings) (listen : Nat → Except String String)
    (arrival? : Option Arrival) : Option Ending :=
  match usableSettings .listener surroundings with
  | .error failure => some (refusal .listener failure)
  | .ok settings =>
      (serve? settings (listen settings.http.port) arrival?).map fun (log, result) =>
        match result with
        | .ok _ => conclusion surroundings settings 0 (log ++ [.serverExited])
        | .error failure =>
            conclusion surroundings settings failure.exitCode
              (log ++ [.serverFailed failure.message])

end AtLeastOnce.Program.Listener
