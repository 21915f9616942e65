import AtLeastOnce.Order.Reader
import AtLeastOnce.Program.Startup
import AtLeastOnce.Receiver.Schedule
import AtLeastOnce.Wire.Client
import AtLeastOnce.Wire.Service

/-!
# The worker as a process

It makes sure that its queues can be reached, then receives orders until a signal
arrives or receiving is given up.
-/

namespace AtLeastOnce.Program.Worker

/-- What is around a worker: the service at an address, how delays are spread, and
the signal that arrives. -/
structure Outside where
  service : Wire.Address → Wire.Service
  sampler : Nat → Backoff.Sampler
  arrival? : Option Arrival

/-- The client that settings ask for, and what is logged about it. -/
def client (settings : Settings) (environment : Config.Environment.Variables) :
    Wire.Client × List LogEntry :=
  let queue := settings.queue
  let notes := Wire.Client.creationNotes queue.endpointUrl
  match settings.credentials?, queue.region with
  | some (accessKeyId, secretAccessKey), some region =>
      (.withCredentials ⟨accessKeyId, secretAccessKey⟩ region queue.endpointUrl,
        .staticCredentials region :: notes)
  | _, _ => (.fromEnvironment environment queue.region queue.endpointUrl, notes)

/-- The service that a client calls. -/
def service (outside : Outside) (client : Wire.Client) : Wire.Service :=
  match client.address with
  | .ok address => outside.service address
  | .error fault => .unreachable fault

/-- The queues that have to be reached. -/
def queues (settings : Settings) : List String :=
  settings.queue.url :: settings.queue.deadLetterUrl.toList

/-- Probes some queues up to the first that cannot be reached. -/
def probe (service : Wire.Service) : List String → List LogEntry × Except Failure Unit
  | [] => ([], .ok ())
  | queueUrl :: rest =>
      let exchange := (Wire.probe none queueUrl (service.probe queueUrl)).result
      match exchange.result with
      | .error error => (exchange.notes, .error (Wire.probeFailure error))
      | .ok _ =>
          let (notes, result) := probe service rest
          (exchange.notes ++ notes, result)

/-- The exit status of a process that panicked. -/
def panicExitCode : Nat := 101

/-- What happened in a run, with the signal as an entry of the log. -/
def events (arrival? : Option Arrival) (history : List Occurrence) : List Event :=
  history.map fun occurrence =>
    match occurrence.event, arrival? with
    | .shutdownTriggered true, some arrival => .logged (.signalReceived arrival.signal.name)
    | event, _ => event

/-- The log and the exit status of receiving for at most `limit` actions; no answer
means that it goes on. -/
def receive? (settings : Settings) (outside : Outside) (service : Wire.Service) (limit : Nat) :
    Option (List LogEntry × Nat) :=
  let options := settings.receiverOptions
  let world := service.world none (fun _ delivery => ⟨some 0, OrderEvent.process delivery⟩)
    outside.sampler
  let start : Receiver.Run :=
    ⟨Receiver.start .idle, [], outside.arrival?.map Arrival.time⟩
  let run := Receiver.runUpTo options world limit start
  let log := service.log none 0 ⟨options.queueUrl, 0, 0⟩ (events outside.arrival? run.history)
  match run.state.phase with
  | .stopped (.ok totals) => some (log ++ [.workerExited totals.processed], 0)
  | .stopped (.error failure) =>
      some (log ++ [.workerFailed failure.message], failure.exitCode)
  | .crashed => some (log, panicExitCode)
  | _ => none

/-- Runs the worker for at most `limit` actions of its receiver. -/
def run? (surroundings : Surroundings) (outside : Outside) (limit : Nat) : Option Ending :=
  match usableSettings .worker surroundings with
  | .error failure => some (refusal .worker failure)
  | .ok settings =>
      let (client, creation) := client settings surroundings.allVariables
      let service := service outside client
      match probe service (queues settings) with
      | (notes, .error failure) =>
          some (conclusion surroundings settings failure.exitCode
            (creation ++ notes ++ [.workerFailed failure.message]))
      | (notes, .ok _) =>
          (receive? settings outside service limit).map fun (log, exitCode) =>
            conclusion surroundings settings exitCode (creation ++ notes ++ log)

end AtLeastOnce.Program.Worker
