import AtLeastOnce.Receiver.Machine
import AtLeastOnce.Wire.Exchange

/-!
# The service around a receiver

How every call of one run goes on the way, and the world that a receiver then
runs in.
-/

namespace AtLeastOnce.Wire

structure Service where
  probe : String → Timed Transfer
  /-- The receive with a number. -/
  receive : Nat → ReceiveRequest → Timed Transfer
  /-- The publication of the task with a number. -/
  send : Nat → String → Publication → Timed Transfer
  delete : Nat → String → ReceiptHandle → Timed Transfer

namespace Service

/-- A service that no call comes through to. -/
def unreachable (fault : CallFault) : Service :=
  let lost : Timed Transfer := ⟨some 0, .lost fault⟩
  { probe := fun _ => lost
    receive := fun _ _ => lost
    send := fun _ _ _ => lost
    delete := fun _ _ _ => lost }

/-- The world of a receiver that makes its calls to a service. -/
def world (service : Service) (limit : Option Nat)
    (process : Nat → Delivery → Timed Processing) (sampler : Nat → Backoff.Sampler) :
    Receiver.World :=
  { peers :=
      { process
        send := fun task queueUrl publication =>
          callEnd (Wire.send limit queueUrl publication (service.send task queueUrl publication))
        delete := fun task queueUrl handle =>
          callEnd (Wire.delete limit queueUrl handle (service.delete task queueUrl handle)) }
    receive := fun number request =>
      callEnd (Wire.receive limit request (service.receive number request))
    sampler }

/-- The log of a run, with what the receives themselves log.  `number` counts the
receives so far, and `request` is that of the last one. -/
def log (service : Service) (limit : Option Nat) (number : Nat) (request : ReceiveRequest) :
    List Event → List LogEntry
  | [] => []
  | .receiveCalled next :: rest => service.log limit (number + 1) next rest
  | .receiveEnded _ :: rest =>
      (Wire.receive limit request (service.receive (number - 1) request)).result.notes ++
        service.log limit number request rest
  | .logged entry :: rest => entry :: service.log limit number request rest
  | _ :: rest => service.log limit number request rest

end Service

end AtLeastOnce.Wire
