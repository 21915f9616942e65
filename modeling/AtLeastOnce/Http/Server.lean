import AtLeastOnce.Http.Router
import AtLeastOnce.Log.Entry

/-!
# The listener

A server accepts requests until the shutdown is triggered and then waits for the
open ones, for a grace period at most.  The requests are taken by a task of its own,
which ends with the last answer after the trigger, or by a fault.  The clock stands
still as long as anything is due.
-/

namespace AtLeastOnce.Http

/-- A request that is being answered. -/
structure Exchange where
  number : Nat
  /-- When the answer is there. -/
  endsAt : Option Nat
  response : Response
  deriving DecidableEq, Repr

/-- A response that was sent. -/
structure Reply where
  time : Nat
  number : Nat
  response : Response
  deriving DecidableEq, Repr

/-- What ends the task that takes the requests before its time. -/
inductive Fault where
  /-- Connections cannot be accepted any more. -/
  | failed (error : String)
  /-- The task panics or is cancelled. -/
  | broken (reason : String)
  deriving DecidableEq, Repr

def Fault.failure : Fault → Failure
  | .failed error => .server error
  | .broken reason => .server ("server task failed: " ++ reason)

namespace Server

inductive Phase where
  | serving
  /-- No longer listening; the open requests have until the deadline. -/
  | closing (deadline : Nat)
  | stopped (result : Except Failure Unit)

structure State where
  now : Nat
  shutdown : Shutdown
  phase : Phase
  fault : Option Fault
  /-- Requests accepted so far. -/
  accepted : Nat
  opened : List Exchange
  replies : List Reply
  log : List LogEntry

structure Options where
  router : Router
  timeout : Duration
  grace : Duration
  address : String
  /-- The router as it turns out for the request with a number.  Its handlers need not
  answer every request alike, nor as soon. -/
  routerFor : Nat → Router := fun _ => router

def start (options : Options) (shutdown : Shutdown) : State :=
  { now := 0
    shutdown
    phase := .serving
    fault := none
    accepted := 0
    opened := []
    replies := []
    log := [.listenerStarted options.address] }

/-- What the server is called when it does not stop. -/
def label : String := "http server"

/-- The error of a server whose requests outlast the grace period. -/
def graceError (options : Options) : ShutdownError := .timeout label options.grace

/-- How the task has ended that takes the requests, if it has. -/
def taskEnd? (state : State) : Option (Except Failure Unit) :=
  match state.fault with
  | some fault => some (.error fault.failure)
  | none =>
      if state.shutdown.triggered && state.opened.isEmpty then some (.ok ()) else none

/-- The server stops listening. -/
def close (options : Options) (state : State) : State :=
  { state with
    phase := .closing (state.now + options.grace.timerMilliseconds)
    log := state.log ++
      [.listenerClosed options.address options.grace.wholeMilliseconds] }

/-- The server stops with the result of its task, which it has waited for. -/
def conclude (options : Options) (state : State) (result : Except Failure Unit) : State :=
  let farewell : List LogEntry :=
    match result with
    | .ok _ => [.serverStopped options.address]
    | .error _ => []
  { state with phase := .stopped result, log := state.log ++ farewell }

/-- The server stops although its task has not ended. -/
def force (options : Options) (state : State) : State :=
  let error := graceError options
  { state with
    phase := .stopped (.error (.shutdown error))
    log := state.log ++ [.serverForced options.address error.message] }

/-- One step of the server itself, unless it has to wait.  Where its task has ended and
the shutdown is triggered, either may be noticed first. -/
def loopStep? (options : Options) (taskFirst : Bool) (state : State) : Option State :=
  match state.phase with
  | .serving =>
      match taskEnd? state with
      | some result =>
          if taskFirst || !state.shutdown.triggered then
            some { state with phase := .stopped result }
          else some (close options state)
      | none => if state.shutdown.triggered then some (close options state) else none
  | .closing deadline =>
      match taskEnd? state with
      | some result => some (conclude options state result)
      | none => if deadline ≤ state.now then some (force options state) else none
  | .stopped _ => none

/-- Whether requests are still accepted. -/
def isListening (state : State) : Bool :=
  match state.phase with
  | .serving => !state.shutdown.triggered && state.fault.isNone
  | _ => false

def isStopped (state : State) : Bool :=
  match state.phase with
  | .stopped _ => true
  | _ => false

inductive Action where
  /-- A request comes in. -/
  | accept (request : Request)
  /-- The request with a number is answered. -/
  | reply (number : Nat)
  | trigger
  /-- The server moves; `taskFirst` settles a tie between the end of its task and the
  trigger. -/
  | loop (taskFirst : Bool)
  | fail (fault : Fault)
  | advance (time : Nat)

/-- Accepts a request. -/
def accept (options : Options) (state : State) (request : Request) : State :=
  let own := (options.routerFor state.accepted).answer state.shutdown request
  let answer := withTimeout options.timeout own
  { state with
    accepted := state.accepted + 1
    opened := state.opened ++
      [⟨state.accepted, answer.endFrom state.now, answer.result⟩] }

/-- Sends the response of an exchange. -/
def sendReply (state : State) (exchange : Exchange) : State :=
  { state with
    opened := state.opened.filter fun other => other.number ≠ exchange.number
    replies := state.replies ++ [⟨state.now, exchange.number, exchange.response⟩] }

/-- The moments that the server waits for. -/
def moments (state : State) : List (Option Nat) :=
  let deadline :=
    match state.phase with
    | .closing deadline => some deadline
    | _ => none
  deadline :: state.opened.map fun exchange => exchange.endsAt

/-- Whether the clock may go on to a moment: nothing is due before it. -/
def mayAdvance (options : Options) (state : State) (time : Nat) : Bool :=
  state.now < time && !isStopped state && (loopStep? options false state).isNone &&
    (moments state).all fun moment =>
      match moment with
      | some moment => time ≤ moment
      | none => true

/-- One step of the machine. -/
def step? (options : Options) (state : State) : Action → Option State
  | .accept request => if isListening state then some (accept options state request) else none
  | .reply number =>
      if isStopped state then none
      else
        (state.opened.find? fun exchange =>
            exchange.number = number && isDue state.now exchange.endsAt).map
          (sendReply state)
  | .trigger => some { state with shutdown := state.shutdown.trigger.1 }
  | .loop taskFirst => loopStep? options taskFirst state
  | .fail fault =>
      if isStopped state || (taskEnd? state).isSome then none
      else some { state with fault := some fault }
  | .advance time => if mayAdvance options state time then some { state with now := time } else none

/-- A step and the moment at which it is taken. -/
structure Deed where
  time : Nat
  action : Action

/-- The states that are reached by steps, each with what has been done until then. -/
inductive Runs (options : Options) (shutdown : Shutdown) : State → List Deed → Prop where
  | start : Runs options shutdown (start options shutdown) []
  | step {state next : State} {deeds : List Deed} {action : Action} :
      Runs options shutdown state deeds → step? options state action = some next →
      Runs options shutdown next (deeds ++ [⟨state.now, action⟩])

end Server

end AtLeastOnce.Http
