import AtLeastOnce.Event
import AtLeastOnce.Http.Message
import AtLeastOnce.Number.Decimal
import AtLeastOnce.Shutdown
import AtLeastOnce.Text.Percent

/-!
# Routing

Routes answer requests by path and method, among them the two that tell whether
the process lives and whether it is ready.  Whatever takes too long is answered in
place of the handler.
-/

namespace AtLeastOnce.Http

/-- One part of a path, fixed or free. -/
inductive Segment where
  | literal (text : String)
  | parameter
  deriving DecidableEq, Repr

/-- A handler sees the shutdown flag and the free parts of the path. -/
abbrev Handler := Shutdown → List (List Char) → Timed Response

structure Route where
  segments : List Segment
  handler : Handler

abbrev Router := List Route

/-- The parts of a path between slashes, after the first slash. -/
def pathParts : List Char → List (List Char)
  | '/' :: path => path.splitOn '/'
  | _ => []

/-- The free parts of a path that has the form of some segments.  A free part is
not empty. -/
def matchParts? : List Segment → List (List Char) → Option (List (List Char))
  | [], [] => some []
  | .literal text :: segments, part :: parts =>
      if text.toList = part then matchParts? segments parts else none
  | .parameter :: segments, part :: parts =>
      if part = [] then none else (matchParts? segments parts).map (part :: ·)
  | _, _ => none

/-- The handler of the first route with the form of a path, and the free parts. -/
def Router.find? (router : Router) (path : List Char) : Option (Handler × List (List Char)) :=
  router.findSome? fun route =>
    (matchParts? route.segments (pathParts path)).map fun parameters =>
      (route.handler, parameters)

/-- A result that is there at once. -/
def immediately (result : α) : Timed α := ⟨some 0, result⟩

/-- Answers a request.  Besides `GET`, every route knows `HEAD`, which is answered
without the body. -/
def Router.answer (router : Router) (shutdown : Shutdown) (request : Request) :
    Timed Response :=
  match router.find? ((targetPath? request.target).getD []) with
  | none => immediately .notFound
  | some (handler, parameters) =>
      if request.method = "GET" then handler shutdown parameters
      else if request.method = "HEAD" then
        let answer := handler shutdown parameters
        { answer with result := answer.result.withoutBody }
      else immediately .methodNotAllowed

/-- Whether something begun now has ended before so many milliseconds are over. -/
def endsBefore (limit : Nat) (delay : Option Nat) : Bool :=
  match delay with
  | some delay => delay < limit
  | none => false

/-- Answers that a request has timed out unless its own answer comes earlier. -/
def withTimeout (timeout : Duration) (answer : Timed Response) : Timed Response :=
  let limit := timeout.timerMilliseconds
  if endsBefore limit answer.delay then answer else ⟨some limit, .timedOut⟩

/-- Answers as long as the process lives. -/
def liveness : Handler := fun _ _ => immediately (.text 200 "ok")

/-- Tells those who send requests to stop as soon as the shutdown has begun. -/
def readiness : Handler := fun shutdown _ =>
  immediately (if shutdown.triggered then .text 503 "draining" else .text 200 "ready")

def healthRoutes : Router :=
  [⟨[.literal "healthz"], liveness⟩, ⟨[.literal "readyz"], readiness⟩]

/-- A free part of a path as a 64-bit natural, or the answer that refuses it. -/
def naturalParameter (name : String) (part : List Char) : Except Response Nat :=
  match Text.unescaped? part with
  | none => .error (.text 400 ("Invalid URL: Invalid UTF-8 in `" ++ name ++ "`"))
  | some text =>
      match Decimal.readBounded? Decimal.greatestNat64 text with
      | some value => .ok value
      | none =>
          .error (.text 400
            ("Invalid URL: Cannot parse `" ++ String.ofList text ++ "` to a `u64`"))

end AtLeastOnce.Http
