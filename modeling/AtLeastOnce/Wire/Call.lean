import AtLeastOnce.Json
import AtLeastOnce.Queue.CallError
import AtLeastOnce.Queue.Delivery
import AtLeastOnce.Queue.Request

/-!
# Calls on the wire

The calls that are made of the queue service, each with the JSON object that it
is sent as.
-/

namespace AtLeastOnce.Wire

inductive Call where
  | send (queueUrl : String) (publication : Publication)
  | receive (request : ReceiveRequest)
  | delete (queueUrl : String) (handle : ReceiptHandle)
  /-- Asks for the name under which the service knows the queue. -/
  | attributes (queueUrl : String)
  deriving DecidableEq, Repr

namespace Call

def operation : Call → QueueOperation
  | .send _ _ => .send
  | .receive _ => .receive
  | .delete _ _ => .delete
  | .attributes _ => .attributes

def queueUrl : Call → String
  | .send queueUrl _ => queueUrl
  | .receive request => request.queueUrl
  | .delete queueUrl _ => queueUrl
  | .attributes queueUrl => queueUrl

/-- The attribute that counts the deliveries of a message. -/
def receiveCountName : String := "ApproximateReceiveCount"

/-- The attribute that names the group of a message. -/
def groupName : String := "MessageGroupId"

/-- The attribute that names a queue. -/
def arnName : String := "QueueArn"

/-- A member that is left out when it has no value. -/
def optionalMember (name : String) (value : Option String) : List (String × Json) :=
  match value with
  | some text => [(name, .string text)]
  | none => []

/-- What is asked for, besides the queue. -/
def arguments : Call → List (String × Json)
  | .send _ publication =>
      ("MessageBody", .string publication.body) ::
        (optionalMember "MessageGroupId" publication.group ++
          optionalMember "MessageDeduplicationId" publication.deduplication)
  | .receive request =>
      [("MaxNumberOfMessages", .natural request.maxMessages),
        ("WaitTimeSeconds", .natural request.waitSeconds),
        ("MessageSystemAttributeNames",
          .array [.string receiveCountName, .string groupName])]
  | .delete _ handle => [("ReceiptHandle", .string handle.token)]
  | .attributes _ => [("AttributeNames", .array [.string arnName])]

/-- The object that the call is sent as. -/
def body (call : Call) : Json :=
  .object (("QueueUrl", .string call.queueUrl) :: call.arguments)

/-- The error of a call that ended with a fault. -/
def error (call : Call) (fault : CallFault) : CallError :=
  ⟨call.operation, call.queueUrl, fault⟩

end Call

end AtLeastOnce.Wire
