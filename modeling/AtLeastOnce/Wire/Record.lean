import AtLeastOnce.Log.Entry
import AtLeastOnce.Number.Decimal
import AtLeastOnce.Wire.Call
import AtLeastOnce.Wire.Response

/-!
# What responses carry

The members of a response with success, read as far as they matter.  A member
that is missing or null has no value; one of another kind than expected makes
the response unreadable.
-/

namespace AtLeastOnce.Wire

/-- A kind of member: its value, where null is none, or nothing when the JSON is
of another kind. -/
abbrev Kind (α : Type) := Json → Option (Option α)

namespace Kind

def text : Kind String
  | .null => some none
  | .string value => some (some value)
  | _ => none

/-- Null items are dropped. -/
def list (kind : Kind α) : Kind (List α)
  | .null => some none
  | .array items => (items.mapM kind).map fun values => some (values.filterMap id)
  | _ => none

/-- Members without a value are dropped. -/
def table (kind : Kind α) : Kind (List (String × α))
  | .null => some none
  | .object members =>
      (members.mapM fun member => (kind member.2).map fun value? => (member.1, value?)).map
        fun entries => some (entries.filterMap fun (name, value?) =>
          value?.map fun value => (name, value))
  | _ => none

/-- An object, read by its members. -/
def record (decode : Members → Option α) : Kind α
  | .null => some none
  | .object members => (decode members).map some
  | _ => none

end Kind

/-- The value of the last member with a name, when all of them are of a kind. -/
def field (kind : Kind α) (name : String) (members : Members) : Option (Option α) :=
  members.foldl (fun found member =>
    if member.1 = name then found.bind fun _ => kind member.2 else found) (some none)

/-- Whether the members with some names hold texts. -/
def areTexts (names : List String) (members : Members) : Bool :=
  names.all fun name => (field .text name members).isSome

/-- The value of the last member with a name in a table. -/
def valueOf? (name : String) (table : Option (List (String × α))) : Option α :=
  table.bind fun entries => entries.reverse.lookup name

/-- A received message as the service describes it: anything may be missing. -/
structure Record where
  id : Option String
  handle : Option String
  body : Option String
  receiveCount : Option String
  group : Option String
  deriving DecidableEq, Repr

namespace Record

/-- The attributes that a caller has given to a message, each an object. -/
def customAttributes : Kind (List (String × Unit)) := .table (.record fun _ => some ())

def ofMembers? (members : Members) : Option Record :=
  if areTexts ["MD5OfBody", "MD5OfMessageAttributes"] members then do
    let id ← field .text "MessageId" members
    let handle ← field .text "ReceiptHandle" members
    let body ← field .text "Body" members
    let attributes ← field (.table .text) "Attributes" members
    let _ ← field customAttributes "MessageAttributes" members
    return {
      id
      handle
      body
      receiveCount := valueOf? Call.receiveCountName attributes
      group := valueOf? Call.groupName attributes }
  else none

/-- The id of a message that has none. -/
def unknownId : String := "unknown"

/-- A count of deliveries. -/
def count? (text : String) : Option Nat :=
  Decimal.readBounded? Decimal.greatestNat32 text.toList

/-- The delivery of a message.  Without a handle it could never be deleted, and
there is none. -/
def delivery? (record : Record) : Option Delivery :=
  record.handle.map fun token =>
    { id := record.id.getD unknownId
      body := record.body.getD ""
      handle := ⟨token⟩
      receiveCount := (record.receiveCount.bind count?).getD 1
      group := record.group }

/-- What is logged about a message that has no handle. -/
def missing? (queueUrl : String) (record : Record) : Option LogEntry :=
  match record.handle with
  | some _ => none
  | none => some (.handleMissing queueUrl (record.id.getD unknownId))

end Record

namespace Response

/-- The id of a message that has been published. -/
def sent (response : Response) : Except CallFault String :=
  let checked := ["MD5OfMessageBody", "MD5OfMessageAttributes", "MD5OfMessageSystemAttributes",
    "SequenceNumber"]
  let id := response.read fun members =>
    if areTexts checked members then field .text "MessageId" members else none
  match id with
  | .ok (some id) => .ok id
  | .ok none => .error (.response "response carried no message id")
  | .error fault => .error fault

/-- The messages that have been received. -/
def received (response : Response) : Except CallFault (List Record) :=
  response.read fun members =>
    (field (.list (.record Record.ofMembers?)) "Messages" members).map fun records =>
      records.getD []

/-- A message has been deleted; the body does not matter. -/
def deleted (response : Response) : Except CallFault Unit :=
  if response.isSuccess then .ok () else .error response.rejection

/-- The name of a queue. -/
def arn (response : Response) : Except CallFault String :=
  response.read fun members =>
    (field (.table .text) "Attributes" members).map fun attributes =>
      (valueOf? Call.arnName attributes).getD "unknown"

end Response

end AtLeastOnce.Wire
