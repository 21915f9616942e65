import AtLeastOnce.Json.Reader
import AtLeastOnce.Order.Event

/-!
# Reading order events

An event is an object with a member `event` that names its kind, or an array with
the name first and the fields after it.  The whole value is read before the fields
are looked at, so only faults found up to there have a position.
-/

namespace AtLeastOnce.OrderEvent

open Json

/-- The kinds of events. -/
inductive Kind where
  | created
  | paid
  | cancelled
  | refunded
  deriving DecidableEq, Repr

def Kind.ofName? : String → Option Kind
  | "created" => some .created
  | "paid" => some .paid
  | "cancelled" => some .cancelled
  | "refunded" => some .refunded
  | _ => none

/-- The kind as a title. -/
def Kind.title : Kind → String
  | .created => "Created"
  | .paid => "Paid"
  | .cancelled => "Cancelled"
  | .refunded => "Refunded"

/-- Why a body is no order event. -/
inductive Undecodable where
  | malformed (stop : Stop)
  | notAnEvent (found : Json) (place : Place)
  | kindMissing (place : Place)
  | kindRepeated (place : Place)
  | kindNotText (found : Json) (place : Place)
  | kindUnknown (name : String) (place : Place)
  | fieldMissing (field : String)
  | fieldRepeated (field : String)
  | notText (found : Json)
  | notInteger (found : Json)
  | integerOutOfRange (value : Nat)
  | tooShort (kind : Kind) (length : Nat)
  | tooLong (kind : Kind) (length : Nat)

/-- How many fields an event of a kind has. -/
def Kind.fieldCount : Kind → Nat
  | .cancelled => 2
  | _ => 3

def invalidType (found : Json) (wanted : String) : String :=
  "invalid type: " ++ found.description ++ ", expected " ++ wanted

/-- Why the text of a body is no order event, in words. -/
def Undecodable.message (text : List Char) : Undecodable → String
  | .malformed stop => stop.message text
  | .notAnEvent found place =>
      invalidType found "internally tagged enum OrderEvent" ++ (place.position text).message
  | .kindMissing place => "missing field `event`" ++ (place.position text).message
  | .kindRepeated place => "duplicate field `event`" ++ (place.position text).message
  | .kindNotText found place =>
      invalidType found "variant identifier" ++ (place.position text).message
  | .kindUnknown name place =>
      "unknown variant `" ++ name ++
        "`, expected one of `created`, `paid`, `cancelled`, `refunded`" ++
        (place.position text).message
  | .fieldMissing field => "missing field `" ++ field ++ "`"
  | .fieldRepeated field => "duplicate field `" ++ field ++ "`"
  | .notText found => invalidType found "a string"
  | .notInteger found => invalidType found "i64"
  | .integerOutOfRange value =>
      "invalid value: integer `" ++ toString value ++ "`, expected i64"
  | .tooShort kind length =>
      "invalid length " ++ toString length ++ ", expected struct variant OrderEvent::" ++
        kind.title ++ " with " ++ toString kind.fieldCount ++ " elements"
  | .tooLong kind length =>
      "invalid length " ++ toString length ++ ", expected " ++ toString kind.fieldCount ++
        " elements in sequence"

/-- The result of reading the beginning of a body. -/
abbrev Decoding (α : Type) := Except Undecodable (α × List Char)

/-- A stopped reading makes a body undecodable. -/
def malformed (reading : Reading α) : Decoding α :=
  match reading with
  | .ok result => .ok result
  | .error stop => .error (.malformed stop)

def andThenDecode (first : Decoding α) (next : α → List Char → Decoding β) : Decoding β :=
  match first with
  | .error fault => .error fault
  | .ok (value, rest) => next value rest

/-- The name of a kind, with blanks before it.  Of a value that is no text only
the beginning is read. -/
def readKind (text : List Char) : Decoding Kind :=
  match skipSpaces text with
  | '"' :: rest =>
      andThenDecode (malformed (readString rest)) fun name rest =>
        match Kind.ofName? name with
        | some kind => .ok (kind, rest)
        | none => .error (.kindUnknown name (.before rest))
  | '[' :: rest => .error (.kindNotText (.array []) (.before ('[' :: rest)))
  | '\x7b' :: rest => .error (.kindNotText (.object []) (.before ('\x7b' :: rest)))
  | other =>
      andThenDecode (malformed (readScalar other)) fun found rest =>
        .error (.kindNotText found (.before rest))

/-- The place where an object was left: after blanks and its closing brace, if
that comes next. -/
def placeAfterObject (text : List Char) : Place :=
  match skipSpaces text with
  | '\x7d' :: rest => .before rest
  | other => .before other

/-- The kind and the other members of an object after its opening brace. -/
def readTagged (depth : Nat) :
    Nat → Bool → Option Kind → List Char → Decoding (Kind × List (String × Json))
  | 0, _, _, text => .error (.malformed ⟨.endInObject, .before text⟩)
  | limit + 1, isFirst, kind?, text =>
      andThenDecode (malformed (nextMember isFirst text)) fun more rest =>
        if more then
          andThenDecode (malformed (readString rest.tail)) fun name rest =>
            if name = "event" then
              match kind? with
              | some _ => .error (.kindRepeated (placeAfterObject rest))
              | none =>
                  andThenDecode (malformed (readColon rest)) fun _ rest =>
                    andThenDecode (readKind rest) fun kind rest =>
                      readTagged depth limit false (some kind) rest
            else
              andThenDecode (malformed (readColon rest)) fun _ rest =>
                andThenDecode (malformed (readValue depth rest)) fun item rest =>
                  andThenDecode (readTagged depth limit false kind? rest) fun tagged rest =>
                    .ok ((tagged.1, (name, item) :: tagged.2), rest)
        else
          match kind? with
          | some kind => .ok ((kind, []), rest.tail)
          | none => .error (.kindMissing (.before rest.tail))

/-- The fields of an event: named members, or a list in order. -/
inductive Fields where
  | named (members : List (String × Json))
  | ordered (items : List Json)

/-- The kind and the fields of a body, up to the end of the value. -/
def readFields (text : List Char) : Decoding (Kind × Fields) :=
  let depth := depthLimit - 1
  match skipSpaces text with
  | '\x7b' :: rest =>
      andThenDecode (readTagged depth (rest.length + 1) true none rest) fun tagged rest =>
        .ok ((tagged.1, .named tagged.2), rest)
  | '[' :: rest =>
      andThenDecode (malformed (nextItem true rest)) fun more rest =>
        if more then
          andThenDecode (readKind rest) fun kind rest =>
            andThenDecode (malformed (readItems (readValue depth) (rest.length + 1) false rest))
              fun items rest => .ok ((kind, .ordered items), rest)
        else .error (.kindMissing (.before rest.tail))
  | other =>
      andThenDecode (malformed (readScalar other)) fun found rest =>
        .error (.notAnEvent found (.before rest))

/-- The value of a text field. -/
def asText : Json → Except Undecodable String
  | .string value => .ok value
  | found => .error (.notText found)

/-- The value of a text field that may be null. -/
def asOptionalText : Json → Except Undecodable (Option String)
  | .null => .ok none
  | found => (asText found).map some

/-- The value of an integer field of 64 bits. -/
def asInteger : Json → Except Undecodable Int
  | .natural value =>
      if value < 9223372036854775808 then .ok value else .error (.integerOutOfRange value)
  | .negative value => .ok value
  | found => .error (.notInteger found)

/-- The names of the fields of a kind, in order. -/
def Kind.fieldNames : Kind → List String
  | .created => ["order_id", "customer_id", "total_cents"]
  | .paid => ["order_id", "payment_id", "amount_cents"]
  | .cancelled => ["order_id", "reason"]
  | .refunded => ["order_id", "payment_id", "amount_cents"]

/-- Whether a value is right for a field. -/
def checkField (field : String) (value : Json) : Except Undecodable Unit :=
  if field = "total_cents" || field = "amount_cents" then (asInteger value).map fun _ => ()
  else if field = "reason" then (asOptionalText value).map fun _ => ()
  else (asText value).map fun _ => ()

/-- Checks the members in the order in which they are written; `seen` are the
fields that came before. -/
def checkMembers (names : List String) :
    List String → List (String × Json) → Except Undecodable Unit
  | _, [] => .ok ()
  | seen, (name, value) :: rest =>
      if names.contains name then
        if seen.contains name then .error (.fieldRepeated name)
        else
          match checkField name value with
          | .error fault => .error fault
          | .ok _ => checkMembers names (name :: seen) rest
      else checkMembers names seen rest

/-- The value of a required field. -/
def require (field : String) (value? : Option Json) (read : Json → Except Undecodable α) :
    Except Undecodable α :=
  match value? with
  | some value => read value
  | none => .error (.fieldMissing field)

/-- Puts an event together from the values of its fields. -/
def build (kind : Kind) (value? : String → Option Json) : Except Undecodable OrderEvent := do
  let orderId ← require "order_id" (value? "order_id") asText
  match kind with
  | .created =>
      let customerId ← require "customer_id" (value? "customer_id") asText
      let totalCents ← require "total_cents" (value? "total_cents") asInteger
      .ok (.created orderId customerId totalCents)
  | .paid =>
      let paymentId ← require "payment_id" (value? "payment_id") asText
      let amountCents ← require "amount_cents" (value? "amount_cents") asInteger
      .ok (.paid orderId paymentId amountCents)
  | .cancelled =>
      let reason ← asOptionalText ((value? "reason").getD .null)
      .ok (.cancelled orderId reason)
  | .refunded =>
      let paymentId ← require "payment_id" (value? "payment_id") asText
      let amountCents ← require "amount_cents" (value? "amount_cents") asInteger
      .ok (.refunded orderId paymentId amountCents)

/-- How many items an array needs for a kind; a reason may be left out. -/
def Kind.leastCount : Kind → Nat
  | .cancelled => 1
  | _ => 3

/-- Checks the items in order, then their number. -/
def checkItems (kind : Kind) : List String → List Json → Except Undecodable Unit
  | field :: fields, value :: rest =>
      match checkField field value with
      | .error fault => .error fault
      | .ok _ => checkItems kind fields rest
  | field :: fields, [] =>
      if kind.leastCount ≤ kind.fieldCount - (fields.length + 1) then .ok ()
      else .error (.tooShort kind (kind.fieldCount - (field :: fields).length))
  | [], [] => .ok ()
  | [], rest => .error (.tooLong kind (kind.fieldCount + rest.length))

/-- The event that a kind and its fields describe. -/
def ofFields (kind : Kind) : Fields → Except Undecodable OrderEvent
  | .named members =>
      match checkMembers kind.fieldNames [] members with
      | .error fault => .error fault
      | .ok _ => build kind fun field => members.lookup field
  | .ordered items =>
      match checkItems kind kind.fieldNames items with
      | .error fault => .error fault
      | .ok _ => build kind fun field => (kind.fieldNames.zip items).lookup field

/-- Reads the order event that a body holds. -/
def read (text : List Char) : Except Undecodable OrderEvent :=
  match readFields text with
  | .error fault => .error fault
  | .ok ((kind, fields), rest) =>
      match ofFields kind fields with
      | .error fault => .error fault
      | .ok event =>
          match readEnd rest with
          | .error stop => .error (.malformed stop)
          | .ok _ => .ok event

/-- What a processor of order events does with a delivery. -/
def process (delivery : Delivery) : Processing :=
  let text := delivery.body.toList
  match read text with
  | .error fault =>
      ⟨[], .returns (.terminal ("undecodable order event: " ++ fault.message text))⟩
  | .ok event =>
      match event.objection? with
      | some objection => ⟨[], .returns (.terminal objection.message)⟩
      | none =>
          ⟨[.orderAccepted delivery.id event.orderId event.kind delivery.isRedelivery],
            .returns .success⟩

end AtLeastOnce.OrderEvent
