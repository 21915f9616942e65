import AtLeastOnce.Event
import AtLeastOnce.Handling.Task
import AtLeastOnce.Text.Blank

/-!
# Order events

What the worker learns from the bodies of its messages: orders are created, paid,
cancelled and refunded.
-/

namespace AtLeastOnce

inductive OrderEvent where
  | created (orderId customerId : String) (totalCents : Int)
  | paid (orderId paymentId : String) (amountCents : Int)
  | cancelled (orderId : String) (reason : Option String)
  | refunded (orderId paymentId : String) (amountCents : Int)
  deriving DecidableEq, Repr

namespace OrderEvent

def orderId : OrderEvent → String
  | .created orderId _ _ => orderId
  | .paid orderId _ _ => orderId
  | .cancelled orderId _ => orderId
  | .refunded orderId _ _ => orderId

def kind : OrderEvent → String
  | .created _ _ _ => "created"
  | .paid _ _ _ => "paid"
  | .cancelled _ _ => "cancelled"
  | .refunded _ _ _ => "refunded"

/-- Why a well-formed event is refused. -/
inductive Objection where
  | emptyOrderId
  | negativeTotal (cents : Int)
  | nonPositiveAmount (cents : Int)
  deriving DecidableEq, Repr

def Objection.message : Objection → String
  | .emptyOrderId => "order_id is empty"
  | .negativeTotal cents => "negative order total " ++ toString cents
  | .nonPositiveAmount cents => "non-positive amount " ++ toString cents

/-- The amount of the event, if it is refused. -/
def amountObjection? : OrderEvent → Option Objection
  | .created _ _ totalCents => if totalCents < 0 then some (.negativeTotal totalCents) else none
  | .paid _ _ amountCents =>
      if amountCents ≤ 0 then some (.nonPositiveAmount amountCents) else none
  | .cancelled _ _ => none
  | .refunded _ _ amountCents =>
      if amountCents ≤ 0 then some (.nonPositiveAmount amountCents) else none

def objection? (event : OrderEvent) : Option Objection :=
  if Text.allBlank event.orderId then some .emptyOrderId else event.amountObjection?

end OrderEvent

end AtLeastOnce
