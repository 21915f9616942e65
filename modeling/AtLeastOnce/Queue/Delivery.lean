/-!
# Deliveries

One delivery of a message from a queue.  A message may be delivered more than
once; each delivery carries a receipt handle of its own, which deletes it.
-/

namespace AtLeastOnce

/-- The token that identifies one delivery to the queue. -/
structure ReceiptHandle where
  token : String
  deriving DecidableEq, Repr

/-- A handle works like a credential, so only its beginning is shown. -/
def ReceiptHandle.description (handle : ReceiptHandle) : String :=
  "ReceiptHandle(" ++ String.ofList (handle.token.toList.take 8) ++ "…)"

structure Delivery where
  id : String
  body : String
  handle : ReceiptHandle
  /-- How often the message has been delivered, this time included. -/
  receiveCount : Nat
  group : Option String
  deriving DecidableEq, Repr

/-- Whether the message had been delivered before. -/
def Delivery.isRedelivery (delivery : Delivery) : Bool := 1 < delivery.receiveCount

end AtLeastOnce
