import AtLeastOnce.Order.Reader
import AtLeastOnce.Proofs.Json.Grammar

/-!
# The language of order events

Which JSON values describe an order event, told without a reader, and which events
are acceptable.  Members may stand in any order and among others, but a field
counts only if it is there once.
-/

namespace AtLeastOnce.OrderEvent

open Json

/-- A number that an integer field may hold. -/
inductive IsInteger : Json → Int → Prop where
  | natural {value : Nat} : value < 9223372036854775808 → IsInteger (.natural value) value
  | negative {value : Int} : IsInteger (.negative value) value

inductive IsReason : Json → Option String → Prop where
  | null : IsReason .null none
  | text {reason : String} : IsReason (.string reason) (some reason)

/-- The values of the members with a name. -/
def valuesOf (name : String) (members : List (String × Json)) : List Json :=
  (members.filter fun member => member.1 = name).map Prod.snd

/-- What the members of an object say. -/
inductive Named (members : List (String × Json)) : OrderEvent → Prop where
  | created {order customer : String} {total : Json} {cents : Int} :
      valuesOf "event" members = [.string "created"] →
      valuesOf "order_id" members = [.string order] →
      valuesOf "customer_id" members = [.string customer] →
      valuesOf "total_cents" members = [total] → IsInteger total cents →
      Named members (.created order customer cents)
  | paid {order payment : String} {amount : Json} {cents : Int} :
      valuesOf "event" members = [.string "paid"] →
      valuesOf "order_id" members = [.string order] →
      valuesOf "payment_id" members = [.string payment] →
      valuesOf "amount_cents" members = [amount] → IsInteger amount cents →
      Named members (.paid order payment cents)
  | cancelled {order : String} :
      valuesOf "event" members = [.string "cancelled"] →
      valuesOf "order_id" members = [.string order] →
      valuesOf "reason" members = [] →
      Named members (.cancelled order none)
  | cancelledFor {order : String} {value : Json} {reason : Option String} :
      valuesOf "event" members = [.string "cancelled"] →
      valuesOf "order_id" members = [.string order] →
      valuesOf "reason" members = [value] → IsReason value reason →
      Named members (.cancelled order reason)
  | refunded {order payment : String} {amount : Json} {cents : Int} :
      valuesOf "event" members = [.string "refunded"] →
      valuesOf "order_id" members = [.string order] →
      valuesOf "payment_id" members = [.string payment] →
      valuesOf "amount_cents" members = [amount] → IsInteger amount cents →
      Named members (.refunded order payment cents)

/-- What an array says: the kind and then the fields in order. -/
inductive Ordered : List Json → OrderEvent → Prop where
  | created {order customer : String} {total : Json} {cents : Int} :
      IsInteger total cents →
      Ordered [.string "created", .string order, .string customer, total]
        (.created order customer cents)
  | paid {order payment : String} {amount : Json} {cents : Int} :
      IsInteger amount cents →
      Ordered [.string "paid", .string order, .string payment, amount]
        (.paid order payment cents)
  | cancelled {order : String} :
      Ordered [.string "cancelled", .string order] (.cancelled order none)
  | cancelledFor {order : String} {value : Json} {reason : Option String} :
      IsReason value reason →
      Ordered [.string "cancelled", .string order, value] (.cancelled order reason)
  | refunded {order payment : String} {amount : Json} {cents : Int} :
      IsInteger amount cents →
      Ordered [.string "refunded", .string order, .string payment, amount]
        (.refunded order payment cents)

inductive Describes : Json → OrderEvent → Prop where
  | object {members : List (String × Json)} {event : OrderEvent} :
      Named members event → Describes (.object members) event
  | array {items : List Json} {event : OrderEvent} :
      Ordered items event → Describes (.array items) event

/-- The amounts that the shop deals in. -/
def AmountInRange : OrderEvent → Prop
  | .created _ _ totalCents => 0 ≤ totalCents
  | .paid _ _ amountCents => 0 < amountCents
  | .cancelled _ _ => True
  | .refunded _ _ amountCents => 0 < amountCents

/-- The code points of white space. -/
def whiteSpace : List Nat :=
  [0x09, 0x0A, 0x0B, 0x0C, 0x0D, 0x20, 0x85, 0xA0, 0x1680, 0x2000, 0x2001, 0x2002, 0x2003,
    0x2004, 0x2005, 0x2006, 0x2007, 0x2008, 0x2009, 0x200A, 0x2028, 0x2029, 0x202F, 0x205F, 0x3000]

structure Acceptable (event : OrderEvent) : Prop where
  order : ∃ character ∈ event.orderId.toList, character.toNat ∉ whiteSpace
  amount : event.AmountInRange

/-- The text is a document for an event that is acceptable; `double?` tells which
numerals are in range. -/
def Written (double? : Numeral → Option Double) (text : String) (event : OrderEvent) : Prop :=
  (∃ value, DocumentText double? text.toList value ∧ Describes value event) ∧ Acceptable event

/-- Integers are written without fraction and exponent, in 64 bits with a sign; a zero
with a minus sign is none. -/
inductive WritesInteger : Numeral → Int → Prop where
  | natural {whole : List Char} :
      numberOf whole < 9223372036854775808 →
      WritesInteger ⟨false, whole, none, none⟩ (numberOf whole)
  | negative {whole : List Char} :
      0 < numberOf whole → numberOf whole ≤ 9223372036854775808 →
      WritesInteger ⟨true, whole, none, none⟩ (-(numberOf whole : Int))

theorem isInteger_wholeNumber_iff {isNegative : Bool} {whole : List Char} {integer : Int} :
    IsInteger (wholeNumber (!isNegative) (numberOf whole)) integer ↔
      WritesInteger ⟨isNegative, whole, none, none⟩ integer := by
  cases isNegative with
  | false =>
    constructor
    · rintro ⟨inRange⟩
      exact .natural inRange
    · rintro ⟨inRange⟩
      exact .natural inRange
  | true =>
    by_cases outside : (numberOf whole = 0 || 9223372036854775808 < numberOf whole) = true
    · simp only [wholeNumber, outside, Bool.not_true, Bool.false_eq_true, if_false, if_true]
      simp only [Bool.or_eq_true, decide_eq_true_eq] at outside
      constructor
      · rintro ⟨⟩
      · rintro (_ | ⟨some, inRange⟩)
        omega
    · simp only [wholeNumber, outside, Bool.not_true, Bool.false_eq_true, if_false]
      simp only [Bool.or_eq_true, decide_eq_true_eq] at outside
      constructor
      · rintro ⟨⟩
        exact .negative (by omega) (by omega)
      · rintro (_ | ⟨some, inRange⟩)
        exact .negative

theorem WritesInteger.isWhole {numeral : Numeral} {integer : Int}
    (writes : WritesInteger numeral integer) : numeral.isWhole = true := by
  cases writes with
  | natural inRange =>
    simp [Numeral.isWhole]
    omega
  | negative some inRange =>
    simp [Numeral.isWhole]
    omega

/-- A field that takes integers takes a numeral exactly if it is written as one. -/
theorem isInteger_value?_iff {double? : Numeral → Option Double} {numeral : Numeral}
    {integer : Int} :
    (∃ value, numeral.value? double? = some value ∧ IsInteger value integer) ↔
      WritesInteger numeral integer := by
  constructor
  · rintro ⟨value, known, isInteger⟩
    unfold Numeral.value? at known
    split at known
    next isWhole =>
      cases known
      obtain ⟨isNegative, whole, fraction?, exponent?⟩ := numeral
      simp only [Numeral.isWhole, Bool.and_eq_true, Option.isNone_iff_eq_none] at isWhole
      obtain ⟨⟨rfl, rfl⟩, -⟩ := isWhole
      exact isInteger_wholeNumber_iff.mp isInteger
    next =>
      obtain ⟨double, -, rfl⟩ := Option.map_eq_some_iff.mp known
      cases isInteger
  · intro writes
    refine ⟨_, if_pos writes.isWhole, isInteger_wholeNumber_iff.mpr ?_⟩
    cases writes with
    | natural inRange => exact .natural inRange
    | negative some inRange => exact .negative some inRange

theorem isBlank_eq_false_iff {character : Char} :
    Text.isBlank character = false ↔ character.toNat ∉ whiteSpace := by
  simp only [Text.isBlank, whiteSpace, List.mem_cons, List.not_mem_nil, or_false,
    Bool.or_eq_false_iff, Bool.and_eq_false_iff, decide_eq_false_iff_not]
  omega

theorem objection?_eq_none_iff {event : OrderEvent} :
    event.objection? = none ↔ Acceptable event := by
  have order : Text.allBlank event.orderId = false ↔
      ∃ character ∈ event.orderId.toList, character.toNat ∉ whiteSpace := by
    simp only [← isBlank_eq_false_iff]
    simp [Text.allBlank]
  have amount : event.amountObjection? = none ↔ event.AmountInRange := by
    cases event <;> simp [amountObjection?, AmountInRange]
  rw [objection?]
  by_cases blank : Text.allBlank event.orderId = true
  · simp only [blank, if_true, reduceCtorEq, false_iff]
    intro acceptable
    simp [order.mpr acceptable.order] at blank
  · simp only [blank, Bool.false_eq_true, if_false, amount]
    exact ⟨fun amount => ⟨order.mp (by simpa using blank), amount⟩, fun accepted => accepted.amount⟩

end AtLeastOnce.OrderEvent
