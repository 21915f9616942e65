import AtLeastOnce.Proofs.Order.Language
import AtLeastOnce.Proofs.Success

/-!
# Decoding the fields of an event

Members are checked in the order in which they are written, items in the order of
the fields.  Both ways put an event together exactly where the value describes it.
-/

namespace AtLeastOnce.OrderEvent

open Json

section Values

theorem asText_eq_ok {value : Json} {text : String} :
    asText value = .ok text ↔ value = .string text := by
  cases value <;> simp [asText]

theorem asInteger_eq_ok {value : Json} {integer : Int} :
    asInteger value = .ok integer ↔ IsInteger value integer := by
  constructor
  · intro read
    cases value with
    | natural value =>
      simp only [asInteger] at read
      split at read <;> cases read
      exact .natural ‹_›
    | negative value => cases read; exact .negative
    | _ => cases read
  · rintro (inRange | _)
    · simp [asInteger, inRange]
    · rfl

theorem asOptionalText_eq_ok {value : Json} {reason : Option String} :
    asOptionalText value = .ok reason ↔ IsReason value reason := by
  constructor
  · intro read
    cases value with
    | null => cases read; exact .null
    | string text => cases read; exact .text
    | _ => cases read
  · rintro (_ | _) <;> rfl

theorem require_text_eq_ok {field text : String} {value? : Option Json} :
    require field value? asText = .ok text ↔ value? = some (.string text) := by
  cases value? <;> simp [require, asText_eq_ok]

theorem require_integer_eq_ok {field : String} {value? : Option Json} {integer : Int} :
    require field value? asInteger = .ok integer ↔
      ∃ value, value? = some value ∧ IsInteger value integer := by
  cases value? <;> simp [require, asInteger_eq_ok]

/-- The event that the values of fields make up. -/
inductive Built (value? : String → Option Json) : Kind → OrderEvent → Prop where
  | created {order customer : String} {total : Json} {cents : Int} :
      value? "order_id" = some (.string order) →
      value? "customer_id" = some (.string customer) →
      value? "total_cents" = some total → IsInteger total cents →
      Built value? .created (.created order customer cents)
  | paid {order payment : String} {amount : Json} {cents : Int} :
      value? "order_id" = some (.string order) →
      value? "payment_id" = some (.string payment) →
      value? "amount_cents" = some amount → IsInteger amount cents →
      Built value? .paid (.paid order payment cents)
  | cancelled {order : String} {reason : Option String} :
      value? "order_id" = some (.string order) →
      IsReason ((value? "reason").getD .null) reason →
      Built value? .cancelled (.cancelled order reason)
  | refunded {order payment : String} {amount : Json} {cents : Int} :
      value? "order_id" = some (.string order) →
      value? "payment_id" = some (.string payment) →
      value? "amount_cents" = some amount → IsInteger amount cents →
      Built value? .refunded (.refunded order payment cents)

theorem build_eq_ok {value? : String → Option Json} {kind : Kind} {event : OrderEvent} :
    build kind value? = .ok event ↔ Built value? kind event := by
  constructor
  · intro built
    cases kind with
    | created =>
      simp only [build, bind_eq_ok, require_text_eq_ok, require_integer_eq_ok] at built
      obtain ⟨order, hasOrder, customer, hasCustomer, cents, ⟨total, hasTotal, integer⟩, ⟨⟩⟩ :=
        built
      exact .created hasOrder hasCustomer hasTotal integer
    | paid =>
      simp only [build, bind_eq_ok, require_text_eq_ok, require_integer_eq_ok] at built
      obtain ⟨order, hasOrder, payment, hasPayment, cents, ⟨amount, hasAmount, integer⟩, ⟨⟩⟩ :=
        built
      exact .paid hasOrder hasPayment hasAmount integer
    | cancelled =>
      simp only [build, bind_eq_ok, require_text_eq_ok, asOptionalText_eq_ok] at built
      obtain ⟨order, hasOrder, reason, isReason, ⟨⟩⟩ := built
      exact .cancelled hasOrder isReason
    | refunded =>
      simp only [build, bind_eq_ok, require_text_eq_ok, require_integer_eq_ok] at built
      obtain ⟨order, hasOrder, payment, hasPayment, cents, ⟨amount, hasAmount, integer⟩, ⟨⟩⟩ :=
        built
      exact .refunded hasOrder hasPayment hasAmount integer
  · intro built
    cases built with
    | cancelled hasOrder isReason =>
      simp only [build, bind_eq_ok, require_text_eq_ok, asOptionalText_eq_ok]
      exact ⟨_, hasOrder, _, isReason, rfl⟩
    | created hasOrder hasOther hasAmount integer =>
      simp only [build, bind_eq_ok, require_text_eq_ok, require_integer_eq_ok]
      exact ⟨_, hasOrder, _, hasOther, _, ⟨_, hasAmount, integer⟩, rfl⟩
    | paid hasOrder hasOther hasAmount integer =>
      simp only [build, bind_eq_ok, require_text_eq_ok, require_integer_eq_ok]
      exact ⟨_, hasOrder, _, hasOther, _, ⟨_, hasAmount, integer⟩, rfl⟩
    | refunded hasOrder hasOther hasAmount integer =>
      simp only [build, bind_eq_ok, require_text_eq_ok, require_integer_eq_ok]
      exact ⟨_, hasOrder, _, hasOther, _, ⟨_, hasAmount, integer⟩, rfl⟩

end Values

section Members

theorem lookup_eq_head? (name : String) (members : List (String × Json)) :
    members.lookup name = (valuesOf name members).head? := by
  induction members with
  | nil => rfl
  | cons member members ih =>
    obtain ⟨key, value⟩ := member
    by_cases same : key = name
    · subst same
      simp [valuesOf]
    · have other : (name == key) = false := by simpa using Ne.symm same
      simpa [List.lookup_cons, valuesOf, same, other] using ih

@[simp]
theorem valuesOf_nil (name : String) : valuesOf name [] = [] := rfl

theorem valuesOf_cons (name : String) (member : String × Json) (members : List (String × Json)) :
    valuesOf name (member :: members) =
      if member.1 = name then member.2 :: valuesOf name members else valuesOf name members := by
  by_cases same : member.1 = name <;> simp [valuesOf, same]

theorem valuesOf_filter {name other : String} (differs : name ≠ other)
    (members : List (String × Json)) :
    valuesOf name (members.filter fun member => member.1 ≠ other) = valuesOf name members := by
  simp only [valuesOf, List.filter_filter]
  congr 2
  funext member
  by_cases same : member.1 = name
  · simp [same, differs]
  · simp [same]

/-- Every field that is there has a value of its type, and is there once. -/
theorem checkMembers_eq_ok {names seen : List String} {members : List (String × Json)} :
    checkMembers names seen members = .ok () ↔
      ∀ name ∈ names, (valuesOf name members).length + (if name ∈ seen then 1 else 0) ≤ 1 ∧
        ∀ value ∈ valuesOf name members, checkField name value = .ok () := by
  induction members generalizing seen with
  | nil => 
    simp only [checkMembers, valuesOf_nil, true_iff]
    intro name _
    refine ⟨?_, by simp⟩
    split <;> simp
  | cons member members ih =>
    obtain ⟨key, value⟩ := member
    by_cases known : key ∈ names
    · by_cases repeated : key ∈ seen
      · simp only [checkMembers, List.contains_eq_mem, known, decide_true, if_true, repeated,
          reduceCtorEq, false_iff]
        intro all
        have bound := (all key known).1
        simp [valuesOf_cons, repeated] at bound
      · cases checked : checkField key value with
        | error fault =>
          simp only [checkMembers, List.contains_eq_mem, known, decide_true, if_true, repeated,
            decide_false, Bool.false_eq_true, if_false, checked, reduceCtorEq, false_iff]
          intro all
          have right := (all key known).2 value (by simp [valuesOf_cons])
          simp [checked] at right
        | ok _ =>
          simp only [checkMembers, List.contains_eq_mem, known, decide_true, if_true, repeated,
            decide_false, Bool.false_eq_true, if_false, checked, ih]
          refine forall_congr' fun name => forall_congr' fun _ => ?_
          by_cases same : key = name
          · subst same
            simp [valuesOf_cons, repeated, checked]
          · simp [valuesOf_cons, same, Ne.symm same]
    · simp only [checkMembers, List.contains_eq_mem, known, decide_false, Bool.false_eq_true,
        if_false, ih]
      refine forall_congr' fun name => forall_congr' fun wanted => ?_
      have other : key ≠ name := by
        rintro rfl
        exact known wanted
      simp [valuesOf_cons, other]

theorem eq_singleton_of_head? {values : List Json} {value : Json} (once : values.length ≤ 1)
    (first : values.head? = some value) : values = [value] := by
  match values, once with
  | [_], _ =>
    cases first
    rfl

def Kind.name : Kind → String
  | .created => "created"
  | .paid => "paid"
  | .cancelled => "cancelled"
  | .refunded => "refunded"

theorem ofName?_eq_some {name : String} {kind : Kind} :
    Kind.ofName? name = some kind ↔ name = kind.name := by
  constructor
  · intro known
    unfold Kind.ofName? at known
    split at known <;> cases known <;> rfl
  · rintro rfl
    cases kind <;> rfl

theorem named_of_built {members : List (String × Json)} {kind : Kind} {event : OrderEvent}
    (tagged : valuesOf "event" members = [.string kind.name])
    (once : ∀ name ∈ kind.fieldNames, (valuesOf name members).length ≤ 1)
    (built : Built (fun field => (valuesOf field members).head?) kind event) :
    Named members event := by
  have single : ∀ {name : String} {value : Json}, name ∈ kind.fieldNames →
      (valuesOf name members).head? = some value → valuesOf name members = [value] :=
    fun field first => eq_singleton_of_head? (once _ field) first
  cases built with
  | created hasOrder hasOther hasAmount integer =>
    exact .created tagged (single (by decide) hasOrder) (single (by decide) hasOther)
      (single (by decide) hasAmount) integer
  | paid hasOrder hasOther hasAmount integer =>
    exact .paid tagged (single (by decide) hasOrder) (single (by decide) hasOther)
      (single (by decide) hasAmount) integer
  | refunded hasOrder hasOther hasAmount integer =>
    exact .refunded tagged (single (by decide) hasOrder) (single (by decide) hasOther)
      (single (by decide) hasAmount) integer
  | cancelled hasOrder isReason =>
    have order := single (by decide) hasOrder
    cases reasons : valuesOf "reason" members with
    | nil =>
      simp only [reasons, List.head?_nil, Option.getD_none] at isReason
      cases isReason
      exact .cancelled tagged order reasons
    | cons value others =>
      have first : (valuesOf "reason" members).head? = some value := by simp [reasons]
      simp only [reasons, List.head?_cons, Option.getD_some] at isReason
      exact .cancelledFor tagged order (single (by decide) first) isReason

theorem fieldNames_ne_event {kind : Kind} {name : String} (field : name ∈ kind.fieldNames) :
    name ≠ "event" := by
  rintro rfl
  cases kind <;> exact absurd field (by decide)

theorem Built.congr {first second : String → Option Json} {kind : Kind} {event : OrderEvent}
    (same : ∀ field ∈ kind.fieldNames, first field = second field)
    (built : Built first kind event) :
    Built second kind event := by
  have known : ∀ {field : String} {value : Json}, field ∈ kind.fieldNames →
      first field = some value → second field = some value :=
    fun member found => same _ member ▸ found
  cases built with
  | created hasOrder hasOther hasAmount integer =>
    exact .created (known (by decide) hasOrder) (known (by decide) hasOther)
      (known (by decide) hasAmount) integer
  | paid hasOrder hasOther hasAmount integer =>
    exact .paid (known (by decide) hasOrder) (known (by decide) hasOther)
      (known (by decide) hasAmount) integer
  | cancelled hasOrder isReason =>
    exact .cancelled (known (by decide) hasOrder) (same "reason" (by decide) ▸ isReason)
  | refunded hasOrder hasOther hasAmount integer =>
    exact .refunded (known (by decide) hasOrder) (known (by decide) hasOther)
      (known (by decide) hasAmount) integer

/-- A field that is there at most once, with a value of its type. -/
def FieldChecked (members : List (String × Json)) (name : String) : Prop :=
  (valuesOf name members).length ≤ 1 ∧
    ∀ value ∈ valuesOf name members, checkField name value = .ok ()

theorem ofFields_named_eq_ok {members : List (String × Json)} {kind : Kind} {event : OrderEvent} :
    ofFields kind (.named (members.filter fun member => member.1 ≠ "event")) = .ok event ↔
      (∀ name ∈ kind.fieldNames, FieldChecked members name) ∧
        Built (fun field => (valuesOf field members).head?) kind event := by
  let others := members.filter fun member => member.1 ≠ "event"
  have same : ∀ name ∈ kind.fieldNames, valuesOf name others = valuesOf name members :=
    fun name field => valuesOf_filter (fieldNames_ne_event field) members
  have checks : checkMembers kind.fieldNames [] others = .ok () ↔
      ∀ name ∈ kind.fieldNames, FieldChecked members name := by
    rw [checkMembers_eq_ok]
    refine forall_congr' fun name => forall_congr' fun field => ?_
    simp [FieldChecked, same name field]
  have builds : build kind (fun field => others.lookup field) = .ok event ↔
      Built (fun field => (valuesOf field members).head?) kind event := by
    rw [build_eq_ok]
    have sameValue : ∀ field ∈ kind.fieldNames,
        others.lookup field = (valuesOf field members).head? :=
      fun field known => by rw [lookup_eq_head?, same field known]
    exact ⟨.congr sameValue, .congr fun field known => (sameValue field known).symm⟩
  change ofFields kind (.named others) = .ok event ↔ _
  rw [← checks, ← builds]
  simp only [ofFields]
  cases checked : checkMembers kind.fieldNames [] others with
  | error fault => simp
  | ok _ => simp

theorem checkField_text {field text : String}
    (isText : field ≠ "total_cents" ∧ field ≠ "amount_cents") :
    checkField field (.string text) = .ok () := by
  by_cases reason : field = "reason" <;>
    simp [checkField, isText, reason, asText, asOptionalText, Except.map]

theorem checkField_integer {field : String} {value : Json} {integer : Int}
    (isAmount : field = "total_cents" ∨ field = "amount_cents")
    (isInteger : IsInteger value integer) :
    checkField field value = .ok () := by
  rcases isAmount with rfl | rfl <;>
    simp [checkField, asInteger_eq_ok.mpr isInteger, Except.map]

theorem checkField_reason {value : Json} {reason : Option String}
    (isReason : IsReason value reason) :
    checkField "reason" value = .ok () := by
  simp [checkField, asOptionalText_eq_ok.mpr isReason, Except.map]

theorem FieldChecked.of_single {name : String} {value : Json} {members : List (String × Json)}
    (single : valuesOf name members = [value]) (checked : checkField name value = .ok ()) :
    FieldChecked members name := by
  simp [FieldChecked, single, checked]

theorem FieldChecked.of_text {name text : String} {members : List (String × Json)}
    (single : valuesOf name members = [.string text])
    (isText : name ≠ "total_cents" ∧ name ≠ "amount_cents") : FieldChecked members name :=
  .of_single single (checkField_text isText)

theorem built_of_named {members : List (String × Json)} {event : OrderEvent}
    (named : Named members event) :
    ∃ kind : Kind, valuesOf "event" members = [.string kind.name] ∧
      (∀ name ∈ kind.fieldNames, FieldChecked members name) ∧
      Built (fun field => (valuesOf field members).head?) kind event := by
  have first : ∀ {name : String} {value : Json}, valuesOf name members = [value] →
      (valuesOf name members).head? = some value := fun single => by simp [single]
  cases named with
  | created tagged hasOrder hasOther hasAmount integer =>
    refine ⟨.created, tagged, ?_,
      .created (first hasOrder) (first hasOther) (first hasAmount) integer⟩
    simp only [Kind.fieldNames, List.forall_mem_cons]
    exact ⟨.of_text hasOrder (by decide), .of_text hasOther (by decide),
      .of_single hasAmount (checkField_integer (.inl rfl) integer), by simp⟩
  | paid tagged hasOrder hasOther hasAmount integer =>
    refine ⟨.paid, tagged, ?_, .paid (first hasOrder) (first hasOther) (first hasAmount) integer⟩
    simp only [Kind.fieldNames, List.forall_mem_cons]
    exact ⟨.of_text hasOrder (by decide), .of_text hasOther (by decide),
      .of_single hasAmount (checkField_integer (.inr rfl) integer), by simp⟩
  | refunded tagged hasOrder hasOther hasAmount integer =>
    refine ⟨.refunded, tagged, ?_,
      .refunded (first hasOrder) (first hasOther) (first hasAmount) integer⟩
    simp only [Kind.fieldNames, List.forall_mem_cons]
    exact ⟨.of_text hasOrder (by decide), .of_text hasOther (by decide),
      .of_single hasAmount (checkField_integer (.inr rfl) integer), by simp⟩
  | cancelled tagged hasOrder noReason =>
    refine ⟨.cancelled, tagged, ?_, .cancelled (first hasOrder) ?_⟩
    · simp only [Kind.fieldNames, List.forall_mem_cons]
      exact ⟨.of_text hasOrder (by decide), by simp [FieldChecked, noReason], by simp⟩
    · simp only [noReason, List.head?_nil, Option.getD_none]
      exact .null
  | cancelledFor tagged hasOrder hasReason isReason =>
    refine ⟨.cancelled, tagged, ?_, .cancelled (first hasOrder) ?_⟩
    · simp only [Kind.fieldNames, List.forall_mem_cons]
      exact ⟨.of_text hasOrder (by decide), .of_single hasReason (checkField_reason isReason),
        by simp⟩
    · simpa only [hasReason, List.head?_cons, Option.getD_some] using isReason

theorem named_iff {members : List (String × Json)} {event : OrderEvent} :
    Named members event ↔
      ∃ kind : Kind, valuesOf "event" members = [.string kind.name] ∧
        ofFields kind (.named (members.filter fun member => member.1 ≠ "event")) = .ok event := by
  constructor
  · intro named
    obtain ⟨kind, tagged, checked, built⟩ := built_of_named named
    exact ⟨kind, tagged, ofFields_named_eq_ok.mpr ⟨checked, built⟩⟩
  · rintro ⟨kind, tagged, read⟩
    obtain ⟨checked, built⟩ := ofFields_named_eq_ok.mp read
    exact named_of_built tagged (fun name field => (checked name field).1) built

end Members

section Items

/-- The values of an array are checked as those of members in order. -/
theorem checkItems_eq_ok {kind : Kind} {names : List String} {items : List Json} :
    checkItems kind names items = .ok () ↔
      items.length ≤ names.length ∧
        (items.length < names.length →
          kind.leastCount ≤ kind.fieldCount - (names.length - items.length)) ∧
        ∀ field ∈ names.zip items, checkField field.1 field.2 = .ok () := by
  induction names generalizing items with
  | nil =>
    cases items with
    | nil => simp [checkItems]
    | cons value rest => simp [checkItems]
  | cons name names ih =>
    cases items with
    | nil =>
      simp only [checkItems]
      split <;> simp_all
    | cons value rest =>
      cases checked : checkField name value with
      | error fault => simp [checkItems, checked]
      | ok _ => simp [checkItems, checked, ih]

theorem ofFields_ordered_eq_ok {items : List Json} {kind : Kind} {event : OrderEvent} :
    ofFields kind (.ordered items) = .ok event ↔
      (kind.leastCount ≤ items.length ∧ items.length ≤ kind.fieldCount) ∧
        (∀ field ∈ kind.fieldNames.zip items, checkField field.1 field.2 = .ok ()) ∧
        Built (fun field => (kind.fieldNames.zip items).lookup field) kind event := by
  have checks : checkItems kind kind.fieldNames items = .ok () ↔
      (kind.leastCount ≤ items.length ∧ items.length ≤ kind.fieldCount) ∧
        ∀ field ∈ kind.fieldNames.zip items, checkField field.1 field.2 = .ok () := by
    have count : kind.fieldNames.length = kind.fieldCount := by cases kind <;> rfl
    have least : kind.leastCount ≤ kind.fieldCount := by cases kind <;> decide
    rw [checkItems_eq_ok, count, ← and_assoc]
    refine and_congr_left fun _ => ?_
    omega
  rw [← and_assoc, ← checks, ← build_eq_ok]
  simp only [ofFields]
  cases checked : checkItems kind kind.fieldNames items with
  | error fault => simp
  | ok _ => simp

theorem ordered_of_built {items : List Json} {kind : Kind} {event : OrderEvent}
    (least : kind.leastCount ≤ items.length) (most : items.length ≤ kind.fieldCount)
    (built : Built (fun field => (kind.fieldNames.zip items).lookup field) kind event) :
    Ordered (.string kind.name :: items) event := by
  cases built with
  | created hasOrder hasOther hasAmount integer =>
    match items, least, most with
    | [first, second, third], _, _ =>
      cases hasOrder
      cases hasOther
      cases hasAmount
      exact .created integer
  | paid hasOrder hasOther hasAmount integer =>
    match items, least, most with
    | [first, second, third], _, _ =>
      cases hasOrder
      cases hasOther
      cases hasAmount
      exact .paid integer
  | refunded hasOrder hasOther hasAmount integer =>
    match items, least, most with
    | [first, second, third], _, _ =>
      cases hasOrder
      cases hasOther
      cases hasAmount
      exact .refunded integer
  | cancelled hasOrder isReason =>
    match items, least, most with
    | [first], _, _ =>
      cases hasOrder
      cases isReason
      exact .cancelled
    | [first, second], _, _ =>
      cases hasOrder
      exact .cancelledFor isReason

theorem ordered_iff {items : List Json} {event : OrderEvent} :
    Ordered items event ↔
      ∃ kind fields, items = .string (Kind.name kind) :: fields ∧
        ofFields kind (.ordered fields) = .ok event := by
  constructor
  · intro ordered
    cases ordered with
    | created integer =>
      refine ⟨.created, _, rfl, ofFields_ordered_eq_ok.mpr
        ⟨by simp [Kind.leastCount, Kind.fieldCount], ?_, .created rfl rfl rfl integer⟩⟩
      simp [Kind.fieldNames, checkField_text, checkField_integer _ integer]
    | paid integer =>
      refine ⟨.paid, _, rfl, ofFields_ordered_eq_ok.mpr
        ⟨by simp [Kind.leastCount, Kind.fieldCount], ?_, .paid rfl rfl rfl integer⟩⟩
      simp [Kind.fieldNames, checkField_text, checkField_integer _ integer]
    | refunded integer =>
      refine ⟨.refunded, _, rfl, ofFields_ordered_eq_ok.mpr
        ⟨by simp [Kind.leastCount, Kind.fieldCount], ?_, .refunded rfl rfl rfl integer⟩⟩
      simp [Kind.fieldNames, checkField_text, checkField_integer _ integer]
    | cancelled =>
      refine ⟨.cancelled, _, rfl, ofFields_ordered_eq_ok.mpr
        ⟨by simp [Kind.leastCount, Kind.fieldCount], ?_, .cancelled rfl .null⟩⟩
      simp [Kind.fieldNames, checkField_text]
    | cancelledFor isReason =>
      refine ⟨.cancelled, _, rfl, ofFields_ordered_eq_ok.mpr
        ⟨by simp [Kind.leastCount, Kind.fieldCount], ?_, .cancelled rfl isReason⟩⟩
      simp [Kind.fieldNames, checkField_text, checkField_reason isReason]
  · rintro ⟨kind, fields, rfl, read⟩
    obtain ⟨⟨least, most⟩, -, built⟩ := ofFields_ordered_eq_ok.mp read
    exact ordered_of_built least most built

end Items

end AtLeastOnce.OrderEvent
