import AtLeastOnce.Proofs.Json.Documents
import AtLeastOnce.Proofs.Json.Range
import AtLeastOnce.Proofs.Order.Decoding

/-!
# Which bodies are accepted

The reader of events looks for the kind while it reads the members.  It takes the
same texts as the reader of documents, and what it finds is what a document
describes; so a processor of order events accepts exactly their language.
-/

namespace AtLeastOnce.OrderEvent

open Json

section Decoding

variable {α β : Type}

theorem andThenDecode_eq_ok {first : Decoding α} {next : α → List Char → Decoding β}
    {result : β × List Char} :
    andThenDecode first next = .ok result ↔
      ∃ value rest, first = .ok (value, rest) ∧ next value rest = .ok result := by
  unfold andThenDecode
  split
  next fault => simp
  next value rest =>
    constructor
    · intro read
      exact ⟨value, rest, rfl, read⟩
    · rintro ⟨value', rest', same, read⟩
      cases same
      exact read

theorem malformed_eq_ok {reading : Reading α} {result : α × List Char} :
    malformed reading = .ok result ↔ reading = .ok result := by
  cases reading <;> simp [malformed]

end Decoding

section Kinds

theorem readScalar_string {text rest : List Char} {value : String}
    (read : readScalar text = .ok (.string value, rest)) : ∃ left, text = '"' :: left := by
  obtain ⟨taken, rfl, spelled⟩ := recognizes_readScalar.sound read
  cases spelled with
  | string quoted =>
    obtain ⟨closed, rfl, -⟩ := quoted_iff.mp quoted
    exact ⟨_, rfl⟩
  | number valid known => simpa using Numeral.value?_number known

theorem readValue_string {depth : Nat} {text rest : List Char} {value : String} :
    readValue (depth + 1) text = .ok (.string value, rest) ↔
      ∃ left, skipSpaces text = '"' :: left ∧ readString left = .ok (value, rest) := by
  have quoted : ∀ {left : List Char},
      readScalar ('"' :: left) = .ok (.string value, rest) ↔
        readString left = .ok (value, rest) := by
    intro left
    simp only [readScalar, andThen_eq_ok]
    constructor
    · rintro ⟨found, after, read, same⟩
      cases same
      exact read
    · intro read
      exact ⟨value, rest, read, rfl⟩
  constructor
  · intro read
    unfold readValue at read
    split at read
    next =>
      split at read
      next => cases read
      next =>
        obtain ⟨items, after, -, same⟩ := andThen_eq_ok.mp read
        cases same
    next =>
      split at read
      next => cases read
      next =>
        obtain ⟨members, after, -, same⟩ := andThen_eq_ok.mp read
        cases same
    next =>
      obtain ⟨left, same⟩ := readScalar_string read
      exact ⟨left, same, quoted.mp (same ▸ read)⟩
  · rintro ⟨left, skipped, read⟩
    simp only [readValue, skipped]
    exact quoted.mpr read

theorem readKind_eq_ok {depth : Nat} {text rest : List Char} {kind : Kind} :
    readKind text = .ok (kind, rest) ↔
      readValue (depth + 1) text = .ok (.string kind.name, rest) := by
  rw [readValue_string]
  constructor
  · intro read
    unfold readKind at read
    split at read
    next left skipped =>
      obtain ⟨name, after, named, known⟩ := andThenDecode_eq_ok.mp read
      split at known
      next kind' found =>
        cases known
        rw [ofName?_eq_some.mp found] at named
        exact ⟨left, skipped, malformed_eq_ok.mp named⟩
      next => cases known
    next => cases read
    next => cases read
    next =>
      obtain ⟨found, after, -, known⟩ := andThenDecode_eq_ok.mp read
      cases known
  · rintro ⟨left, skipped, named⟩
    have known : Kind.ofName? kind.name = some kind := ofName?_eq_some.mpr rfl
    simp [readKind, skipped, named, malformed, andThenDecode, known]

end Kinds

section Members

/-- What has been found of the kind, and what the members that follow add to it. -/
def Tags (members : List (String × Json)) (kind : Kind) : Option Kind → Prop
  | none => valuesOf "event" members = [.string kind.name]
  | some found => found = kind ∧ valuesOf "event" members = []

def untagged (members : List (String × Json)) : List (String × Json) :=
  members.filter fun member => member.1 ≠ "event"

theorem tags_nil {kind : Kind} {kind? : Option Kind} : Tags [] kind kind? ↔ kind? = some kind := by
  cases kind? <;> simp [Tags]

theorem tags_cons_event {value : Json} {members : List (String × Json)} {kind : Kind}
    {kind? : Option Kind} :
    Tags (("event", value) :: members) kind kind? ↔
      kind? = none ∧ value = .string kind.name ∧ Tags members kind (some kind) := by
  cases kind? <;> simp [Tags, valuesOf_cons]

theorem tags_cons_other {name : String} (isOther : name ≠ "event") {value : Json}
    {members : List (String × Json)} {kind : Kind} {kind? : Option Kind} :
    Tags ((name, value) :: members) kind kind? ↔ Tags members kind kind? := by
  cases kind? <;> simp [Tags, valuesOf_cons, isOther]

theorem untagged_cons_event (value : Json) (members : List (String × Json)) :
    untagged (("event", value) :: members) = untagged members := by
  simp [untagged]

theorem untagged_cons_other {name : String} (isOther : name ≠ "event") (value : Json)
    (members : List (String × Json)) :
    untagged ((name, value) :: members) = (name, value) :: untagged members := by
  simp [untagged, isOther]

/-- The kind may have been found before, comes with the next member, or later. -/
theorem members_of_readTagged {depth limit : Nat} {isFirst : Bool} {kind? : Option Kind}
    {text rest : List Char} {kind : Kind} {others : List (String × Json)}
    (read : readTagged (depth + 1) limit isFirst kind? text = .ok ((kind, others), rest)) :
    ∃ members, readMembers (readValue (depth + 1)) limit isFirst text = .ok (members, rest) ∧
      Tags members kind kind? ∧ others = untagged members := by
  induction limit generalizing isFirst kind? text others with
  | zero => cases read
  | succ limit ih =>
    simp only [readTagged, readMembers] at read ⊢
    obtain ⟨more, after, separator, read⟩ := andThenDecode_eq_ok.mp read
    rw [malformed_eq_ok.mp separator, andThen_ok]
    cases more with
    | false =>
      cases kind? with
      | none => cases read
      | some found =>
        cases read
        exact ⟨[], rfl, tags_nil.mpr rfl, rfl⟩
    | true =>
      simp only [if_true] at read ⊢
      obtain ⟨name, afterName, named, read⟩ := andThenDecode_eq_ok.mp read
      rw [malformed_eq_ok.mp named, andThen_ok]
      split at read
      next isTag =>
        subst isTag
        cases kind? with
        | some found => cases read
        | none =>
          obtain ⟨_, afterColon, colon, read⟩ := andThenDecode_eq_ok.mp read
          obtain ⟨kind', afterKind, tagged, read⟩ := andThenDecode_eq_ok.mp read
          obtain ⟨members, later, ⟨rfl, untold⟩, rfl⟩ := ih read
          rw [malformed_eq_ok.mp colon, andThen_ok, readKind_eq_ok.mp tagged, andThen_ok, later,
            andThen_ok]
          exact ⟨_, rfl, tags_cons_event.mpr ⟨rfl, rfl, rfl, untold⟩,
            (untagged_cons_event _ _).symm⟩
      next isOther =>
        obtain ⟨_, afterColon, colon, read⟩ := andThenDecode_eq_ok.mp read
        obtain ⟨item, afterItem, valued, read⟩ := andThenDecode_eq_ok.mp read
        obtain ⟨⟨kind', others'⟩, afterMembers, tagged, built⟩ := andThenDecode_eq_ok.mp read
        cases built
        obtain ⟨members, later, tags, rfl⟩ := ih tagged
        rw [malformed_eq_ok.mp colon, andThen_ok, malformed_eq_ok.mp valued, andThen_ok, later,
          andThen_ok]
        exact ⟨_, rfl, (tags_cons_other isOther).mpr tags,
          (untagged_cons_other isOther _ _).symm⟩

theorem Tags.readTagged {depth limit : Nat} {isFirst : Bool} {kind? : Option Kind}
    {text rest : List Char} {kind : Kind} {members : List (String × Json)}
    (tags : Tags members kind kind?)
    (read : readMembers (readValue (depth + 1)) limit isFirst text = .ok (members, rest)) :
    OrderEvent.readTagged (depth + 1) limit isFirst kind? text =
      .ok ((kind, untagged members), rest) := by
  induction limit generalizing isFirst kind? text members with
  | zero => cases read
  | succ limit ih =>
    simp only [OrderEvent.readTagged, readMembers] at read ⊢
    obtain ⟨more, after, separator, read⟩ := andThen_eq_ok.mp read
    rw [andThenDecode_eq_ok]
    refine ⟨more, after, malformed_eq_ok.mpr separator, ?_⟩
    cases more with
    | false =>
      cases read
      obtain rfl := tags_nil.mp tags
      rfl
    | true =>
      simp only [if_true] at read ⊢
      obtain ⟨name, afterName, named, read⟩ := andThen_eq_ok.mp read
      obtain ⟨_, afterColon, colon, read⟩ := andThen_eq_ok.mp read
      obtain ⟨item, afterItem, valued, read⟩ := andThen_eq_ok.mp read
      obtain ⟨members', afterMembers, others, built⟩ := andThen_eq_ok.mp read
      cases built
      rw [andThenDecode_eq_ok]
      refine ⟨name, afterName, malformed_eq_ok.mpr named, ?_⟩
      by_cases isTag : name = "event"
      · subst isTag
        obtain ⟨rfl, rfl, told⟩ := tags_cons_event.mp tags
        have later := ih told others
        simp [colon, readKind_eq_ok.mpr valued, malformed, andThenDecode, later,
          untagged_cons_event]
      · have later := ih ((tags_cons_other isTag).mp tags) others
        simp [isTag, colon, valued, malformed, andThenDecode, later, untagged_cons_other]

end Members

section Bodies

/-- The kind and the fields of a value, as the reader of events keeps them. -/
inductive Splits : Json → Kind → Fields → Prop where
  | object {members : List (String × Json)} {kind : Kind} :
      valuesOf "event" members = [.string kind.name] →
      Splits (.object members) kind (.named (untagged members))
  | array {items : List Json} {kind : Kind} :
      Splits (.array (.string kind.name :: items)) kind (.ordered items)

theorem describes_iff {value : Json} {event : OrderEvent} :
    Describes value event ↔
      ∃ kind fields, Splits value kind fields ∧ ofFields kind fields = .ok event := by
  constructor
  · rintro (named | ordered)
    · obtain ⟨kind, tagged, read⟩ := named_iff.mp named
      exact ⟨kind, _, .object tagged, read⟩
    · obtain ⟨kind, fields, rfl, read⟩ := ordered_iff.mp ordered
      exact ⟨kind, _, .array, read⟩
  · rintro ⟨kind, fields, tagged | _, read⟩
    · exact .object (named_iff.mpr ⟨kind, tagged, read⟩)
    · exact .array (ordered_iff.mpr ⟨kind, _, rfl, read⟩)

theorem readItems_tail {depth limit limit' : Nat} {text rest : List Char} {items : List Json}
    (read : readItems (readValue (depth + 1)) limit false text = .ok (items, rest))
    (enough : text.length ≤ limit') :
    readItems (readValue (depth + 1)) limit' false text = .ok (items, rest) := by
  rw [readItems_eq] at read ⊢
  have fewer := length_lt_of_readSeries separates_nextItem
    (readsElement_readValue (recognizes_readValue depth)) read
  exact readSeries_of_limit read (Nat.lt_of_lt_of_le fewer enough)

/-- The first item of an array may be read before the others. -/
theorem readItems_cons {depth : Nat} {text rest : List Char} {first : Json} {items : List Json} :
    readItems (readValue (depth + 1)) (text.length + 1) true text = .ok (first :: items, rest) ↔
      ∃ after afterFirst, nextItem true text = .ok (true, after) ∧
        readValue (depth + 1) after = .ok (first, afterFirst) ∧
        readItems (readValue (depth + 1)) (afterFirst.length + 1) false afterFirst =
          .ok (items, rest) := by
  constructor
  · intro read
    obtain ⟨more, after, separator, read⟩ := andThen_eq_ok.mp read
    cases more with
    | false => cases read
    | true =>
      obtain ⟨value, afterFirst, valued, read⟩ := andThen_eq_ok.mp read
      obtain ⟨items', afterItems, others, built⟩ := andThen_eq_ok.mp read
      cases built
      exact ⟨after, afterFirst, separator, valued, readItems_tail others (Nat.le_succ _)⟩
  · -- The limit for the whole array is not the one for its tail, but large enough.
    rintro ⟨after, afterFirst, separator, valued, others⟩
    have shorter : afterFirst.length ≤ text.length := by
      cases separates_nextItem.sound separator
      obtain ⟨taken, rfl, -⟩ := (recognizes_readValue depth).sound valued
      simp only [List.length_append]
      omega
    rw [readItems, separator, andThen_ok, if_pos rfl, valued, andThen_ok,
      readItems_tail others shorter, andThen_ok]

theorem Splits.not_scalar {double? : Numeral → Option Double} {text : List Char} {value : Json}
    {kind : Kind} {fields : Fields} (splits : Splits value kind fields) :
    ¬ ScalarText double? text value := by
  intro spelled
  cases splits with
  | object =>
    cases spelled with
    | number valid known => simpa using Numeral.value?_number known
  | array =>
    cases spelled with
    | number valid known => simpa using Numeral.value?_number known

theorem readFields_eq_ok {text rest : List Char} {kind : Kind} {fields : Fields} :
    readFields text = .ok ((kind, fields), rest) ↔
      ∃ value, readValue depthLimit text = .ok (value, rest) ∧ Splits value kind fields := by
  rw [show depthLimit = 126 + 1 + 1 from rfl, readValue, readFields]
  simp only [show depthLimit - 1 = 126 + 1 from rfl, Nat.add_one_ne_zero, if_false]
  constructor
  · intro read
    split at read
    next left skipped =>
      obtain ⟨⟨kind', others⟩, after, tagged, built⟩ := andThenDecode_eq_ok.mp read
      cases built
      obtain ⟨members, more, tags, rfl⟩ := members_of_readTagged tagged
      simp only [skipped, more, andThen_ok]
      exact ⟨.object members, rfl, .object tags⟩
    next left skipped =>
      obtain ⟨more, after, separator, read⟩ := andThenDecode_eq_ok.mp read
      cases more with
      | false => cases read
      | true =>
        obtain ⟨kind', afterKind, tagged, read⟩ := andThenDecode_eq_ok.mp read
        obtain ⟨items, afterItems, others, built⟩ := andThenDecode_eq_ok.mp read
        cases built
        have whole := readItems_cons.mpr ⟨after, afterKind, malformed_eq_ok.mp separator,
          readKind_eq_ok.mp tagged, malformed_eq_ok.mp others⟩
        simp only [skipped, whole, andThen_ok]
        exact ⟨.array (.string kind.name :: items), rfl, .array⟩
    next =>
      obtain ⟨found, after, -, built⟩ := andThenDecode_eq_ok.mp read
      cases built
  · rintro ⟨value, read, splits⟩
    split at read
    next left skipped =>
      obtain ⟨items, after, whole, built⟩ := andThen_eq_ok.mp read
      cases built
      cases splits
      obtain ⟨after, afterKind, separator, tagged, others⟩ := readItems_cons.mp whole
      simp [skipped, andThenDecode, malformed, separator, readKind_eq_ok.mpr tagged, others]
    next left skipped =>
      obtain ⟨members, after, whole, built⟩ := andThen_eq_ok.mp read
      cases built
      cases splits with
      | object tags =>
        have tagged : readTagged (126 + 1) (left.length + 1) true none left =
            .ok ((kind, untagged members), rest) :=
          Tags.readTagged tags whole
        simp only [skipped, andThenDecode, tagged]
    next =>
      obtain ⟨taken, -, spelled⟩ := recognizes_readScalar.sound read
      exact absurd spelled splits.not_scalar

/-- The reader of events reads a document and finds out what it describes. -/
theorem read_eq_ok {text : List Char} {event : OrderEvent} :
    read text = .ok event ↔
      ∃ value, DocumentText Numeral.scaled? text value ∧ Describes value event := by
  simp only [documentText_iff, describes_iff]
  constructor
  · intro ok
    unfold read at ok
    split at ok
    next => cases ok
    next kind fields rest split =>
      obtain ⟨value, valued, splits⟩ := readFields_eq_ok.mp split
      split at ok
      next => cases ok
      next event' made =>
        split at ok
        next => cases ok
        next ended =>
          cases ok
          exact ⟨value, ⟨rest, valued, readEnd_eq_ok.mp ended⟩, kind, fields, splits, made⟩
  · rintro ⟨value, ⟨rest, valued, ended⟩, kind, fields, splits, made⟩
    have split := readFields_eq_ok.mpr ⟨value, valued, splits⟩
    have last : readEnd rest = .ok () := readEnd_eq_ok.mpr ended
    simp [read, split, made, last]

/-- A processor of order events accepts a delivery exactly if its body is written in
their language, and refuses it for good otherwise.  Numerals have the range of doubles, up
to the roundings of the reader, and fields of cents take whole numbers of 64 bits. -/
theorem process_accepts (delivery : Delivery) :
    ((process delivery).ending = .returns .success ↔
        ∃ event, Written Numeral.scaled? delivery.body event) ∧
      ((process delivery).ending ≠ .returns .success →
        ∃ reason, (process delivery).ending = .returns (.terminal reason)) ∧
      ReadsRange Numeral.scaled? ∧
      ∀ (numeral : Numeral) (cents : Int),
        (∃ value, numeral.value? Numeral.scaled? = some value ∧ IsInteger value cents) ↔
          WritesInteger numeral cents := by
  simp only [Written, ← read_eq_ok, ← objection?_eq_none_iff]
  refine ⟨?accepted, ?refused, readsRange_scaled?, fun _ _ => isInteger_value?_iff⟩
  all_goals
    cases decoded : read delivery.body.toList with
    | error fault => simp [process, decoded]
    | ok event => cases objected : event.objection? <;> simp [process, decoded, objected]

/-- A paid order with a weight, which no field asks for. -/
def paidOrder : Delivery where
  id := "m-1"
  body :=
    "\x7b\"event\":\"paid\",\"order_id\":\"o-1\",\"payment_id\":\"p-1\"," ++
      "\"amount_cents\":1299,\"weight\":1.5\x7d"
  handle := ⟨"rh-1"⟩
  receiveCount := 1
  group := none

theorem process_accepts_paidOrder :
    Written Numeral.scaled? paidOrder.body (.paid "o-1" "p-1" 1299) ∧
      (process paidOrder).ending = .returns .success := by
  have decoded : read paidOrder.body.toList = .ok (.paid "o-1" "p-1" 1299) := by rfl
  have written : Written Numeral.scaled? paidOrder.body (.paid "o-1" "p-1" 1299) :=
    ⟨read_eq_ok.mp decoded, objection?_eq_none_iff.mp rfl⟩
  exact ⟨written, (process_accepts paidOrder).1.mpr ⟨_, written⟩⟩

/-- A cancelled order with a weight just below the largest double.  Taken as
`17976931348623157000 · 10 ^ 289`, it is rounded twice and lands beyond. -/
def heavyOrder : Delivery where
  id := "m-1"
  body :=
    "\x7b\"event\":\"cancelled\",\"order_id\":\"o-1\",\"weight\":1.7976931348623157000e308\x7d"
  handle := ⟨"rh-1"⟩
  receiveCount := 1
  group := none

def heavyWeight : Numeral where
  isNegative := false
  whole := ['1']
  fraction? := some "7976931348623157000".toList
  exponent? := some ⟨'e', [], "308".toList⟩

theorem heavyWeight_valid : heavyWeight.Valid where
  whole := by simp [Digits, heavyWeight]
  nonempty := by decide
  leading := by decide
  fraction := by
    rintro digits ⟨⟩
    exact ⟨by simp [Digits], by decide⟩
  exponent := by
    rintro exponent ⟨⟩
    exact ⟨.inl rfl, .inl rfl, by simp [Digits], by decide⟩

theorem quoted_of_plain (text : String)
    (plain : ∀ character ∈ text.toList,
      character ≠ '"' ∧ character ≠ '\\' ∧ 0x20 ≤ character.toNat) :
    Quoted ('"' :: (text.toList ++ ['"'])) text :=
  ⟨text.toList, rfl, .of_plain plain⟩

theorem heavyOrder_written : ∃ event, Written Numeral.nearest? heavyOrder.body event := by
  let form := ValueText Numeral.nearest? 126
  have member : ∀ {text : List Char} {value : Json} (name : String),
      (∀ character ∈ name.toList,
        character ≠ '"' ∧ character ≠ '\\' ∧ 0x20 ≤ character.toNat) →
      form text value →
      Padded (Member form) ('"' :: (name.toList ++ ['"']) ++ ':' :: text) (name, value) := by
    intro text value name plain formed
    exact padded_iff.mpr ⟨[], _, [], Blanks.nil,
      @Member.intro form _ [] _ _ _ (quoted_of_plain name plain) Blanks.nil (.of_form formed),
      Blanks.nil, by simp⟩
  obtain ⟨weight, known⟩ := Option.isSome_iff_exists.mp
    (show (heavyWeight.value? Numeral.nearest?).isSome = true by decide +kernel)
  have spelled : form heavyWeight.text weight := .scalar (.number heavyWeight_valid known)
  have kind := quoted_of_plain "cancelled" (by simp)
  have order := quoted_of_plain "o-1" (by simp)
  have listed := Listed.more (member "event" (by simp) (.scalar (.string kind)))
    (.more (member "order_id" (by simp) (.scalar (.string order)))
      (.one (member "weight" (by simp) spelled)))
  refine ⟨.cancelled "o-1" none, ⟨_, padded_iff.mpr ⟨[], _, [], Blanks.nil,
    NestedText.object (.full listed), Blanks.nil, rfl⟩, ?_⟩, ?_⟩
  · exact .object (.cancelled rfl rfl rfl)
  · exact ⟨⟨'o', by simp [orderId], by decide⟩, trivial⟩

/-- Within the range of doubles is not yet within the range of the reader. -/
theorem process_refuses_heavyOrder :
    ¬ ((process heavyOrder).ending = .returns .success ↔
      ∃ event, Written Numeral.nearest? heavyOrder.body event) := by
  intro accepted
  have refused : (process heavyOrder).ending ≠ .returns .success := by decide +kernel
  exact refused (accepted.mpr heavyOrder_written)

end Bodies

end AtLeastOnce.OrderEvent
