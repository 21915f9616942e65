import AtLeastOnce.Proofs.Settings.Texts

/-!
# What a setting takes a scalar for

A setting is read from a scalar of its own type as it is, and from one of another type
where that makes sense: a truth value counts as one or zero, and any scalar but null shows
as a text.  The relations below say so without the readers, which follow them exactly.
-/

namespace AtLeastOnce

open Config

namespace Config

/-- A word for a truth value, in letters of any case. -/
inductive Word (text : String) : Bool → Prop where
  | yes : Settings.lowered text ∈ ["true", "on", "yes"] → Word text true
  | no : Settings.lowered text ∈ ["false", "off", "no"] → Word text false

namespace Scalar

inductive Shows : Scalar → String → Prop where
  | truth (value : Bool) : Shows (.bool value) (if value then "true" else "false")
  | integer (value : Int) : Shows (.integer value) (toString value)
  | decimal (value : Double) : Shows (.decimal value) (value.text Double.plainLayout)
  | text (value : String) : Shows (.text value) value

/-- An integer within bounds; a decimal number is rounded, and moved to the nearer bound. -/
inductive Counts (least greatest : Int) (numeral? : List Char → Option Int) :
    Scalar → Int → Prop where
  | truth (value : Bool) : Counts least greatest numeral? (.bool value) (if value then 1 else 0)
  | integer {value : Int} : least ≤ value → value ≤ greatest →
      Counts least greatest numeral? (.integer value) value
  | decimal (value : Double) :
      Counts least greatest numeral? (.decimal value) (value.toInt least greatest)
  | word {text : String} {value : Bool} : Word text value →
      Counts least greatest numeral? (.text text) (if value then 1 else 0)
  | numeral {text : String} {value : Int} : (∀ truth, ¬ Word text truth) →
      numeral? text.toList = some value → Counts least greatest numeral? (.text text) value

/-- A number for a field that holds a double. -/
inductive Measures : Scalar → Double → Prop where
  | truth (value : Bool) : Measures (.bool value) (.ofInt (if value then 1 else 0))
  | integer (value : Int) : Measures (.integer value) (.ofInt value)
  | decimal (value : Double) : Measures (.decimal value) value
  | word {text : String} {value : Bool} : Word text value →
      Measures (.text text) (.ofInt (if value then 1 else 0))
  | numeral {text : String} {value : Double} : (∀ truth, ¬ Word text truth) →
      Double.read? text.toList = some value → Measures (.text text) value

/-- A truth value; a number is true if it is not zero. -/
inductive Affirms : Scalar → Bool → Prop where
  | truth (value : Bool) : Affirms (.bool value) value
  | integer (value : Int) : Affirms (.integer value) (value ≠ 0)
  | decimal (value : Double) :
      Affirms (.decimal value) !(value.le .zero && Double.zero.le value)
  | word {text : String} {value : Bool} : Word text value → Affirms (.text text) value
  | one : Affirms (.text "1") true
  | zero : Affirms (.text "0") false

/-- An integer of 64 bits. -/
def CountsSigned : Scalar → Int → Prop :=
  Counts (-9223372036854775808) 9223372036854775807
    (Decimal.readInt? (-9223372036854775808) 9223372036854775807)

/-- A natural number of 64 bits. -/
def CountsNatural (scalar : Scalar) (value : Nat) : Prop :=
  Counts 0 18446744073709551615
    (fun text => (Decimal.readBounded? 18446744073709551615 text).map Int.ofNat) scalar value

end Scalar

end Config

/-- The values that a setting takes a scalar for. -/
def Setting.Takes : (setting : Setting) → Scalar → setting.Value → Prop
  | .url, scalar, value | .level, scalar, value => scalar.Shows value
  | .deadLetterUrl, scalar, value | .region, scalar, value | .endpointUrl, scalar, value
  | .accessKeyId, scalar, value | .secretAccessKey, scalar, value =>
      match value with
      | none => scalar = .null
      | some text => scalar.Shows text
  | .maxMessages, scalar, value | .waitSeconds, scalar, value =>
      scalar.CountsSigned value ∧ -2147483648 ≤ value ∧ value ≤ 2147483647
  | .maxInFlight, scalar, value | .graceSeconds, scalar, value
  | .initialMilliseconds, scalar, value | .maxMilliseconds, scalar, value
  | .timeoutSeconds, scalar, value => scalar.CountsNatural value
  | .maxAttempts, scalar, value => scalar.CountsNatural value ∧ value < 4294967296
  | .port, scalar, value => scalar.CountsNatural value ∧ value < 65536
  | .multiplier, scalar, value => scalar.Measures value
  | .json, scalar, value => scalar.Affirms value

namespace Config

variable {α β : Type} {text : String} {scalar : Scalar}

theorem word?_eq_some_iff {value : Bool} : Field.word? text = some value ↔ Word text value := by
  constructor
  · intro read
    unfold Field.word? at read
    dsimp only at read
    split at read
    next member =>
      cases read
      exact .yes (by simpa [Settings.lowered, or_assoc] using member)
    next =>
      split at read
      next member =>
        cases read
        exact .no (by simpa [Settings.lowered, or_assoc] using member)
      next => cases read
  · intro word
    cases word with
    | yes member | no member =>
        simp only [Settings.lowered, List.mem_cons, List.not_mem_nil, or_false] at member
        rcases member with same | same | same <;> simp [Field.word?, same]

theorem word?_eq_none_iff : Field.word? text = none ↔ ∀ truth, ¬ Word text truth := by
  simp only [← word?_eq_some_iff]
  exact Option.eq_none_iff_forall_ne_some

theorem Scalar.Counts.nonneg {greatest : Nat} {numeral? : List Char → Option Nat} {value : Int}
    (counts : Scalar.Counts 0 greatest (fun text => (numeral? text).map Int.ofNat) scalar value) :
    0 ≤ value := by
  cases counts with
  | truth truth | word =>
      split <;> decide
  | integer least => exact least
  | decimal number =>
      unfold Double.toInt
      dsimp only
      split <;> omega
  | numeral _ read =>
      obtain ⟨number, _, rfl⟩ := Option.map_eq_some_iff.mp read
      exact Int.natCast_nonneg number

/-- A reader takes scalars for the values that a relation tells, and reads nothing else. -/
structure Converts (decode : Field → Except Misfit α) (takes : Scalar → α → Prop) : Prop where
  leaf (key : String) (origin : Option String) (scalar : Scalar) (value : α) :
    decode ⟨key, .leaf origin scalar⟩ = .ok value ↔ takes scalar value
  list (key : String) (origin : Option String) (items : List Tree) (value : α) :
    decode ⟨key, .list origin items⟩ ≠ .ok value
  table (key : String) (origin : Option String) (entries : Entries) (value : α) :
    decode ⟨key, .table origin entries⟩ ≠ .ok value

namespace Converts

theorem asText : Converts Field.asText Scalar.Shows where
  leaf key origin scalar value := by
    constructor
    · intro read
      cases scalar <;> cases read <;> constructor
    · rintro ⟨⟩ <;> rfl
  list _ _ _ _ := nofun
  table _ _ _ _ := nofun

theorem asOptionalText : Converts Field.asOptionalText fun scalar value? =>
    match value? with
    | none => scalar = .null
    | some text => scalar.Shows text where
  leaf key origin scalar value? := by
    cases value? with
    | none =>
        cases scalar <;>
          simp [Field.asOptionalText, Field.asText, Field.scalarText?, Except.map]
    | some text =>
        cases scalar with
        | null => constructor <;> rintro ⟨⟩
        | bool | integer | decimal | text =>
            dsimp only
            rw [← asText.leaf key origin]
            simp [Field.asOptionalText, Field.asText, Field.scalarText?, Except.map]
  list _ _ _ _ := nofun
  table _ _ _ _ := nofun

theorem asInteger (least greatest : Int) (excess : Wanted) (numeral? : List Char → Option Int) :
    Converts (fun field => field.asInteger least greatest excess numeral?)
      (Scalar.Counts least greatest numeral?) where
  leaf key origin scalar value := by
    constructor
    · intro read
      cases scalar with
      | null => cases read
      | bool truth =>
          cases read
          exact .truth truth
      | decimal number =>
          cases read
          exact .decimal number
      | integer number =>
          simp only [Field.asInteger] at read
          split at read
          next within =>
            cases read
            simp only [Bool.and_eq_true, decide_eq_true_eq] at within
            exact .integer within.1 within.2
          next => cases read
      | text text =>
          simp only [Field.asInteger] at read
          split at read
          next word =>
            cases read
            exact .word (word?_eq_some_iff.mp word)
          next unword =>
            split at read
            next numeral =>
              cases read
              exact .numeral (word?_eq_none_iff.mp unword) numeral
            next => cases read
    · intro counts
      cases counts with
      | truth | decimal => rfl
      | integer lower upper => simp [Field.asInteger, lower, upper]
      | word word => simp [Field.asInteger, word?_eq_some_iff.mpr word, Field.ofBool]
      | numeral unword numeral =>
          simp [Field.asInteger, word?_eq_none_iff.mpr unword, numeral]
  list _ _ _ _ := nofun
  table _ _ _ _ := nofun

theorem asDouble : Converts Field.asDouble Scalar.Measures where
  leaf key origin scalar value := by
    constructor
    · intro read
      cases scalar with
      | null => cases read
      | bool truth =>
          rw [Field.asDouble, Except.ok.injEq] at read
          subst read
          exact .truth truth
      | decimal number =>
          rw [Field.asDouble, Except.ok.injEq] at read
          subst read
          exact .decimal number
      | integer number =>
          rw [Field.asDouble, Except.ok.injEq] at read
          subst read
          exact .integer number
      | text text =>
          simp only [Field.asDouble] at read
          split at read
          next word =>
            rw [Except.ok.injEq] at read
            subst read
            exact .word (word?_eq_some_iff.mp word)
          next unword =>
            split at read
            next numeral =>
              cases read
              exact .numeral (word?_eq_none_iff.mp unword) numeral
            next => cases read
    · intro measures
      cases measures with
      | truth | decimal | integer => rfl
      | word word => simp [Field.asDouble, word?_eq_some_iff.mpr word, Field.ofBool]
      | numeral unword numeral =>
          simp [Field.asDouble, word?_eq_none_iff.mpr unword, numeral]
  list _ _ _ _ := nofun
  table _ _ _ _ := nofun

theorem asBool : Converts Field.asBool Scalar.Affirms where
  leaf key origin scalar value := by
    constructor
    · intro read
      cases scalar with
      | null => cases read
      | bool truth =>
          rw [Field.asBool, Except.ok.injEq] at read
          subst read
          exact .truth truth
      | decimal number =>
          rw [Field.asBool, Except.ok.injEq] at read
          subst read
          exact .decimal number
      | integer number =>
          rw [Field.asBool, Except.ok.injEq] at read
          subst read
          exact .integer number
      | text text =>
          simp only [Field.asBool] at read
          split at read
          next word =>
            cases read
            exact .word (word?_eq_some_iff.mp word)
          next =>
            split at read
            next one =>
              cases read
              rw [one]
              exact .one
            next =>
              split at read
              next zero =>
                cases read
                rw [zero]
                exact .zero
              next => cases read
    · intro affirms
      cases affirms with
      | truth | decimal | integer => rfl
      | word word => simp [Field.asBool, word?_eq_some_iff.mpr word]
      | one | zero => rfl
  list _ _ _ _ := nofun
  table _ _ _ _ := nofun

/-- What is read is kept if a test allows. -/
theorem filter {decode : Field → Except Misfit α} {takes : Scalar → α → Prop}
    (converts : Converts decode takes) (allows : α → Prop) [DecidablePred allows]
    (misfit : Field → α → Misfit) :
    Converts
      (fun field => (decode field).bind fun value =>
        if allows value then .ok value else .error (misfit field value))
      fun scalar value => takes scalar value ∧ allows value := by
  have kept : ∀ field value, ((decode field).bind fun value =>
      if allows value then .ok value else .error (misfit field value)) = .ok value ↔
        decode field = .ok value ∧ allows value := by
    intro field value
    cases decode field with
    | error => simp [Except.bind]
    | ok read =>
        simp only [Except.bind, Except.ok.injEq]
        split
        next allowed =>
          rw [Except.ok.injEq]
          exact ⟨fun same => ⟨same, same ▸ allowed⟩, And.left⟩
        next refused =>
          refine ⟨nofun, ?_⟩
          rintro ⟨rfl, allowed⟩
          exact (refused allowed).elim
  constructor
  · intro key origin scalar value
    rw [kept, converts.leaf]
  · intro key origin items value read
    exact converts.list key origin items value ((kept _ _).mp read).1
  · intro key origin entries value read
    exact converts.table key origin entries value ((kept _ _).mp read).1

theorem asInt32 : Converts Field.asInt32 fun scalar value =>
    scalar.CountsSigned value ∧ -2147483648 ≤ value ∧ value ≤ 2147483647 := by
  have wide : Converts Field.asInt64 Scalar.CountsSigned := asInteger _ _ _ _
  have narrow := wide.filter (fun value => -2147483648 ≤ value ∧ value ≤ 2147483647)
    fun field value => ⟨.signed value, .signed32, field.key, none⟩
  have same : Field.asInt32 = fun field => field.asInt64.bind fun value =>
      if -2147483648 ≤ value ∧ value ≤ 2147483647 then .ok value
      else .error ⟨.signed value, .signed32, field.key, none⟩ := by
    funext field
    simp [Field.asInt32]
  rw [same]
  exact narrow

theorem asNat64 : Converts Field.asNat64 Scalar.CountsNatural where
  leaf key origin scalar value := by
    have wide := (asInteger 0 18446744073709551615 .unsigned64 fun text =>
      (Decimal.readBounded? 18446744073709551615 text).map Int.ofNat).leaf key origin scalar
    constructor
    · intro read
      obtain ⟨number, counted, rfl⟩ := map_eq_ok.mp read
      have counts := (wide number).mp counted
      rw [Scalar.CountsNatural, Int.toNat_of_nonneg counts.nonneg]
      exact counts
    · intro counts
      exact map_eq_ok.mpr ⟨value, (wide value).mpr counts, Int.toNat_natCast value⟩
  list _ _ _ _ := nofun
  table _ _ _ _ := nofun

theorem asNarrowNat (bits : Nat) (wanted : Wanted) :
    Converts (fun field => field.asNarrowNat bits wanted) fun scalar value =>
      scalar.CountsNatural value ∧ value < Nat.pow 2 bits :=
  asNat64.filter (fun value => value < Nat.pow 2 bits) fun field value =>
    ⟨.unsigned value, wanted, field.key, none⟩

end Converts

end Config

/-- What the text of a variable is read as: a truth value, an integer of 64 bits or a decimal
number if it can be, and itself otherwise. -/
inductive Settings.ReadAs (text : String) : Scalar → Prop where
  | truth (value : Bool) : lowered text = (if value then "true" else "false") →
      ReadAs text (.bool value)
  | integer {number : Int} : ¬ IsTruth (lowered text) → integer? text = some number →
      ReadAs text (.integer number)
  | decimal {number : Double} : ¬ IsTruth (lowered text) → integer? text = none →
      Double.read? text.toList = some number → ReadAs text (.decimal number)
  | text : ¬ IsTruth (lowered text) → integer? text = none →
      Double.read? text.toList = none → ReadAs text (.text text)

theorem Settings.readAs_scalar (text : String) : ReadAs text (Environment.scalar text) := by
  unfold Environment.scalar
  dsimp only
  split
  next yes => exact .truth true yes
  next notYes =>
    split
    next no => exact .truth false no
    next notNo =>
      have untrue : ¬ IsTruth (lowered text) := fun truth => truth.elim notYes notNo
      split
      next number whole => exact .integer untrue whole
      next whole =>
        split
        next number read => exact .decimal untrue whole read
        next read => exact .text untrue whole read

/-- Nothing else is it read as. -/
theorem Settings.ReadAs.eq_scalar {text : String} {scalar : Scalar} (reads : ReadAs text scalar) :
    scalar = Environment.scalar text := by
  unfold Environment.scalar
  dsimp only
  cases reads with
  | truth value word =>
      unfold lowered at word
      cases value <;> simp [word]
  | integer untrue whole =>
      simp only [IsTruth, lowered, integer?, not_or] at untrue whole
      rw [if_neg untrue.1, if_neg untrue.2, whole]
  | decimal untrue whole read | text untrue whole read =>
      simp only [IsTruth, lowered, integer?, not_or] at untrue whole
      rw [if_neg untrue.1, if_neg untrue.2, whole]
      simp only [read]

/-- Every setting is read as what it takes a scalar for. -/
theorem Setting.converts (setting : Setting) : Converts setting.decode setting.Takes := by
  cases setting with
  | url | level => exact .asText
  | deadLetterUrl | region | endpointUrl | accessKeyId | secretAccessKey => exact .asOptionalText
  | maxMessages | waitSeconds => exact .asInt32
  | maxInFlight | graceSeconds | initialMilliseconds | maxMilliseconds | timeoutSeconds =>
      exact .asNat64
  | maxAttempts | port => exact .asNarrowNat _ _
  | multiplier => exact .asDouble
  | json => exact .asBool

end AtLeastOnce
