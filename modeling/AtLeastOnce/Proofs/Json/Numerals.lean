import AtLeastOnce.Proofs.Json.Strings

/-!
# Reading numerals

The reader cuts a number while it reads.  Taken apart into its runs of digits, a
text leaves each of its stages one way to go, which gives the double of a whole
numeral in one expression.
-/

namespace AtLeastOnce.Json

section Runs

variable {digits rest : List Char}

theorem Digits.tail {digit : Char} (run : Digits (digit :: digits)) : Digits digits :=
  fun character member => run character (List.mem_cons_of_mem _ member)

theorem Digits.head {digit : Char} (run : Digits (digit :: digits)) : digit.isDigit = true :=
  run digit List.mem_cons_self

theorem exists_digits (text : List Char) :
    ∃ digits rest, text = digits ++ rest ∧ Digits digits ∧ startsWithDigit rest = false := by
  refine ⟨text.takeWhile Char.isDigit, text.dropWhile Char.isDigit,
    List.takeWhile_append_dropWhile.symm, List.all_eq_true.mp List.all_takeWhile, ?_⟩
  cases left : text.dropWhile Char.isDigit with
  | nil => rfl
  | cons character rest =>
    have stopped := List.head?_dropWhile_not Char.isDigit text
    simpa [left, startsWithDigit] using stopped

theorem dropWhile_digits (run : Digits digits) (stops : startsWithDigit rest = false) :
    (digits ++ rest).dropWhile Char.isDigit = rest := by
  rw [List.dropWhile_append_of_pos run]
  cases rest with
  | nil => rfl
  | cons character rest =>
    have other : character.isDigit = false := stops
    simp [other]

theorem takeWhile_digits (run : Digits digits) (stops : startsWithDigit rest = false) :
    (digits ++ rest).takeWhile Char.isDigit = digits := by
  rw [List.takeWhile_append_of_pos run]
  cases rest with
  | nil => simp
  | cons character rest =>
    have other : character.isDigit = false := stops
    simp [other]

theorem startsWithDigit_append (run : Digits digits) (stops : startsWithDigit rest = false) :
    startsWithDigit (digits ++ rest) = !digits.isEmpty := by
  cases digits with
  | nil => simpa using stops
  | cons digit digits => simpa [startsWithDigit] using run.head

theorem digitAt_le {digit : Char} (isDigit : digit.isDigit = true) : digitAt digit ≤ 9 := by
  simp only [Char.isDigit, Bool.and_eq_true, decide_eq_true_eq] at isDigit
  have upper : digit.toNat ≤ 57 := isDigit.2
  simp only [digitAt, Decimal.digitValue]
  have zero : '0'.toNat = 48 := rfl
  omega

/-- The number that goes on from a value with some digits. -/
def extended (value : Nat) (digits : List Char) : Nat :=
  digits.foldl (fun value digit => 10 * value + Decimal.digitValue digit) value

theorem extended_cons (value : Nat) (digit : Char) (digits : List Char) :
    extended value (digit :: digits) = extended (value * 10 + digitAt digit) digits := by
  simp [extended, digitAt, Nat.mul_comm]

theorem numberOf_eq_extended (digits : List Char) : numberOf digits = extended 0 digits := rfl

theorem le_extended (value : Nat) (digits : List Char) : value ≤ extended value digits := by
  induction digits generalizing value with
  | nil => exact Nat.le_refl _
  | cons digit digits ih =>
    rw [extended_cons]
    exact Nat.le_trans (by omega) (ih _)

end Runs

section Cutting

theorem takeDigits_append {digits rest : List Char} (stops : startsWithDigit rest = false)
    (value taken : Nat) (run : Digits digits) :
    takeDigits value taken (digits ++ rest) =
      ⟨(takeDigits value taken digits).value, (takeDigits value taken digits).taken,
        (takeDigits value taken digits).rest ++ rest⟩ := by
  induction digits generalizing value taken with
  | nil =>
    cases rest with
    | nil => rfl
    | cons character rest =>
      have other : character.isDigit = false := stops
      simp [takeDigits, other]
  | cons digit digits ih =>
    simp only [List.cons_append, takeDigits]
    split
    · exact ih _ _ run.tail
    · rfl

theorem takeDigits_split (value taken : Nat) (digits : List Char) :
    ∃ front, digits = front ++ (takeDigits value taken digits).rest ∧
      (takeDigits value taken digits).taken = taken + front.length ∧
      (takeDigits value taken digits).value = extended value front := by
  induction digits generalizing value taken with
  | nil => exact ⟨[], rfl, rfl, rfl⟩
  | cons digit digits ih =>
    simp only [takeDigits]
    split
    · obtain ⟨front, same, count, reached⟩ := ih (value * 10 + digitAt digit) (taken + 1)
      refine ⟨digit :: front, congrArg (digit :: ·) same, ?_, ?_⟩
      · simp only [count, List.length_cons]
        omega
      · rw [reached, extended_cons]
    · exact ⟨[], rfl, rfl, rfl⟩

theorem Digits.takeDigits_rest {digits : List Char} (run : Digits digits) (value taken : Nat) :
    Digits (takeDigits value taken digits).rest := by
  obtain ⟨front, same, -⟩ := takeDigits_split value taken digits
  intro character member
  exact run character (same ▸ List.mem_append_right front member)

theorem takeDigits_of_fits {digits : List Char} {value : Nat} (taken : Nat) (run : Digits digits)
    (fits : extended value digits ≤ Decimal.greatestNat64) :
    takeDigits value taken digits = ⟨extended value digits, taken + digits.length, []⟩ := by
  induction digits generalizing value taken with
  | nil => rfl
  | cons digit digits ih =>
    rw [extended_cons] at fits ⊢
    have small := Nat.le_trans (le_extended _ digits) fits
    simp only [takeDigits, run.head, small, decide_true, Bool.and_self, if_true,
      ih (taken + 1) run.tail fits, List.length_cons]
    congr 1
    omega

theorem takeDigits_rest_ne_nil {digits : List Char} {value : Nat} (taken : Nat)
    (small : value ≤ Decimal.greatestNat64)
    (large : Decimal.greatestNat64 < extended value digits) :
    (takeDigits value taken digits).rest ≠ [] := by
  induction digits generalizing value taken with
  | nil => exact absurd small (Nat.not_le.mpr large)
  | cons digit digits ih =>
    rw [extended_cons] at large
    simp only [takeDigits]
    split
    next fits =>
      simp only [Bool.and_eq_true, decide_eq_true_eq] at fits
      exact ih _ fits.2 large
    next => exact List.cons_ne_nil _ _

end Cutting

section Exponents

def signedDecimal (positive : Bool) (value : Double) : Json := .decimal (signed positive value)

theorem finishDecimal_eq_ok {positive : Bool} {significand : Nat} {power : Int}
    {text rest : List Char} {value : Json} :
    finishDecimal positive significand power text = .ok (value, rest) ↔
      rest = text ∧ (scale? significand power).map (signedDecimal positive) = some value := by
  unfold finishDecimal
  cases scale? significand power with
  | none => simp [stopBefore]
  | some double => simp [signedDecimal, and_comm, eq_comm]

theorem exponentDigits_of_fits {digits rest : List Char} {value : Nat} (run : Digits digits)
    (stops : startsWithDigit rest = false) (fits : extended value digits ≤ 2147483647) :
    exponentDigits value (digits ++ rest) = (extended value digits, rest, true) := by
  induction digits generalizing value with
  | nil =>
    cases rest with
    | nil => rfl
    | cons character rest =>
      have other : character.isDigit = false := stops
      simp [exponentDigits, other, extended]
  | cons digit digits ih =>
    rw [extended_cons] at fits ⊢
    have small := Nat.le_trans (le_extended _ digits) fits
    simp only [List.cons_append, exponentDigits, run.head, small, if_true, ih run.tail fits]

theorem exponentDigits_of_large {digits rest : List Char} {value : Nat} (run : Digits digits)
    (stops : startsWithDigit rest = false) (small : value ≤ 2147483647)
    (large : 2147483647 < extended value digits) :
    ∃ reached left, exponentDigits value (digits ++ rest) = (reached, left, false) ∧
      left.dropWhile Char.isDigit = rest := by
  induction digits generalizing value with
  | nil => exact absurd small (Nat.not_le.mpr large)
  | cons digit digits ih =>
    rw [extended_cons] at large
    simp only [List.cons_append, exponentDigits, run.head, if_true]
    split
    next fits => exact ih run.tail fits large
    next => exact ⟨_, _, rfl, dropWhile_digits run.tail stops⟩

variable {positive isPositive : Bool} {significand : Nat} {power : Int}

theorem readExponentDigits_append {digits rest left : List Char} {value : Json}
    (run : Digits digits) (nonempty : digits ≠ []) (stops : startsWithDigit rest = false) :
    readExponentDigits positive significand power isPositive (digits ++ rest) =
        .ok (value, left) ↔
      left = rest ∧
        (scaledBy? significand power isPositive (numberOf digits)).map
          (signedDecimal positive) = some value := by
  cases digits with
  | nil => exact absurd rfl nonempty
  | cons digit digits =>
    have whole : numberOf (digit :: digits) = extended (digitAt digit) digits := by
      rw [numberOf_eq_extended, extended_cons, Nat.zero_mul, Nat.zero_add]
    have small := digitAt_le run.head
    simp only [List.cons_append, readExponentDigits, run.head, Bool.not_true,
      Bool.false_eq_true, if_false, whole, scaledBy?]
    by_cases fits : extended (digitAt digit) digits ≤ 2147483647
    · rw [exponentDigits_of_fits run.tail stops fits, if_pos fits]
      exact finishDecimal_eq_ok
    · obtain ⟨reached, stopped, read, dropped⟩ :=
        exponentDigits_of_large run.tail stops (by omega) (Nat.not_le.mp fits)
      rw [read, if_neg fits]
      by_cases tooLarge : (significand ≠ 0 && isPositive) = true
      · simp only [tooLarge, if_true, stopBefore, Bool.false_eq_true, if_false, reduceCtorEq,
          Option.map_none, and_false]
      · simp only [Bool.false_eq_true, if_false, tooLarge, dropped, Except.ok.injEq,
          Prod.mk.injEq, Option.map_some, Option.some.injEq, signedDecimal]
        exact ⟨fun ⟨same, ended⟩ => ⟨ended.symm, same⟩, fun ⟨ended, same⟩ => ⟨same, ended.symm⟩⟩

def DigitsEnd (rest : List Char) : Prop := startsWithDigit rest = false

theorem recognizes_readExponentDigits :
    Recognizes (readExponentDigits positive significand power isPositive)
      (fun taken value => Digits taken ∧ taken ≠ [] ∧
        (scaledBy? significand power isPositive (numberOf taken)).map
          (signedDecimal positive) = some value)
      DigitsEnd where
  sound := by
    intro text rest value read
    obtain ⟨digits, left, rfl, run, stops⟩ := exists_digits text
    by_cases nonempty : digits = []
    · subst nonempty
      cases left with
      | nil => cases read
      | cons character left =>
        have other : character.isDigit = false := stops
        simp [readExponentDigits, other, stopAfterNext] at read
    · obtain ⟨rfl, known⟩ := (readExponentDigits_append run nonempty stops).mp read
      exact ⟨digits, rfl, run, nonempty, known⟩
  complete := by
    rintro taken rest value ⟨run, nonempty, known⟩ stops
    exact (readExponentDigits_append run nonempty stops).mpr ⟨rfl, known⟩

theorem recognizes_readExponent {mark : Char} (isMark : mark = 'e' ∨ mark = 'E') :
    Recognizes (readExponent positive significand power)
      (fun taken value => ∃ exponent : Exponent, exponent.Valid ∧ exponent.text = mark :: taken ∧
        (scaled? significand power (some exponent)).map (signedDecimal positive) = some value)
      DigitsEnd where
  sound := by
    intro text rest value read
    unfold readExponent at read
    split at read
    next left =>
      obtain ⟨digits, rfl, run, nonempty, known⟩ := recognizes_readExponentDigits.sound read
      exact ⟨'+' :: digits, rfl, ⟨mark, ['+'], digits⟩, ⟨isMark, .inr (.inl rfl), run, nonempty⟩,
        rfl, known⟩
    next left =>
      obtain ⟨digits, rfl, run, nonempty, known⟩ := recognizes_readExponentDigits.sound read
      exact ⟨'-' :: digits, rfl, ⟨mark, ['-'], digits⟩, ⟨isMark, .inr (.inr rfl), run, nonempty⟩,
        rfl, known⟩
    next =>
      obtain ⟨digits, rfl, run, nonempty, known⟩ := recognizes_readExponentDigits.sound read
      exact ⟨digits, rfl, ⟨mark, [], digits⟩, ⟨isMark, .inl rfl, run, nonempty⟩, rfl, known⟩
  complete := by
    rintro taken rest value
      ⟨⟨mark', sign, digits⟩, ⟨-, signs, run, nonempty⟩, spelled, known⟩ stops
    obtain ⟨rfl, rfl⟩ : mark' = mark ∧ sign ++ digits = taken := by
      simpa [Exponent.text] using spelled
    have read : ∀ isPositive, isPositive = decide (sign ≠ ['-']) →
        readExponentDigits positive significand power isPositive (digits ++ rest) =
          .ok (value, rest) := by
      rintro isPositive rfl
      exact recognizes_readExponentDigits.complete ⟨run, nonempty, known⟩ stops
    rcases signs with rfl | rfl | rfl
    · cases digits with
      | nil => exact absurd rfl nonempty
      | cons digit digits =>
        have isDigit := run.head
        unfold readExponent
        split
        next same => simp at same; simp [same] at isDigit
        next same => simp at same; simp [same] at isDigit
        next => exact read true rfl
    · exact read true rfl
    · exact read false rfl

end Exponents

section Fractions

/-- Nothing follows that could belong to a number. -/
def NumberEnds (rest : List Char) : Prop :=
  ∀ character ∈ rest.head?, character.isDigit = false ∧ character ≠ '.' ∧ character ≠ 'e' ∧
    character ≠ 'E'

theorem NumberEnds.digitsEnd {rest : List Char} (ended : NumberEnds rest) : DigitsEnd rest := by
  cases rest with
  | nil => rfl
  | cons character rest => exact (ended character rfl).1

theorem NumberEnds.noExponent {rest : List Char} (ended : NumberEnds rest) :
    startsWithExponent rest = false := by
  cases rest with
  | nil => rfl
  | cons character rest =>
    obtain ⟨-, -, small, capital⟩ := ended character rfl
    simp [startsWithExponent, small, capital]

theorem startsWithExponent_iff {text : List Char} :
    startsWithExponent text = true ↔
      ∃ mark rest, text = mark :: rest ∧ (mark = 'e' ∨ mark = 'E') := by
  cases text with
  | nil => simp [startsWithExponent]
  | cons mark rest => simp [startsWithExponent]

theorem exponentText_digitsEnd {exponent? : Option Exponent} {rest : List Char}
    (valid : ∀ exponent ∈ exponent?, exponent.Valid) (ended : NumberEnds rest) :
    DigitsEnd (exponentText exponent? ++ rest) := by
  cases exponent? with
  | none => exact ended.digitsEnd
  | some exponent =>
    rcases (valid exponent rfl).mark with small | capital
    · simp [DigitsEnd, exponentText, Exponent.text, startsWithDigit, small]
    · simp [DigitsEnd, exponentText, Exponent.text, startsWithDigit, capital]

variable {positive : Bool} {significand : Nat} {power : Int}

theorem exponent_of_readExponent {text rest : List Char} {value : Json}
    (starts : startsWithExponent text = true)
    (read : readExponent positive significand power text.tail = .ok (value, rest)) :
    ∃ exponent : Exponent, exponent.Valid ∧ text = exponent.text ++ rest ∧
      (scaled? significand power (some exponent)).map (signedDecimal positive) = some value := by
  obtain ⟨mark, left, rfl, isMark⟩ := startsWithExponent_iff.mp starts
  obtain ⟨taken, same, exponent, valid, spelled, known⟩ :=
    (recognizes_readExponent isMark).sound read
  refine ⟨exponent, valid, ?_, known⟩
  rw [spelled]
  exact congrArg (mark :: ·) same

theorem Exponent.Valid.startsWithExponent {exponent : Exponent} (valid : exponent.Valid)
    (rest : List Char) : Json.startsWithExponent (exponent.text ++ rest) = true :=
  startsWithExponent_iff.mpr ⟨exponent.mark, _, rfl, valid.mark⟩

theorem Exponent.Valid.readExponent {exponent : Exponent} (valid : exponent.Valid)
    {rest : List Char} {value : Json} (ended : DigitsEnd rest)
    (known : (scaled? significand power (some exponent)).map (signedDecimal positive) =
      some value) :
    Json.readExponent positive significand power (exponent.text ++ rest).tail =
      .ok (value, rest) :=
  (recognizes_readExponent valid.mark).complete ⟨exponent, valid, rfl, known⟩ ended

theorem recognizes_exponentOrEnd :
    Recognizes (exponentOrEnd positive significand power)
      (fun taken value => ∃ exponent? : Option Exponent,
        (∀ exponent ∈ exponent?, exponent.Valid) ∧ taken = exponentText exponent? ∧
          (scaled? significand power exponent?).map (signedDecimal positive) = some value)
      NumberEnds where
  sound := by
    intro text rest value read
    unfold exponentOrEnd at read
    split at read
    next starts =>
      obtain ⟨exponent, valid, rfl, known⟩ := exponent_of_readExponent starts read
      exact ⟨exponent.text, rfl, some exponent, by rintro _ ⟨⟩; exact valid, rfl, known⟩
    next =>
      obtain ⟨rfl, known⟩ := finishDecimal_eq_ok.mp read
      exact ⟨[], rfl, none, by simp, rfl, known⟩
  complete := by
    rintro taken rest value ⟨exponent?, valid, rfl, known⟩ ended
    cases exponent? with
    | none =>
      simp only [exponentText, List.nil_append, exponentOrEnd, ended.noExponent,
        Bool.false_eq_true, if_false]
      exact finishDecimal_eq_ok.mpr ⟨rfl, known⟩
    | some exponent =>
      have marked := valid exponent rfl
      simp only [exponentText, exponentOrEnd, marked.startsWithExponent, if_true]
      exact marked.readExponent ended.digitsEnd known

theorem readFraction_append {digits rest : List Char} (run : Digits digits)
    (nonempty : digits ≠ []) (stops : DigitsEnd rest) :
    readFraction positive significand power (digits ++ rest) =
      exponentOrEnd positive (takeDigits significand 0 digits).value
        (power - (takeDigits significand 0 digits).taken) rest := by
  have left := run.takeDigits_rest significand 0
  obtain ⟨front, same, count, -⟩ := takeDigits_split significand 0 digits
  simp only [readFraction, takeDigits_append stops significand 0 run,
    startsWithDigit_append left stops]
  cases remaining : (takeDigits significand 0 digits).rest with
  | cons digit others =>
    rw [remaining] at left
    simp only [List.isEmpty_cons, Bool.not_false, if_true, dropWhile_digits left stops]
  | nil =>
    have some_taken : (takeDigits significand 0 digits).taken ≠ 0 := by
      rw [remaining, List.append_nil] at same
      rw [count, ← same]
      simpa using nonempty
    simp [some_taken]

theorem recognizes_readFraction :
    Recognizes (readFraction positive significand power)
      (fun taken value => ∃ (digits : List Char) (exponent? : Option Exponent),
        (Digits digits ∧ digits ≠ []) ∧ (∀ exponent ∈ exponent?, exponent.Valid) ∧
          taken = digits ++ exponentText exponent? ∧
          (scaled? (takeDigits significand 0 digits).value
            (power - (takeDigits significand 0 digits).taken) exponent?).map
              (signedDecimal positive) = some value)
      NumberEnds where
  sound := by
    intro text rest value read
    obtain ⟨digits, left, rfl, run, stops⟩ := exists_digits text
    by_cases nonempty : digits = []
    · subst nonempty
      cases left with
      | nil => cases read
      | cons character left =>
        have other : character.isDigit = false := stops
        simp [readFraction, takeDigits, startsWithDigit, other, stopAfterNext] at read
    · rw [readFraction_append run nonempty stops] at read
      obtain ⟨taken, rfl, exponent?, valid, rfl, known⟩ := recognizes_exponentOrEnd.sound read
      exact ⟨digits ++ exponentText exponent?, (List.append_assoc _ _ _).symm, digits, exponent?,
        ⟨run, nonempty⟩, valid, rfl, known⟩
  complete := by
    rintro taken rest value ⟨digits, exponent?, ⟨run, nonempty⟩, valid, rfl, known⟩ ended
    rw [List.append_assoc,
      readFraction_append run nonempty (exponentText_digitsEnd valid ended)]
    exact recognizes_exponentOrEnd.complete ⟨exponent?, valid, rfl, known⟩ ended

end Fractions

section Magnitudes

variable {positive : Bool} {significand : Nat} {power : Int} {alone? : Option Json}

/-- Goes on after the digits of a whole part; `alone?` is the value if neither a
fraction nor an exponent follows. -/
def afterDigits (positive : Bool) (significand : Nat) (power : Int) (alone? : Option Json) :
    List Char → Reading Json
  | '.' :: rest => readFraction positive significand power rest
  | rest =>
      if startsWithExponent rest then readExponent positive significand power rest.tail
      else
        match alone? with
        | some value => .ok (value, rest)
        | none => stopBefore .numberOutOfRange rest

theorem afterDigits_of_no_point {text : List Char} (noPoint : ∀ rest, text ≠ '.' :: rest) :
    afterDigits positive significand power alone? text =
      if startsWithExponent text then readExponent positive significand power text.tail
      else
        match alone? with
        | some value => .ok (value, text)
        | none => stopBefore .numberOutOfRange text := by
  unfold afterDigits
  split
  next rest => exact absurd rfl (noPoint rest)
  next => rfl

theorem afterWhole_eq (text : List Char) :
    afterWhole positive significand text =
      afterDigits positive significand 0 (some (wholeNumber positive significand)) text := by
  unfold afterWhole
  split
  next => rfl
  next noPoint => rw [afterDigits_of_no_point noPoint]

theorem afterLongWhole_eq (skipped : Nat) (text : List Char) :
    afterLongWhole positive significand skipped text =
      afterDigits positive significand skipped
        ((scale? significand skipped).map (signedDecimal positive)) text := by
  unfold afterLongWhole
  split
  next => rfl
  next noPoint =>
    rw [afterDigits_of_no_point noPoint]
    unfold exponentOrEnd finishDecimal
    cases scale? significand skipped <;> rfl

/-- The value of a numeral whose whole part has been cut. -/
def valueAfter? (positive : Bool) (significand : Nat) (power : Int) (alone? : Option Json)
    (fraction? : Option (List Char)) (exponent? : Option Exponent) : Option Json :=
  if fraction?.isNone && exponent?.isNone then alone?
  else
    let all := takeDigits significand 0 (fraction?.getD [])
    (scaled? all.value (power - all.taken) exponent?).map (signedDecimal positive)

theorem recognizes_afterDigits :
    Recognizes (afterDigits positive significand power alone?)
      (fun taken value => ∃ (fraction? : Option (List Char)) (exponent? : Option Exponent),
        (∀ digits ∈ fraction?, Digits digits ∧ digits ≠ []) ∧
          (∀ exponent ∈ exponent?, exponent.Valid) ∧
          taken = fractionText fraction? ++ exponentText exponent? ∧
          valueAfter? positive significand power alone? fraction? exponent? = some value)
      NumberEnds where
  sound := by
    intro text rest value read
    unfold afterDigits at read
    split at read
    next left =>
      obtain ⟨taken, rfl, digits, exponent?, run, valid, rfl, known⟩ :=
        recognizes_readFraction.sound read
      refine ⟨'.' :: (digits ++ exponentText exponent?), rfl, some digits, exponent?, ?_, valid,
        rfl, known⟩
      rintro digits' ⟨⟩
      exact run
    next =>
      split at read
      next starts =>
        obtain ⟨exponent, valid, rfl, known⟩ := exponent_of_readExponent starts read
        refine ⟨exponent.text, rfl, none, some exponent, by simp, ?_, rfl, ?_⟩
        · rintro _ ⟨⟩
          exact valid
        · simpa [valueAfter?, takeDigits] using known
      next =>
        cases alone? with
        | none => cases read
        | some alone =>
          cases read
          exact ⟨[], rfl, none, none, by simp, by simp, rfl, rfl⟩
  complete := by
    rintro taken rest value ⟨fraction?, exponent?, runs, valid, rfl, known⟩ ended
    cases fraction? with
    | some digits =>
      have read := recognizes_readFraction.complete
        ⟨digits, exponent?, runs digits rfl, valid, rfl, known⟩ ended
      simpa [fractionText, afterDigits] using read
    | none =>
      cases exponent? with
      | none =>
        obtain rfl : alone? = some value := known
        have noPoint : ∀ left, rest ≠ '.' :: left := by
          rintro left rfl
          exact absurd rfl (ended '.' rfl).2.1
        simp only [fractionText, exponentText, List.nil_append]
        rw [afterDigits_of_no_point noPoint, ended.noExponent]
        rfl
      | some exponent =>
        have marked := valid exponent rfl
        have read : readExponent positive significand power (exponent.text ++ rest).tail =
            .ok (value, rest) :=
          marked.readExponent ended.digitsEnd (by simpa [valueAfter?, takeDigits] using known)
        have noPoint : ∀ left, exponent.text ++ rest ≠ '.' :: left := by
          intro left same
          have point : exponent.mark = '.' := by
            simpa [Exponent.text] using congrArg List.head? same
          exact absurd (point ▸ marked.mark) (by decide)
        simp only [fractionText, exponentText, List.nil_append]
        rw [afterDigits_of_no_point noPoint, if_pos (marked.startsWithExponent rest)]
        exact read

/-- The value of a whole part that stands alone. -/
def aloneValue? (positive : Bool) (whole : List Char) : Option Json :=
  if numberOf whole ≤ Decimal.greatestNat64 then
    some (wholeNumber positive (numberOf whole))
  else
    let cut := takeDigits 0 0 whole
    (scale? cut.value cut.rest.length).map (signedDecimal positive)

theorem readMagnitude_append {whole rest : List Char} (run : Digits whole) (nonempty : whole ≠ [])
    (leading : whole = ['0'] ∨ whole.head? ≠ some '0') (stops : DigitsEnd rest) :
    readMagnitude positive (whole ++ rest) =
      afterDigits positive (takeDigits 0 0 whole).value (takeDigits 0 0 whole).rest.length
        (aloneValue? positive whole) rest := by
  rcases leading with rfl | other
  · have zero : takeDigits 0 0 ['0'] = ⟨0, 1, []⟩ := rfl
    have denoted : numberOf ['0'] = 0 := by decide
    have next : startsWithDigit rest = false := stops
    simp [readMagnitude, next, zero, afterWhole_eq, aloneValue?, denoted]
  · cases whole with
    | nil => exact absurd rfl nonempty
    | cons first others =>
      have notZero : first ≠ '0' := by simpa using other
      have first_fits : 0 * 10 + digitAt first ≤ Decimal.greatestNat64 :=
        Nat.le_trans (by have := digitAt_le run.head; omega) (show 9 ≤ _ by decide)
      have cut : takeDigits 0 0 (first :: others) = takeDigits (digitAt first) 1 others := by
        simp only [takeDigits, run.head, first_fits, decide_true, Bool.and_self, if_true]
        simp
      have denoted := numberOf_eq_extended (first :: others)
      have left := run.takeDigits_rest 0 0
      -- The reader starts from the value of the first digit, which always fits.
      simp only [List.cons_append, readMagnitude, notZero, if_false, run.head, if_true,
        takeDigits_append stops (digitAt first) 1 run.tail, ← cut,
        startsWithDigit_append left stops, takeWhile_digits left stops,
        dropWhile_digits left stops, aloneValue?]
      by_cases fits : numberOf (first :: others) ≤ Decimal.greatestNat64
      · rw [takeDigits_of_fits 0 run (denoted ▸ fits), if_pos fits]
        exact afterWhole_eq rest
      · have remaining : (takeDigits 0 0 (first :: others)).rest ≠ [] :=
          takeDigits_rest_ne_nil 0 (Nat.zero_le _) (denoted ▸ Nat.not_le.mp fits)
        rw [if_neg fits, if_pos (by simpa using remaining)]
        exact afterLongWhole_eq _ rest

/-- Cutting the whole part first is what the value of a numeral is made of. -/
theorem value?_eq_valueAfter? (numeral : Numeral) (run : Digits numeral.whole) :
    numeral.value? Numeral.scaled? =
      valueAfter? (!numeral.isNegative) (takeDigits 0 0 numeral.whole).value
        (takeDigits 0 0 numeral.whole).rest.length
        (aloneValue? (!numeral.isNegative) numeral.whole) numeral.fraction? numeral.exponent? := by
  obtain ⟨isNegative, whole, fraction?, exponent?⟩ := numeral
  simp only [Numeral.value?, Numeral.isWhole, valueAfter?, aloneValue?, Numeral.scaled?,
    Option.map_map]
  cases fraction? <;> cases exponent? <;> simp [takeDigits, scaled?] <;> rfl

theorem Numeral.value?_number {double? : Numeral → Option Double} {numeral : Numeral} {value : Json}
    (known : numeral.value? double? = some value) :
    (∃ number, value = .natural number) ∨ (∃ number, value = .negative number) ∨
      ∃ number, value = .decimal number := by
  unfold Numeral.value? at known
  split at known
  · cases known
    unfold wholeNumber
    split
    · exact .inl ⟨_, rfl⟩
    · split
      · exact .inr (.inr ⟨_, rfl⟩)
      · exact .inr (.inl ⟨_, rfl⟩)
  · obtain ⟨double, -, rfl⟩ := Option.map_eq_some_iff.mp known
    exact .inr (.inr ⟨double, rfl⟩)

theorem recognizes_readMagnitude (positive : Bool) :
    Recognizes (readMagnitude positive)
      (fun taken value => ∃ numeral : Numeral, numeral.Valid ∧ numeral.isNegative = !positive ∧
        taken = numeral.unsignedText ∧ numeral.value? Numeral.scaled? = some value)
      NumberEnds where
  sound := by
    intro text rest value read
    obtain ⟨whole, left, rfl, run, stops⟩ := exists_digits text
    have shape : whole ≠ [] ∧ (whole = ['0'] ∨ whole.head? ≠ some '0') := by
      cases whole with
      | nil =>
        cases left with
        | nil => cases read
        | cons character left =>
          have other : character.isDigit = false := stops
          have notZero : character ≠ '0' := by rintro rfl; simp at other
          simp [readMagnitude, notZero, other, stopAfterNext] at read
      | cons first others =>
        refine ⟨List.cons_ne_nil _ _, ?_⟩
        by_cases zero : first = '0'
        · subst zero
          left
          cases others with
          | nil => rfl
          | cons second others =>
            have another : second.isDigit = true := run.tail.head
            simp [readMagnitude, startsWithDigit, another, stopAfterNext] at read
        · right
          simpa using zero
    rw [readMagnitude_append run shape.1 shape.2 stops] at read
    obtain ⟨taken, rfl, fraction?, exponent?, runs, valid, rfl, known⟩ :=
      recognizes_afterDigits.sound read
    let numeral : Numeral := ⟨!positive, whole, fraction?, exponent?⟩
    refine ⟨numeral.unsignedText, by simp [numeral, Numeral.unsignedText], numeral,
      ⟨run, shape.1, shape.2, runs, valid⟩, rfl, rfl, ?_⟩
    rw [value?_eq_valueAfter? numeral run]
    simpa [numeral] using known
  complete := by
    rintro taken rest value ⟨⟨isNegative, whole, fraction?, exponent?⟩,
      ⟨run, nonempty, leading, runs, valid⟩, rfl, rfl, known⟩ ended
    rw [value?_eq_valueAfter? _ run] at known
    have stops : DigitsEnd (fractionText fraction? ++ exponentText exponent? ++ rest) := by
      cases fraction? with
      | none => exact exponentText_digitsEnd valid ended
      | some digits => rfl
    rw [Numeral.unsignedText, List.append_assoc, readMagnitude_append run nonempty leading stops]
    exact recognizes_afterDigits.complete
      ⟨fraction?, exponent?, runs, valid, rfl, by simpa using known⟩ ended

end Magnitudes

end AtLeastOnce.Json
