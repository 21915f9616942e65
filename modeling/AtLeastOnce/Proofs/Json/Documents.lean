import AtLeastOnce.Proofs.Json.Series

/-!
# Reading documents

By induction on the nesting, the reader takes exactly the texts of the grammar.
-/

namespace AtLeastOnce.Json

variable {α : Type}

section Values

theorem readWord_eq_ok {value result : α} {word text rest : List Char} :
    readWord value word text = .ok (result, rest) ↔ text = word ++ rest ∧ result = value := by
  induction word generalizing text with
  | nil => simp [readWord, and_comm, eq_comm]
  | cons letter word ih =>
    cases text with
    | nil => simp [readWord, stopBefore]
    | cons character text =>
      simp only [readWord]
      split
      next same => simp [ih, same]
      next other => simp [stopAfterNext, other]

theorem readScalar_digit {first : Char} (rest : List Char) (isDigit : first.isDigit = true) :
    readScalar (first :: rest) = readMagnitude true (first :: rest) := by
  unfold readScalar
  split
  next => contradiction
  next => simp_all
  next => simp_all
  next => simp_all
  next => simp_all
  next => simp_all
  next same => cases same; simp [isDigit]

theorem Numeral.Valid.starts {numeral : Numeral} (valid : numeral.Valid) :
    ∃ first others, numeral.unsignedText = first :: others ∧ first.isDigit = true := by
  obtain ⟨isNegative, whole, fraction?, exponent?⟩ := numeral
  obtain ⟨run, nonempty, -⟩ := valid
  cases whole with
  | nil => exact absurd rfl nonempty
  | cons first others => exact ⟨first, _, rfl, run.head⟩

theorem recognizes_readScalar :
    Recognizes readScalar (ScalarText Numeral.scaled?) NumberEnds where
  sound := by
    intro text rest value read
    unfold readScalar at read
    split at read
    next => cases read
    next =>
      obtain ⟨rfl, rfl⟩ := readWord_eq_ok.mp read
      exact ⟨_, rfl, .null⟩
    next =>
      obtain ⟨rfl, rfl⟩ := readWord_eq_ok.mp read
      exact ⟨_, rfl, .yes⟩
    next =>
      obtain ⟨rfl, rfl⟩ := readWord_eq_ok.mp read
      exact ⟨_, rfl, .no⟩
    next =>
      obtain ⟨characters, left, string, built⟩ := andThen_eq_ok.mp read
      obtain ⟨closed, rfl, spelled⟩ := recognizes_readString.sound string
      cases built
      exact ⟨'"' :: closed, rfl, .string (quoted_iff.mpr ⟨closed, rfl, spelled⟩)⟩
    next =>
      obtain ⟨taken, rfl, numeral, valid, negative, rfl, known⟩ :=
        (recognizes_readMagnitude false).sound read
      have spelled := ScalarText.number valid known
      rw [Numeral.text, if_pos (by simp [negative])] at spelled
      exact ⟨_, rfl, spelled⟩
    next =>
      split at read
      next isDigit =>
        obtain ⟨taken, same, numeral, valid, positive, rfl, known⟩ :=
          (recognizes_readMagnitude true).sound read
        have spelled := ScalarText.number valid known
        rw [Numeral.text, if_neg (by simp [positive])] at spelled
        exact ⟨_, same, spelled⟩
      next => cases read
  complete := by
    intro taken rest value spelled ended
    cases spelled with
    | null => exact readWord_eq_ok.mpr ⟨rfl, rfl⟩
    | yes => exact readWord_eq_ok.mpr ⟨rfl, rfl⟩
    | no => exact readWord_eq_ok.mpr ⟨rfl, rfl⟩
    | @string _ content quoted =>
      obtain ⟨closed, rfl, spelled⟩ := quoted_iff.mp quoted
      have read : readString (closed ++ rest) = .ok (content, rest) :=
        recognizes_readString.complete spelled trivial
      simp [readScalar, read]
    | @number numeral _ valid known =>
      cases negative : numeral.isNegative with
      | true =>
        simp only [Numeral.text, negative, if_true, List.cons_append]
        exact (recognizes_readMagnitude false).complete ⟨numeral, valid, negative, rfl, known⟩ ended
      | false =>
        obtain ⟨first, others, same, isDigit⟩ := valid.starts
        have read := (recognizes_readMagnitude true).complete
          ⟨numeral, valid, negative, rfl, known⟩ ended
        simp only [Numeral.text, negative, Bool.false_eq_true, if_false]
        rw [same, List.cons_append] at read ⊢
        rw [readScalar_digit _ isDigit]
        exact read

variable {double? : Numeral → Option Double}

theorem ScalarText.starts {text : List Char} {value : Json}
    (spelled : ScalarText double? text value) :
    ∃ first others, text = first :: others ∧ isSpace first = false ∧ first ≠ ',' ∧ first ≠ ']' ∧
      first ≠ '[' ∧ first ≠ '\x7b' := by
  cases spelled with
  | null => exact ⟨_, _, rfl, by decide⟩
  | yes => exact ⟨_, _, rfl, by decide⟩
  | no => exact ⟨_, _, rfl, by decide⟩
  | string quoted =>
    obtain ⟨closed, rfl, -⟩ := quoted_iff.mp quoted
    exact ⟨_, _, rfl, by decide⟩
  | @number numeral _ valid known =>
    obtain ⟨first, others, same, isDigit⟩ := valid.starts
    cases negative : numeral.isNegative with
    | true => exact ⟨'-', _, by simp [Numeral.text, negative]; rfl, by decide⟩
    | false =>
      refine ⟨first, others, by simp [Numeral.text, negative, same], ?_⟩
      have differs : ∀ character : Char, character.isDigit = false → first ≠ character := by
        rintro character other rfl
        rw [isDigit] at other
        cases other
      simp only [isSpace, Bool.or_eq_false_iff, decide_eq_false_iff_not]
      exact ⟨⟨⟨⟨differs _ (by decide), differs _ (by decide)⟩, differs _ (by decide)⟩,
        differs _ (by decide)⟩, differs _ (by decide), differs _ (by decide), differs _ (by decide),
        differs _ (by decide)⟩

theorem ValueText.starts {depth : Nat} {text : List Char} {value : Json} (rest : List Char)
    (spelled : ValueText double? depth text value) : ItemStarts (text ++ rest) := by
  have scalar : ∀ {text : List Char},
      ScalarText double? text value → ItemStarts (text ++ rest) := by
    intro text spelled
    obtain ⟨first, others, rfl, visible, notComma, notClosing, -⟩ := spelled.starts
    exact ⟨first, others ++ rest, rfl, visible, notComma, notClosing⟩
  cases depth with
  | zero => exact scalar spelled
  | succ depth =>
    cases spelled with
    | scalar spelled => exact scalar spelled
    | array enclosed => cases enclosed <;> exact ⟨_, _, rfl, by decide⟩
    | object enclosed => cases enclosed <;> exact ⟨_, _, rfl, by decide⟩

theorem readValue_scalar {depth : Nat} {text rest : List Char} {value : Json}
    (spelled : ScalarText Numeral.scaled? text value) (ended : NumberEnds rest) :
    readValue (depth + 1) (text ++ rest) = .ok (value, rest) := by
  have read := recognizes_readScalar.complete spelled ended
  obtain ⟨first, others, rfl, visible, -, -, notList, notTable⟩ := spelled.starts
  rw [List.cons_append] at read ⊢
  rw [readValue, skipSpaces_cons _ visible]
  split
  next same => simp_all
  next same => simp_all
  next => exact read

theorem ValueText.of_scalar {depth : Nat} {text : List Char} {value : Json}
    (spelled : ScalarText double? text value) : ValueText double? depth text value := by
  cases depth with
  | zero => exact spelled
  | succ depth => exact .scalar spelled

theorem readsElement_readValue {depth : Nat}
    (recognized : Recognizes (readValue (depth + 1)) (Indented (ValueText Numeral.scaled? depth))
      NumberEnds) :
    ReadsElement (readValue (depth + 1)) (ValueText Numeral.scaled? depth) ItemStarts where
  sound := recognized.sound
  complete formed ended := recognized.complete (.of_form formed) ended
  begins rest formed := formed.starts rest

theorem readValue_blanks {blanks : List Char} (blank : Blanks blanks) (depth : Nat)
    (text : List Char) :
    readValue (depth + 1) (blanks ++ text) = readValue (depth + 1) text := by
  simp only [readValue, skipSpaces_append blank]

/-- What a value takes after its blanks, if the values inside it are recognized. -/
theorem valueText_of_readValue {depth : Nat} {text rest : List Char} {value : Json}
    (inside : ∀ previous, depth = previous + 1 → Recognizes (readValue depth)
      (Indented (ValueText Numeral.scaled? previous)) NumberEnds)
    (read : readValue (depth + 1) text = .ok (value, rest)) :
    ∃ taken, skipSpaces text = taken ++ rest ∧ ValueText Numeral.scaled? depth taken value := by
  unfold readValue at read
  split at read
  next left skipped =>
    rw [skipped]
    cases depth with
    | zero => cases read
    | succ depth =>
      obtain ⟨items, after, series, built⟩ := andThen_eq_ok.mp read
      rw [readItems_eq] at series
      obtain ⟨inner, rfl, enclosed⟩ := enclosed_of_readSeries separates_nextItem
        (readsElement_readValue (inside depth rfl)) '[' series
      cases built
      exact ⟨_, by simp, .array enclosed⟩
  next left skipped =>
    rw [skipped]
    cases depth with
    | zero => cases read
    | succ depth =>
      obtain ⟨members, after, series, built⟩ := andThen_eq_ok.mp read
      rw [readMembers_eq] at series
      obtain ⟨inner, rfl, enclosed⟩ := enclosed_of_readSeries separates_nextMember
        (readsElement_readMember (inside depth rfl)) '\x7b' series
      cases built
      exact ⟨_, by simp, .object enclosed⟩
  next =>
    obtain ⟨taken, skipped, spelled⟩ := recognizes_readScalar.sound read
    exact ⟨taken, skipped, .of_scalar spelled⟩

theorem NestedText.readValue {depth : Nat} {text rest : List Char} {value : Json}
    (recognized : Recognizes (Json.readValue (depth + 1))
      (Indented (ValueText Numeral.scaled? depth)) NumberEnds)
    (spelled : NestedText Numeral.scaled? (ValueText Numeral.scaled? depth) text value)
    (ended : NumberEnds rest) :
    Json.readValue (depth + 2) (text ++ rest) = .ok (value, rest) := by
  cases spelled with
  | scalar spelled => exact readValue_scalar spelled ended
  | array enclosed =>
    obtain ⟨inner, rfl, read⟩ := enclosed.readSeries separates_nextItem
      (readsElement_readValue recognized) rest
    rw [← readItems_eq] at read
    rw [List.cons_append, Json.readValue, skipSpaces_cons _ (by decide)]
    simp only [Nat.add_one_ne_zero, if_false, read, andThen_ok]
  | object enclosed =>
    obtain ⟨inner, rfl, read⟩ := enclosed.readSeries separates_nextMember
      (readsElement_readMember recognized) rest
    rw [← readMembers_eq] at read
    rw [List.cons_append, Json.readValue, skipSpaces_cons _ (by decide)]
    simp only [Nat.add_one_ne_zero, if_false, read, andThen_ok]

theorem recognizes_readValue (depth : Nat) :
    Recognizes (readValue (depth + 1)) (Indented (ValueText Numeral.scaled? depth))
      NumberEnds := by
  -- What is read is sound at any depth at which the values inside are recognized.
  have sound : ∀ {depth : Nat} {text rest : List Char} {value : Json},
      (∀ previous, depth = previous + 1 → Recognizes (readValue depth)
        (Indented (ValueText Numeral.scaled? previous)) NumberEnds) →
      readValue (depth + 1) text = .ok (value, rest) →
      ∃ taken, text = taken ++ rest ∧ Indented (ValueText Numeral.scaled? depth) taken value := by
    intro depth text rest value inside read
    obtain ⟨blanks, blank, same⟩ := exists_blanks text
    obtain ⟨taken, skipped, spelled⟩ := valueText_of_readValue inside read
    exact ⟨blanks ++ taken, by rw [same, skipped, List.append_assoc], .intro blank spelled⟩
  induction depth with
  | zero =>
    refine ⟨sound (by simp), ?_⟩
    rintro taken rest value ⟨blank, spelled⟩ ended
    rw [List.append_assoc, readValue_blanks blank]
    exact readValue_scalar spelled ended
  | succ depth ih =>
    refine ⟨sound (by rintro previous ⟨⟩; exact ih), ?_⟩
    rintro taken rest value ⟨blank, spelled⟩ ended
    rw [List.append_assoc, readValue_blanks blank]
    exact NestedText.readValue ih spelled ended

theorem readEnd_eq_ok {text : List Char} {value : Unit} :
    readEnd text = .ok value ↔ Blanks text := by
  have skipped : skipSpaces text = [] ↔ Blanks text := by
    constructor
    · intro none
      obtain ⟨blanks, blank, same⟩ := exists_blanks text
      rw [same, none, List.append_nil]
      exact blank
    · intro blank
      simpa [skipSpaces] using skipSpaces_append blank []
  rw [← skipped]
  unfold readEnd
  split
  next same => simp [same]
  next other =>
    cases left : skipSpaces text with
    | nil => exact absurd left other
    | cons character rest => simp [stopAfterNext]

theorem documentText_iff {text : List Char} {value : Json} :
    DocumentText Numeral.scaled? text value ↔
      ∃ rest, readValue depthLimit text = .ok (value, rest) ∧ Blanks rest := by
  constructor
  · rintro ⟨spelled, blank⟩
    rename_i taken blanks
    refine ⟨blanks, (recognizes_readValue 127).complete spelled ?_, blank⟩
    simpa using NumberEnds.of_blanks blank (show NumberEnds [] by simp [NumberEnds])
  · rintro ⟨rest, read, blank⟩
    obtain ⟨taken, rfl, spelled⟩ := (recognizes_readValue 127).sound read
    exact .intro spelled blank

/-- The reader of documents takes exactly the texts of the grammar. -/
theorem read_eq_ok {text : List Char} {value : Json} :
    read text = .ok value ↔ DocumentText Numeral.scaled? text value := by
  rw [documentText_iff]
  constructor
  · intro ok
    unfold read at ok
    split at ok
    next => cases ok
    next found rest first =>
      cases ended : readEnd rest with
      | error stop => simp [ended, Except.map] at ok
      | ok _ =>
        obtain rfl : found = value := by simpa [ended, Except.map] using ok
        exact ⟨rest, first, readEnd_eq_ok.mp ended⟩
  · rintro ⟨rest, first, blank⟩
    have last : readEnd rest = .ok () := readEnd_eq_ok.mpr blank
    simp [read, first, last, Except.map]

end Values

end AtLeastOnce.Json
