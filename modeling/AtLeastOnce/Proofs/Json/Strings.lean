import AtLeastOnce.Proofs.Json.Grammar

/-!
# Readers and the grammar

A reader recognizes a form when what it takes has that form, and when it takes
whatever has the form and is followed by something that cannot belong to it.
Strings come first: a quote ends them, whatever follows.
-/

namespace AtLeastOnce.Json

variable {α β : Type}

structure Recognizes (reader : List Char → Reading α) (form : List Char → α → Prop)
    (ends : List Char → Prop) : Prop where
  sound {text rest : List Char} {value : α} :
    reader text = .ok (value, rest) → ∃ taken, text = taken ++ rest ∧ form taken value
  complete {taken rest : List Char} {value : α} :
    form taken value → ends rest → reader (taken ++ rest) = .ok (value, rest)

def Anything (_ : List Char) : Prop := True

theorem andThen_eq_ok {first : Reading α} {next : α → List Char → Reading β}
    {result : β × List Char} :
    andThen first next = .ok result ↔
      ∃ value rest, first = .ok (value, rest) ∧ next value rest = .ok result := by
  unfold andThen
  split
  next stop => simp
  next value rest =>
    constructor
    · intro read
      exact ⟨value, rest, rfl, read⟩
    · rintro ⟨value', rest', same, read⟩
      cases same
      exact read

@[simp]
theorem andThen_ok (value : α) (rest : List Char) (next : α → List Char → Reading β) :
    andThen (.ok (value, rest)) next = next value rest := rfl

theorem andThen_assoc {γ : Type} (first : Reading α) (second : α → List Char → Reading β)
    (third : β → List Char → Reading γ) :
    andThen (andThen first second) third =
      andThen first fun value rest => andThen (second value rest) third := by
  cases first <;> rfl

section Blanks

theorem Blanks.nil : Blanks [] := by simp [Blanks]

theorem Blanks.append {first second : List Char} (before : Blanks first)
    (after : Blanks second) : Blanks (first ++ second) := by
  intro character member
  rcases List.mem_append.mp member with left | right
  · exact before character left
  · exact after character right

theorem isSpace_iff {character : Char} :
    isSpace character = true ↔
      character = ' ' ∨ character = '\n' ∨ character = '\t' ∨ character = '\r' := by
  simp [isSpace, or_assoc]

theorem skipSpaces_append {blanks : List Char} (blank : Blanks blanks) (text : List Char) :
    skipSpaces (blanks ++ text) = skipSpaces text :=
  List.dropWhile_append_of_pos fun character member => isSpace_iff.mpr (blank character member)

theorem skipSpaces_cons {character : Char} (text : List Char)
    (visible : isSpace character = false) : skipSpaces (character :: text) = character :: text := by
  simp [skipSpaces, visible]

theorem exists_blanks (text : List Char) :
    ∃ blanks, Blanks blanks ∧ text = blanks ++ skipSpaces text := by
  refine ⟨text.takeWhile isSpace, ?_, List.takeWhile_append_dropWhile.symm⟩
  intro character member
  exact isSpace_iff.mp (List.all_eq_true.mp List.all_takeWhile character member)

end Blanks

section Escapes

theorem not_isDigit_of_le {character : Char} (low : 65 ≤ character.toNat) :
    character.isDigit = false := by
  rw [Bool.eq_false_iff]
  intro isDigit
  simp only [Char.isDigit, Bool.and_eq_true, decide_eq_true_eq] at isDigit
  have high : character.toNat ≤ 57 := isDigit.2
  omega

theorem hexDigit?_eq_some_iff {digit : Char} {value : Nat} :
    Text.hexDigit? digit = some value ↔ HexDigit digit value := by
  unfold Text.hexDigit?
  constructor
  · intro found
    split at found
    next isDecimal =>
      cases found
      have bounds : '0' ≤ digit ∧ digit ≤ '9' := by
        simpa [Char.isDigit, Char.le_def] using isDecimal
      exact .decimal bounds.1 bounds.2
    next =>
      split at found
      next isLower =>
        cases found
        have bounds : 'a' ≤ digit ∧ digit ≤ 'f' := by simpa using isLower
        exact .lower bounds.1 bounds.2
      next =>
        split at found
        next isUpper =>
          cases found
          have bounds : 'A' ≤ digit ∧ digit ≤ 'F' := by simpa using isUpper
          exact .upper bounds.1 bounds.2
        next => cases found
  · intro counts
    cases counts with
    | decimal low high =>
      have isDecimal : digit.isDigit = true := by
        simpa [Char.isDigit, Char.le_def] using And.intro low high
      simp [isDecimal]
    | lower low high => simp [not_isDigit_of_le (Nat.le_trans (by decide) low), low, high]
    | upper low high =>
      have notLower : ¬ 'a' ≤ digit := fun low' => absurd (Nat.le_trans low' high) (by decide)
      simp [not_isDigit_of_le low, notLower, low, high]

theorem recognizes_readHex : Recognizes readHex CodeUnit Anything where
  sound := by
    intro text rest unit read
    unfold readHex at read
    split at read
    next first second third fourth rest' =>
      split at read
      next a b c d ha hb hc hd =>
        cases read
        exact ⟨[first, second, third, fourth], rfl, .intro (hexDigit?_eq_some_iff.mp ha)
          (hexDigit?_eq_some_iff.mp hb) (hexDigit?_eq_some_iff.mp hc)
          (hexDigit?_eq_some_iff.mp hd)⟩
      next => cases read
    next =>
      split at read <;> cases read
  complete := by
    rintro taken rest unit ⟨ha, hb, hc, hd⟩ -
    simp [readHex, hexDigit?_eq_some_iff.mpr ha, hexDigit?_eq_some_iff.mpr hb,
      hexDigit?_eq_some_iff.mpr hc, hexDigit?_eq_some_iff.mpr hd]

theorem isLeadingSurrogate_iff {unit : Nat} :
    isLeadingSurrogate unit = true ↔ 0xD800 ≤ unit ∧ unit ≤ 0xDBFF := by
  simp [isLeadingSurrogate]

theorem isTrailingSurrogate_iff {unit : Nat} :
    isTrailingSurrogate unit = true ↔ 0xDC00 ≤ unit ∧ unit ≤ 0xDFFF := by
  simp [isTrailingSurrogate]

theorem not_surrogate_iff {unit : Nat} :
    isLeadingSurrogate unit = false ∧ isTrailingSurrogate unit = false ↔
      unit < 0xD800 ∨ 0xDFFF < unit := by
  simp only [isLeadingSurrogate, isTrailingSurrogate, Bool.and_eq_false_iff,
    decide_eq_false_iff_not]
  omega

/-- The second half of an escaped pair of surrogates. -/
inductive TrailingEscape (leading : Nat) : List Char → Char → Prop where
  | intro {digits : List Char} {trailing : Nat} :
      CodeUnit digits trailing → 0xDC00 ≤ trailing ∧ trailing ≤ 0xDFFF →
      TrailingEscape leading ('\\' :: 'u' :: digits) (Char.ofNat (surrogatePair leading trailing))

theorem recognizes_readTrailing (leading : Nat) :
    Recognizes (readTrailing leading) (TrailingEscape leading) Anything where
  sound := by
    intro text rest character read
    unfold readTrailing at read
    split at read
    next rest' =>
      obtain ⟨unit, left, hex, chosen⟩ := andThen_eq_ok.mp read
      obtain ⟨digits, rfl, denoted⟩ := recognizes_readHex.sound hex
      split at chosen
      next trailing =>
        simp only [Except.ok.injEq, Prod.mk.injEq] at chosen
        obtain ⟨rfl, rfl⟩ := chosen
        exact ⟨_, rfl, .intro denoted (isTrailingSurrogate_iff.mp trailing)⟩
      next => cases chosen
    all_goals cases read
  complete := by
    rintro taken rest character ⟨denoted, trailing⟩ anything
    have hex := recognizes_readHex.complete denoted anything
    simp [readTrailing, hex, isTrailingSurrogate_iff.mpr trailing]

theorem recognizes_readEscape : Recognizes readEscape Escape Anything where
  sound := by
    intro text rest character read
    unfold readEscape at read
    split at read
    next => cases read
    next => cases read; exact ⟨_, rfl, .quote⟩
    next => cases read; exact ⟨_, rfl, .backslash⟩
    next => cases read; exact ⟨_, rfl, .slash⟩
    next => cases read; exact ⟨_, rfl, .backspace⟩
    next => cases read; exact ⟨_, rfl, .formFeed⟩
    next => cases read; exact ⟨_, rfl, .lineFeed⟩
    next => cases read; exact ⟨_, rfl, .carriageReturn⟩
    next => cases read; exact ⟨_, rfl, .tab⟩
    next rest' =>
      obtain ⟨unit, left, hex, chosen⟩ := andThen_eq_ok.mp read
      obtain ⟨digits, rfl, denoted⟩ := recognizes_readHex.sound hex
      split at chosen
      next => cases chosen
      next notTrailing =>
        split at chosen
        next leading =>
          obtain ⟨taken, rfl, ⟨second, trailing⟩⟩ := (recognizes_readTrailing unit).sound chosen
          exact ⟨_, by simp,
            .surrogates denoted (isLeadingSurrogate_iff.mp leading) second trailing⟩
        next notLeading =>
          cases chosen
          exact ⟨_, rfl, .codePoint denoted (not_surrogate_iff.mp
            ⟨by simpa using notLeading, by simpa using notTrailing⟩)⟩
    next => cases read
  complete := by
    rintro taken rest character escape anything
    cases escape with
    | @codePoint digits unit denoted basic =>
      obtain ⟨notLeading, notTrailing⟩ := not_surrogate_iff.mpr basic
      have hex : readHex (digits ++ rest) = .ok (unit, rest) :=
        recognizes_readHex.complete denoted anything
      simp [readEscape, hex, notLeading, notTrailing]
    | @surrogates first second leading trailing leadingUnit isLeading trailingUnit isTrailing =>
      have hex : readHex (first ++ ('\\' :: 'u' :: second ++ rest)) =
          .ok (leading, '\\' :: 'u' :: second ++ rest) :=
        recognizes_readHex.complete leadingUnit trivial
      have notTrailing : isTrailingSurrogate leading = false := by
        rw [Bool.eq_false_iff, ne_eq, isTrailingSurrogate_iff]
        intro isTrailing
        have := Nat.le_trans isTrailing.1 isLeading.2
        exact absurd this (by decide)
      have tail := (recognizes_readTrailing leading).complete
        (.intro trailingUnit isTrailing) anything
      simp only [List.cons_append] at hex tail
      have read : readEscape ('u' :: (first ++ '\\' :: 'u' :: second) ++ rest) =
          readTrailing leading ('\\' :: 'u' :: (second ++ rest)) := by
        simp [readEscape, hex, notTrailing, isLeadingSurrogate_iff.mpr isLeading]
      exact read.trans tail
    | _ => rfl

end Escapes

section Strings

theorem inner_of_readChars {limit : Nat} {text rest characters : List Char}
    (read : readChars limit text = .ok (characters, rest)) :
    ∃ inner, text = inner ++ '"' :: rest ∧ Inner inner characters := by
  induction limit generalizing text characters with
  | zero => cases read
  | succ limit ih =>
    cases text with
    | nil => cases read
    | cons character text =>
      simp only [readChars] at read
      split at read
      next quote =>
        subst quote
        cases read
        exact ⟨[], rfl, .done⟩
      next notQuote =>
        split at read
        next backslash =>
          subst backslash
          obtain ⟨escaped, left, first, read⟩ := andThen_eq_ok.mp read
          obtain ⟨others, left', more, built⟩ := andThen_eq_ok.mp read
          obtain ⟨taken, rfl, escape⟩ := recognizes_readEscape.sound first
          cases built
          obtain ⟨inner, rfl, spelled⟩ := ih more
          exact ⟨'\\' :: (taken ++ inner), by simp, .escaped escape spelled⟩
        next notBackslash =>
          split at read
          next => cases read
          next visible =>
            obtain ⟨others, left, more, built⟩ := andThen_eq_ok.mp read
            cases built
            obtain ⟨inner, rfl, spelled⟩ := ih more
            exact ⟨character :: inner, rfl, .plain notQuote notBackslash (by omega) spelled⟩

theorem Inner.readChars {inner characters : List Char} (spelled : Inner inner characters)
    (rest : List Char) {limit : Nat} (enough : inner.length < limit) :
    Json.readChars limit (inner ++ '"' :: rest) = .ok (characters, rest) := by
  induction spelled generalizing limit with
  | done =>
    obtain ⟨limit, rfl⟩ := Nat.exists_eq_add_of_lt enough
    rfl
  | @plain character text characters notQuote notBackslash visible _ ih =>
    cases limit with
    | zero => omega
    | succ limit =>
      have more : Json.readChars limit (text ++ '"' :: rest) = .ok (characters, rest) :=
        ih (by simpa using enough)
      have shown : ¬ character.toNat < 0x20 := by omega
      simp [Json.readChars, notQuote, notBackslash, shown, more]
  | @escaped escape text characters character escapes _ ih =>
    cases limit with
    | zero => omega
    | succ limit =>
      have more : Json.readChars limit (text ++ '"' :: rest) = .ok (characters, rest) :=
        ih (by simp only [List.length_cons, List.length_append] at enough; omega)
      have first : readEscape (escape ++ (text ++ '"' :: rest)) =
          .ok (character, text ++ '"' :: rest) :=
        recognizes_readEscape.complete escapes trivial
      simp [Json.readChars, first, more]

/-- Characters that need no escape stand for themselves. -/
theorem Inner.of_plain {text : List Char}
    (plain : ∀ character ∈ text, character ≠ '"' ∧ character ≠ '\\' ∧ 0x20 ≤ character.toNat) :
    Inner text text := by
  induction text with
  | nil => exact .done
  | cons character text ih =>
    obtain ⟨notQuote, notBackslash, visible⟩ := plain character List.mem_cons_self
    exact .plain notQuote notBackslash visible
      (ih fun other member => plain other (List.mem_cons_of_mem _ member))

/-- What follows an opening quote, up to the closing one. -/
def Closed (text : List Char) (value : String) : Prop :=
  ∃ inner, text = inner ++ ['"'] ∧ Inner inner value.toList

theorem quoted_iff {text : List Char} {value : String} :
    Quoted text value ↔ ∃ closed, text = '"' :: closed ∧ Closed closed value := by
  simp only [Quoted, Closed]
  constructor
  · rintro ⟨inner, rfl, spelled⟩
    exact ⟨_, rfl, inner, rfl, spelled⟩
  · rintro ⟨closed, rfl, inner, rfl, spelled⟩
    exact ⟨inner, rfl, spelled⟩

theorem recognizes_readString : Recognizes readString Closed Anything where
  sound := by
    intro text rest value read
    obtain ⟨characters, left, read, built⟩ := andThen_eq_ok.mp read
    obtain ⟨inner, rfl, spelled⟩ := inner_of_readChars read
    cases built
    exact ⟨inner ++ ['"'], by simp, inner, rfl, by simpa using spelled⟩
  complete := by
    rintro taken rest value ⟨inner, rfl, spelled⟩ -
    have read : readChars ((inner ++ '"' :: rest).length + 1) (inner ++ '"' :: rest) =
        .ok (value.toList, rest) := by
      apply spelled.readChars
      simp only [List.length_append, List.length_cons]
      omega
    rw [List.append_assoc, List.singleton_append, readString, read]
    simp

end Strings

end AtLeastOnce.Json
