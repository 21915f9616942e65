import AtLeastOnce.Proofs.Json.Numerals

/-!
# Reading arrays and objects

Arrays and objects are read by one loop, which differs in what separates its
elements.  What it reads is enclosed as the grammar says, if its elements are.
-/

namespace AtLeastOnce.Json

variable {α : Type}

section Series

/-- How the text before an element is separated from it: it ends with the closing
character, or goes on after blanks and, unless the element is the first, a comma. -/
inductive Separated (closing : Char) : Bool → List Char → Bool → List Char → Prop where
  | last {isFirst : Bool} {blanks rest : List Char} :
      Blanks blanks →
      Separated closing isFirst (blanks ++ closing :: rest) false (closing :: rest)
  | first {blanks rest : List Char} :
      Blanks blanks → Separated closing true (blanks ++ rest) true rest
  | later {before after rest : List Char} :
      Blanks before → Blanks after →
      Separated closing false (before ++ ',' :: (after ++ rest)) true rest

/-- What a loop knows of the separators before its elements: it finds no others, and
it finds these before something that an element begins with. -/
structure Separates (next : Bool → List Char → Reading Bool) (closing : Char)
    (starts : List Char → Prop) : Prop where
  sound {isFirst more : Bool} {text rest : List Char} :
    next isFirst text = .ok (more, rest) → Separated closing isFirst text more rest
  closes {isFirst : Bool} {blanks : List Char} (rest : List Char) :
    Blanks blanks → next isFirst (blanks ++ closing :: rest) = .ok (false, closing :: rest)
  opens {blanks rest : List Char} :
    Blanks blanks → starts rest → next true (blanks ++ rest) = .ok (true, rest)
  continues {before after rest : List Char} :
    Blanks before → Blanks after → starts rest →
      next false (before ++ ',' :: (after ++ rest)) = .ok (true, rest)
  ends (rest : List Char) : NumberEnds (closing :: rest)

/-- What a loop knows of the reader of its elements, which no blanks need to
precede. -/
structure ReadsElement (element : List Char → Reading α) (form : List Char → α → Prop)
    (starts : List Char → Prop) : Prop where
  sound {text rest : List Char} {value : α} :
    element text = .ok (value, rest) → ∃ taken, text = taken ++ rest ∧ Indented form taken value
  complete {taken rest : List Char} {value : α} :
    form taken value → NumberEnds rest → element (taken ++ rest) = .ok (value, rest)
  begins {taken : List Char} {value : α} (rest : List Char) :
    form taken value → starts (taken ++ rest)

/-- Elements with separators before each of them; `limit` bounds their number. -/
def readSeries (fault : SyntaxFault) (next : Bool → List Char → Reading Bool)
    (element : List Char → Reading α) : Nat → Bool → List Char → Reading (List α)
  | 0, _, text => stopBefore fault text
  | limit + 1, isFirst, text =>
      andThen (next isFirst text) fun more rest =>
        if more then
          andThen (element rest) fun value rest =>
            andThen (readSeries fault next element limit false rest) fun values rest =>
              .ok (value :: values, rest)
        else .ok ([], rest.tail)

theorem Indented.of_form {form : List Char → α → Prop} {text : List Char} {value : α}
    (formed : form text value) : Indented form text value :=
  @Indented.intro α form [] text value Blanks.nil formed

theorem padded_iff {form : List Char → α → Prop} {text : List Char} {value : α} :
    Padded form text value ↔
      ∃ before core after, Blanks before ∧ form core value ∧ Blanks after ∧
        text = before ++ (core ++ after) := by
  constructor
  · rintro ⟨⟨before, formed⟩, after⟩
    exact ⟨_, _, _, before, formed, after, List.append_assoc _ _ _⟩
  · rintro ⟨before, core, after, blankBefore, formed, blankAfter, rfl⟩
    rw [← List.append_assoc]
    exact .intro (.intro blankBefore formed) blankAfter

theorem Listed.indent {form : List Char → α → Prop} {blanks text : List Char} {values : List α}
    (blank : Blanks blanks) (listed : Listed (Padded form) text values) :
    Listed (Padded form) (blanks ++ text) values := by
  have indented : ∀ {text : List Char} {value : α}, Padded form text value →
      Padded form (blanks ++ text) value := by
    intro text value padded
    obtain ⟨before, core, after, blankBefore, formed, blankAfter, rfl⟩ := padded_iff.mp padded
    exact padded_iff.mpr ⟨blanks ++ before, core, after, blank.append blankBefore, formed,
      blankAfter, by simp⟩
  cases listed with
  | one formed => exact .one (indented formed)
  | more formed others =>
    rw [← List.append_assoc]
    exact .more (indented formed) others

theorem Listed.length_le {form : List Char → α → Prop} {text : List Char} {values : List α}
    (listed : Listed form text values) : values.length ≤ text.length + 1 := by
  induction listed with
  | one => simp
  | more _ _ ih =>
    simp only [List.length_cons, List.length_append]
    omega

variable {fault : SyntaxFault} {next : Bool → List Char → Reading Bool} {closing : Char}
  {starts : List Char → Prop} {element : List Char → Reading α} {form : List Char → α → Prop}

/-- An element and what follows it up to the closing character. -/
theorem listed_of_element
    (reads : ReadsElement element form starts) {text left rest : List Char}
    {value : α} {values : List α} (read : element text = .ok (value, left))
    (others : ∃ blanks, Blanks blanks ∧
      ((values = [] ∧ left = blanks ++ closing :: rest) ∨
        ∃ inner, left = blanks ++ ',' :: (inner ++ closing :: rest) ∧
          Listed (Padded form) inner values)) :
    ∃ inner, text = inner ++ closing :: rest ∧ Listed (Padded form) inner (value :: values) := by
  obtain ⟨taken, rfl, formed⟩ := reads.sound read
  obtain ⟨blanks, blank, ⟨rfl, rfl⟩ | ⟨inner, rfl, listed⟩⟩ := others
  · exact ⟨taken ++ blanks, by simp, .one (.intro formed blank)⟩
  · exact ⟨(taken ++ blanks) ++ ',' :: inner, by simp, .more (.intro formed blank) listed⟩

theorem listed_of_readSeries (separates : Separates next closing starts)
    (reads : ReadsElement element form starts) {limit : Nat}
    {text rest : List Char} {values : List α}
    (read : readSeries fault next element limit false text = .ok (values, rest)) :
    ∃ blanks, Blanks blanks ∧
      ((values = [] ∧ text = blanks ++ closing :: rest) ∨
        ∃ inner, text = blanks ++ ',' :: (inner ++ closing :: rest) ∧
          Listed (Padded form) inner values) := by
  induction limit generalizing text values with
  | zero => cases read
  | succ limit ih =>
    obtain ⟨more, left, separator, goesOn⟩ := andThen_eq_ok.mp read
    cases separates.sound separator with
    | last blank =>
      cases goesOn
      exact ⟨_, blank, .inl ⟨rfl, rfl⟩⟩
    | @later before after _ blankBefore blankAfter =>
      obtain ⟨value, afterValue, first, goesOn⟩ := andThen_eq_ok.mp goesOn
      obtain ⟨values', afterAll, others, built⟩ := andThen_eq_ok.mp goesOn
      cases built
      obtain ⟨inner, rfl, listed⟩ := listed_of_element reads first (ih others)
      exact ⟨before, blankBefore, .inr ⟨after ++ inner, by simp, listed.indent blankAfter⟩⟩

theorem enclosed_of_readSeries (separates : Separates next closing starts)
    (reads : ReadsElement element form starts) {limit : Nat}
    {text rest : List Char} {values : List α} (opening : Char)
    (read : readSeries fault next element limit true text = .ok (values, rest)) :
    ∃ inner, text = inner ++ closing :: rest ∧
      Enclosed opening closing form (opening :: (inner ++ [closing])) values := by
  cases limit with
  | zero => cases read
  | succ limit =>
    obtain ⟨more, left, separator, goesOn⟩ := andThen_eq_ok.mp read
    cases separates.sound separator with
    | last blank =>
      cases goesOn
      exact ⟨_, rfl, .empty blank⟩
    | @first blanks _ blank =>
      obtain ⟨value, afterValue, first, goesOn⟩ := andThen_eq_ok.mp goesOn
      obtain ⟨values', afterAll, others, built⟩ := andThen_eq_ok.mp goesOn
      cases built
      obtain ⟨inner, rfl, listed⟩ := listed_of_element reads first
        (listed_of_readSeries separates reads others)
      exact ⟨blanks ++ inner, by simp, .full (listed.indent blank)⟩

theorem NumberEnds.of_blanks {blanks rest : List Char} (blank : Blanks blanks)
    (ended : NumberEnds rest) : NumberEnds (blanks ++ rest) := by
  cases blanks with
  | nil => exact ended
  | cons character blanks =>
    rintro character' ⟨⟩
    rcases blank character List.mem_cons_self with rfl | rfl | rfl | rfl <;> decide

theorem numberEnds_comma (rest : List Char) : NumberEnds (',' :: rest) := by
  rintro character ⟨⟩
  decide

def readElements (fault : SyntaxFault) (next : Bool → List Char → Reading Bool)
    (element : List Char → Reading α) (limit : Nat) (text : List Char) : Reading (List α) :=
  andThen (element text) fun value rest =>
    andThen (readSeries fault next element limit false rest) fun values rest =>
      .ok (value :: values, rest)

/-- A list of elements after its blanks is read with what closes it. -/
theorem Listed.readElements (fault : SyntaxFault) (separates : Separates next closing starts)
    (reads : ReadsElement element form starts) {text : List Char} {values : List α}
    (listed : Listed (Padded form) text values) (rest : List Char) {limit : Nat}
    (enough : values.length ≤ limit) :
    ∃ blanks inner, Blanks blanks ∧ text = blanks ++ inner ∧ starts (inner ++ closing :: rest) ∧
      Json.readElements fault next element limit (inner ++ closing :: rest) =
        .ok (values, rest) := by
  induction listed generalizing limit with
  | @one text value padded =>
    obtain ⟨before, core, after, blankBefore, formed, blankAfter, rfl⟩ := padded_iff.mp padded
    have read : element (core ++ (after ++ closing :: rest)) =
        .ok (value, after ++ closing :: rest) :=
      reads.complete formed (.of_blanks blankAfter (separates.ends rest))
    obtain ⟨previous, rfl⟩ : ∃ previous, limit = previous + 1 := Nat.exists_eq_succ_of_ne_zero
      (Nat.ne_of_gt enough)
    refine ⟨before, core ++ after, blankBefore, rfl, ?_, ?_⟩
    · rw [List.append_assoc]
      exact reads.begins _ formed
    · rw [List.append_assoc, Json.readElements, read]
      simp [readSeries, separates.closes rest blankAfter]
  | @more text others value values padded _ ih =>
    obtain ⟨before, core, after, blankBefore, formed, blankAfter, rfl⟩ := padded_iff.mp padded
    obtain ⟨previous, rfl⟩ : ∃ previous, limit = previous + 1 := Nat.exists_eq_succ_of_ne_zero
      (by rintro rfl; cases enough)
    obtain ⟨blanks, inner, blank, rfl, begun, rest_read⟩ := ih (Nat.le_of_succ_le_succ enough)
    let left := after ++ ',' :: (blanks ++ (inner ++ closing :: rest))
    have read : element (core ++ left) = .ok (value, left) :=
      reads.complete formed (.of_blanks blankAfter (numberEnds_comma _))
    have separator : next false left = .ok (true, inner ++ closing :: rest) :=
      separates.continues blankAfter blank begun
    have others_read : readSeries fault next element (previous + 1) false left =
        .ok (values, rest) := by
      rw [readSeries, separator]
      exact rest_read
    refine ⟨before, core ++ (after ++ ',' :: (blanks ++ inner)), blankBefore, by simp, ?_, ?_⟩
    · rw [List.append_assoc]
      exact reads.begins _ formed
    · have same :
          core ++ (after ++ ',' :: (blanks ++ inner)) ++ closing :: rest = core ++ left := by
        simp [left]
      rw [same, Json.readElements, read, andThen_ok, others_read, andThen_ok]

theorem Enclosed.readSeries (separates : Separates next closing starts)
    (reads : ReadsElement element form starts) {opening : Char} {text : List Char}
    {values : List α} (enclosed : Enclosed opening closing form text values) (rest : List Char) :
    ∃ inner, text = opening :: inner ∧
      Json.readSeries fault next element ((inner ++ rest).length + 1) true (inner ++ rest) =
        .ok (values, rest) := by
  cases enclosed with
  | @empty blanks blank =>
    refine ⟨blanks ++ [closing], rfl, ?_⟩
    rw [List.append_assoc, List.singleton_append, Json.readSeries, separates.closes rest blank]
    simp
  | @full inner _ listed =>
    have enough : values.length ≤ (inner ++ [closing] ++ rest).length := by
      have bound := listed.length_le
      simp only [List.length_append, List.length_singleton]
      omega
    obtain ⟨blanks, core, blank, rfl, begun, read⟩ :=
      listed.readElements fault separates reads rest enough
    refine ⟨blanks ++ core ++ [closing], rfl, ?_⟩
    simp only [List.append_assoc, List.singleton_append] at read ⊢
    rw [Json.readSeries, separates.opens blank begun]
    exact read

/-- Any limit beyond the number of elements will do. -/
theorem readSeries_of_limit {limit limit' : Nat} {isFirst : Bool} {text rest : List Char}
    {values : List α}
    (read : readSeries fault next element limit isFirst text = .ok (values, rest))
    (enough : values.length < limit') :
    readSeries fault next element limit' isFirst text = .ok (values, rest) := by
  induction limit generalizing limit' isFirst text values with
  | zero => cases read
  | succ limit ih =>
    obtain ⟨limit', rfl⟩ : ∃ previous, limit' = previous + 1 :=
      Nat.exists_eq_succ_of_ne_zero (Nat.ne_of_gt (Nat.zero_lt_of_lt enough))
    obtain ⟨more, after, separator, read⟩ := andThen_eq_ok.mp read
    rw [readSeries, separator, andThen_ok]
    cases more with
    | false => exact read
    | true =>
      obtain ⟨value, afterValue, first, read⟩ := andThen_eq_ok.mp read
      obtain ⟨values', afterAll, others, built⟩ := andThen_eq_ok.mp read
      cases built
      rw [if_pos rfl, first, andThen_ok, ih others (Nat.lt_of_succ_lt_succ enough), andThen_ok]

theorem length_lt_of_readSeries (separates : Separates next closing starts)
    (reads : ReadsElement element form starts) {limit : Nat} {text rest : List Char}
    {values : List α}
    (read : readSeries fault next element limit false text = .ok (values, rest)) :
    values.length < text.length := by
  obtain ⟨blanks, -, ⟨rfl, rfl⟩ | ⟨inner, rfl, listed⟩⟩ := listed_of_readSeries separates reads read
  · simp only [List.length_nil, List.length_append, List.length_cons]
    omega
  · have bound := listed.length_le
    simp only [List.length_append, List.length_cons]
    omega

end Series

section Separators

/-- Begins with something that neither separates nor closes the items of an array. -/
def ItemStarts (rest : List Char) : Prop :=
  ∃ character others, rest = character :: others ∧ isSpace character = false ∧
    character ≠ ',' ∧ character ≠ ']'

def MemberStarts (rest : List Char) : Prop := ∃ others, rest = '"' :: others

theorem separates_nextItem : Separates nextItem ']' ItemStarts where
  sound := by
    intro isFirst more text rest read
    obtain ⟨blanks, blank, same⟩ := exists_blanks text
    rw [same]
    unfold nextItem at read
    split at read
    next => cases read
    next left skipped =>
      cases read
      rw [skipped]
      exact .last blank
    next left skipped =>
      cases isFirst with
      | true =>
        cases read
        rw [skipped]
        exact .first blank
      | false =>
        obtain ⟨after, blankAfter, sameLeft⟩ := exists_blanks left
        rw [skipped, sameLeft]
        simp only [Bool.false_eq_true, if_false] at read
        split at read
        next => cases read
        next => cases read
        next =>
          cases read
          exact .later blank blankAfter
    next =>
      cases isFirst with
      | true =>
        cases read
        exact .first blank
      | false => cases read
  closes := by
    intro isFirst blanks rest blank
    simp [nextItem, skipSpaces_append blank,
      skipSpaces_cons rest (show isSpace ']' = false by decide)]
  opens := by
    rintro blanks rest blank ⟨character, others, rfl, visible, notComma, notClosing⟩
    rw [nextItem, skipSpaces_append blank, skipSpaces_cons others visible]
    split <;> simp_all
  continues := by
    rintro before after rest blankBefore blankAfter
      ⟨character, others, rfl, visible, notComma, notClosing⟩
    rw [nextItem, skipSpaces_append blankBefore,
      skipSpaces_cons _ (show isSpace ',' = false by decide)]
    simp only [Bool.false_eq_true, if_false]
    rw [skipSpaces_append blankAfter, skipSpaces_cons others visible]
    split <;> simp_all
  ends := by
    rintro rest character ⟨⟩
    decide

theorem separates_nextMember : Separates nextMember '\x7d' MemberStarts where
  sound := by
    intro isFirst more text rest read
    obtain ⟨blanks, blank, same⟩ := exists_blanks text
    rw [same]
    unfold nextMember at read
    split at read
    next => cases read
    next left skipped =>
      cases read
      rw [skipped]
      exact .last blank
    next left skipped =>
      cases isFirst with
      | true =>
        cases read
        rw [skipped]
        exact .first blank
      | false => cases read
    next left skipped =>
      cases isFirst with
      | true => cases read
      | false =>
        obtain ⟨after, blankAfter, sameLeft⟩ := exists_blanks left
        rw [skipped, sameLeft]
        simp only [Bool.false_eq_true, if_false] at read
        split at read
        next => cases read
        next others skippedLeft =>
          cases read
          rw [skippedLeft]
          exact .later blank blankAfter
        next => cases read
        next => cases read
    next => cases read
  closes := by
    intro isFirst blanks rest blank
    simp [nextMember, skipSpaces_append blank,
      skipSpaces_cons rest (show isSpace '\x7d' = false by decide)]
  opens := by
    rintro blanks rest blank ⟨others, rfl⟩
    simp [nextMember, skipSpaces_append blank,
      skipSpaces_cons others (show isSpace '"' = false by decide)]
  continues := by
    rintro before after rest blankBefore blankAfter ⟨others, rfl⟩
    simp [nextMember, skipSpaces_append blankBefore, skipSpaces_append blankAfter,
      skipSpaces_cons _ (show isSpace ',' = false by decide),
      skipSpaces_cons others (show isSpace '"' = false by decide)]
  ends := by
    rintro rest character ⟨⟩
    decide

end Separators

section Members

/-- A member of an object, from the quote of its name. -/
def readMember (readItem : List Char → Reading Json) : List Char → Reading (String × Json)
  | '"' :: text =>
      andThen (readString text) fun name rest =>
        andThen (readColon rest) fun _ rest =>
          andThen (readItem rest) fun item rest => .ok ((name, item), rest)
  | text => stopBefore .keyNotString text

theorem readItems_eq (readItem : List Char → Reading Json) (limit : Nat) (isFirst : Bool)
    (text : List Char) :
    readItems readItem limit isFirst text =
      readSeries .endInList nextItem readItem limit isFirst text := by
  induction limit generalizing isFirst text with
  | zero => rfl
  | succ limit ih => simp only [readItems, readSeries, ih]

theorem nextMember_quote {isFirst : Bool} {text rest : List Char}
    (read : nextMember isFirst text = .ok (true, rest)) : MemberStarts rest := by
  unfold nextMember at read
  split at read
  next => cases read
  next => cases read
  next left _ =>
    split at read <;> cases read
    exact ⟨left, rfl⟩
  next =>
    split at read
    next => cases read
    next =>
      split at read <;> cases read
      exact ⟨_, rfl⟩
  next => cases read

theorem readMembers_eq (readItem : List Char → Reading Json) (limit : Nat) (isFirst : Bool)
    (text : List Char) :
    readMembers readItem limit isFirst text =
      readSeries .endInObject nextMember (readMember readItem) limit isFirst text := by
  induction limit generalizing isFirst text with
  | zero => rfl
  | succ limit ih =>
    simp only [readMembers, readSeries, ih]
    match separator : nextMember isFirst text with
    | .error _ => rfl
    | .ok (false, _) => rfl
    | .ok (true, _) =>
      obtain ⟨left, rfl⟩ := nextMember_quote separator
      simp only [andThen_ok, if_true, List.tail_cons, readMember, andThen_assoc]

theorem recognizes_readColon :
    Recognizes readColon (fun taken _ => ∃ blanks, Blanks blanks ∧ taken = blanks ++ [':'])
      Anything where
  sound := by
    intro text rest value read
    obtain ⟨blanks, blank, same⟩ := exists_blanks text
    unfold readColon at read
    split at read
    next => cases read
    next left skipped =>
      cases read
      exact ⟨blanks ++ [':'], by simpa [skipped] using same, blanks, blank, rfl⟩
    next => cases read
  complete := by
    rintro taken rest value ⟨blanks, blank, rfl⟩ -
    simp [readColon, skipSpaces_append blank,
      skipSpaces_cons rest (show isSpace ':' = false by decide)]

theorem readsElement_readMember {readItem : List Char → Reading Json}
    {form : List Char → Json → Prop} (recognized : Recognizes readItem (Indented form) NumberEnds) :
    ReadsElement (readMember readItem) (Member form) MemberStarts where
  sound := by
    intro text rest member read
    unfold readMember at read
    split at read
    next =>
      obtain ⟨name, afterName, named, read⟩ := andThen_eq_ok.mp read
      obtain ⟨_, afterColon, colon, read⟩ := andThen_eq_ok.mp read
      obtain ⟨item, afterItem, valued, built⟩ := andThen_eq_ok.mp read
      obtain ⟨closed, rfl, quoted⟩ := recognizes_readString.sound named
      obtain ⟨_, rfl, blanks, blank, rfl⟩ := recognizes_readColon.sound colon
      obtain ⟨taken, rfl, formed⟩ := recognized.sound valued
      cases built
      refine ⟨('"' :: closed) ++ (blanks ++ ':' :: taken), by simp,
        .of_form (.intro ?_ blank formed)⟩
      exact quoted_iff.mpr ⟨closed, rfl, quoted⟩
    next => cases read
  complete := by
    rintro taken rest member ⟨quoted, blank, formed⟩ ended
    rename_i quotedText blanks text name item
    obtain ⟨closed, rfl, spelled⟩ := quoted_iff.mp quoted
    have named : readString (closed ++ (blanks ++ [':'] ++ (text ++ rest))) =
        .ok (name, blanks ++ [':'] ++ (text ++ rest)) :=
      recognizes_readString.complete spelled trivial
    have colon : readColon (blanks ++ [':'] ++ (text ++ rest)) = .ok ((), text ++ rest) :=
      recognizes_readColon.complete ⟨blanks, blank, rfl⟩ trivial
    have valued := recognized.complete formed ended
    simp only [List.append_assoc, List.singleton_append] at named colon
    simp [readMember, named, colon, valued]
  begins := by
    rintro taken member rest ⟨quoted, blank, formed⟩
    obtain ⟨closed, rfl, -⟩ := quoted_iff.mp quoted
    exact ⟨_, rfl⟩

end Members

end AtLeastOnce.Json
