import AtLeastOnce.Proofs.Config.Precedence
import Mathlib.Data.List.Infix
import Mathlib.Data.List.TakeWhile

/-!
# Variables that are spelled from a section and a field

The name of such a variable leads to the field of the section and nowhere else, so a place
holds what the last variable says that is spelled for it.
-/

namespace AtLeastOnce.Config

open Environment

/-- A text without points, brackets and two underscores in a row. -/
structure IsWord (text : List Char) : Prop where
  unpointed : '.' ∉ text
  unbracketed : '[' ∉ text
  single : ¬ ['_', '_'] <:+: text

instance (text : List Char) : Decidable (IsWord text) :=
  decidable_of_iff ('.' ∉ text ∧ '[' ∉ text ∧ ¬ ['_', '_'] <:+: text)
    ⟨fun ⟨unpointed, unbracketed, single⟩ => ⟨unpointed, unbracketed, single⟩,
      fun ⟨unpointed, unbracketed, single⟩ => ⟨unpointed, unbracketed, single⟩⟩

/-- The name of a variable that sets a place, in letters of any case. -/
def Spells (name : String) (spot : Spot) : Prop :=
  Text.lower name.toList =
    "sqs_consumer__".toList ++ (spot.root.toList ++ "__".toList ++ spot.field.toList)

instance (name : String) (spot : Spot) : Decidable (Spells name spot) :=
  inferInstanceAs (Decidable (_ = _))

/-- The variables that are meant for configuration, by the beginning of their names, each
name a section and a field of it. -/
def Spelled (environment : Variables) : Prop :=
  ∀ setting ∈ environment, "sqs_consumer__".toList <+: Text.lower setting.1.toList →
    ∃ spot : Spot, IsWord spot.root.toList ∧ spot.root.toList.getLast? ≠ some '_' ∧
      IsWord spot.field.toList ∧ Spells setting.1 spot

/-- What the last variable says that is spelled for a place. -/
def told? (spot : Spot) (environment : Variables) : Option String :=
  (environment.reverse.find? fun setting => Spells setting.1 spot).map Prod.snd

section

variable {text root field : List Char} {character : Char}

theorem pointed_cons (single : ¬ ['_', '_'] <+: character :: text) :
    pointed (character :: text) = character :: pointed text := by
  rw [pointed]
  rintro rest rfl rfl
  exact single (List.prefix_append ['_', '_'] rest)

theorem pointed_eq_self (single : ¬ ['_', '_'] <:+: text) : pointed text = text := by
  induction text with
  | nil => rfl
  | cons character rest induction =>
      rw [pointed_cons fun here => single here.isInfix,
        induction fun later => single (later.trans (List.suffix_cons character rest).isInfix)]

theorem pointed_append (single : ¬ ['_', '_'] <:+: root) (closed : root.getLast? ≠ some '_') :
    pointed (root ++ '_' :: '_' :: field) = root ++ '.' :: pointed field := by
  induction root with
  | nil => rfl
  | cons character rest induction =>
      have apart : ¬ ['_', '_'] <+: character :: (rest ++ '_' :: '_' :: field) := by
        intro here
        cases rest with
        | nil =>
            have last : '_' = character := (List.cons_prefix_cons.mp here).1
            exact closed (by rw [last]; rfl)
        | cons next rest =>
            obtain ⟨rfl, second⟩ := List.cons_prefix_cons.mp here
            obtain ⟨rfl, _⟩ := List.cons_prefix_cons.mp second
            exact single (List.prefix_append ['_', '_'] rest).isInfix
      have later : rest.getLast? ≠ some '_' := by
        intro last
        apply closed
        rw [List.getLast?_cons, last]
        rfl
      rw [List.cons_append, pointed_cons apart,
        induction (fun inside => single (inside.trans (List.suffix_cons character rest).isInfix))
          later, List.cons_append]

/-- A name ends where a text does, or within it. -/
theorem takeName?_append (text : List Char) {tail : List Char}
    (ends : ∀ next ∈ tail.head?, Path.isNameCharacter next = false) :
    Path.takeName? (text ++ tail) = none ∨
      Path.takeName? (text ++ tail) = some (String.ofList text, tail) ∨
      ∃ name inner rest, Path.takeName? (text ++ tail) = some (name, inner :: rest) ∧
        inner ∈ text := by
  have after : tail.takeWhile Path.isNameCharacter = [] ∧
      tail.dropWhile Path.isNameCharacter = tail := by
    cases tail with
    | nil => exact ⟨rfl, rfl⟩
    | cons next tail =>
        have refused := ends next rfl
        simp [refused]
  unfold Path.takeName?
  dsimp only
  split
  next => exact .inl rfl
  next =>
    right
    cases left : text.dropWhile Path.isNameCharacter with
    | nil =>
        left
        have whole : ∀ character ∈ text, Path.isNameCharacter character = true :=
          List.dropWhile_eq_nil_iff.mp left
        rw [List.takeWhile_append_of_pos whole, after.1, List.append_nil,
          List.dropWhile_append_of_pos whole, after.2]
    | cons inner rest =>
        right
        refine ⟨String.ofList ((text ++ tail).takeWhile Path.isNameCharacter), inner,
          rest ++ tail, ?_, ?_⟩
        · rw [List.dropWhile_append, left]
          rfl
        · have suffix := List.dropWhile_suffix (l := text) Path.isNameCharacter
          rw [left] at suffix
          exact suffix.subset List.mem_cons_self

/-- No steps can be read from what goes on in another way than with a point or a bracket. -/
theorem takeSteps?_eq_none {limit : Nat} (unpointed : character ≠ '.')
    (unbracketed : character ≠ '[') : Path.takeSteps? limit (character :: text) = none := by
  unfold Path.takeSteps?
  split <;> simp_all

end

section

variable {spot : Spot} {name : String} {environment : Variables}

theorem key?_of_spells (root : IsWord spot.root.toList)
    (closed : spot.root.toList.getLast? ≠ some '_') (field : IsWord spot.field.toList)
    (spelled : Spells name spot) : key? name = some spot.key := by
  have parts : Text.lower name.toList =
      leading ++ (spot.root.toList ++ '_' :: '_' :: spot.field.toList) := by
    have between : "__".toList = ['_', '_'] := rfl
    rw [spelled, between, List.append_assoc spot.root.toList]
    rfl
  have begins : leading.isPrefixOf (Text.lower name.toList) = true := by
    rw [parts]
    exact List.isPrefixOf_iff_prefix.mpr (List.prefix_append leading _)
  unfold key?
  dsimp only
  rw [if_pos begins, parts, List.drop_left, pointed_append root.single closed,
    pointed_eq_self field.single]
  simp [Spot.key, ← String.toList_inj]

/-- The key of a spelled name is the path to its place, or no path. -/
theorem ofKey_key (root : IsWord spot.root.toList) (field : IsWord spot.field.toList) :
    Path.ofKey spot.key = spot.path ∨ Path.ofKey spot.key = ⟨spot.key, []⟩ := by
  have characters : spot.key.toList = spot.root.toList ++ '.' :: spot.field.toList := by
    simp [Spot.key]
  unfold Path.ofKey Path.read?
  rw [characters]
  have pointEnds : ∀ next ∈ ('.' :: spot.field.toList).head?,
      Path.isNameCharacter next = false := by
    intro next first
    cases first
    rfl
  rcases takeName?_append spot.root.toList pointEnds with
    none | whole | ⟨name, inner, rest, part, member⟩
  · right
    rw [none]
    rfl
  · rw [whole]
    have fieldEnds : ∀ next ∈ ([] : List Char).head?, Path.isNameCharacter next = false := by
      simp
    have taken := takeName?_append spot.field.toList fieldEnds
    rw [List.append_nil] at taken
    rcases taken with none | whole | ⟨name, inner, rest, part, member⟩
    · right
      simp [Path.takeSteps?, none]
    · left
      simp [Path.takeSteps?, whole, Spot.path]
    · right
      have nothing : ∀ limit, Path.takeSteps? limit (inner :: rest) = none := fun _ =>
        takeSteps?_eq_none (ne_of_mem_of_not_mem member field.unpointed)
          (ne_of_mem_of_not_mem member field.unbracketed)
      simp [Path.takeSteps?, part, nothing]
  · right
    have nothing : ∀ limit, Path.takeSteps? limit (inner :: rest) = none := fun _ =>
      takeSteps?_eq_none (ne_of_mem_of_not_mem member root.unpointed)
        (ne_of_mem_of_not_mem member root.unbracketed)
    simp [part, nothing]

/-- A variable that is spelled sets the place that it is spelled for, or no place. -/
theorem key?_cases (spelled : Spelled environment) {setting : String × String}
    (member : setting ∈ environment) {key : String} (keyed : key? setting.1 = some key) :
    ∃ spot : Spot, IsWord spot.root.toList ∧ IsWord spot.field.toList ∧
      Spells setting.1 spot ∧ key = spot.key := by
  have begins : leading <+: Text.lower setting.1.toList := by
    unfold key? at keyed
    dsimp only at keyed
    split at keyed
    next prefixed => exact List.isPrefixOf_iff_prefix.mp prefixed
    next => cases keyed
  obtain ⟨spot, root, closed, field, spells⟩ := spelled setting member begins
  rw [key?_of_spells root closed field spells, Option.some.injEq] at keyed
  exact ⟨spot, root, field, spells, keyed.symm⟩

theorem Spelled.fieldWise (spelled : Spelled environment) {root : String}
    (unpointed : '.' ∉ root.toList) : FieldWise root environment := by
  intro setting member key keyed leads
  obtain ⟨spot, isRoot, isField, _, rfl⟩ := key?_cases spelled member keyed
  rcases ofKey_key isRoot isField with path | alone
  · rw [path] at leads
    subst leads
    exact ⟨spot.field, path⟩
  · rw [alone] at leads
    subst leads
    simp [Spot.key] at unpointed

/-- A spelled name leads to a place if and only if it is spelled for it. -/
theorem leads_iff_spells (spelled : Spelled environment) (root : IsWord spot.root.toList)
    (closed : spot.root.toList.getLast? ≠ some '_') (field : IsWord spot.field.toList)
    (path : Path.ofKey spot.key = spot.path) {setting : String × String}
    (member : setting ∈ environment) :
    (key? setting.1).map Path.ofKey = some spot.path ↔ Spells setting.1 spot := by
  constructor
  · intro leads
    obtain ⟨key, keyed, leads⟩ := Option.map_eq_some_iff.mp leads
    obtain ⟨other, isRoot, isField, spells, rfl⟩ := key?_cases spelled member keyed
    rcases ofKey_key isRoot isField with elsewhere | alone
    · have same : other = spot := by
        obtain ⟨otherRoot, otherField⟩ := other
        obtain ⟨ownRoot, ownField⟩ := spot
        rw [elsewhere] at leads
        cases leads
        rfl
      rwa [same] at spells
    · rw [alone] at leads
      cases (Path.mk.inj leads).2
  · intro spells
    rw [key?_of_spells root closed field spells, Option.map_some, path]

/-- What the variables give a place is what the last one says that is spelled for it. -/
theorem given?_eq_told? (spelled : Spelled environment) (root : IsWord spot.root.toList)
    (closed : spot.root.toList.getLast? ≠ some '_') (field : IsWord spot.field.toList)
    (path : Path.ofKey spot.key = spot.path) :
    given? spot environment = (told? spot environment).map scalar := by
  have leads : ∀ setting ∈ environment.reverse,
      (key? setting.1).map Path.ofKey = some spot.path ↔ Spells setting.1 spot :=
    fun _ member =>
      leads_iff_spells spelled root closed field path (List.mem_reverse.mp member)
  unfold given? told?
  generalize environment.reverse = settings at leads
  clear spelled
  induction settings with
  | nil => rfl
  | cons setting rest induction =>
      obtain ⟨name, value⟩ := setting
      have later := induction fun other member => leads other (List.mem_cons_of_mem _ member)
      have first := leads (name, value) List.mem_cons_self
      rw [List.findSome?_cons, List.find?_cons]
      dsimp only at first ⊢
      by_cases spells : Spells name spot
      · simp [first.mpr spells, spells]
      · rw [if_neg fun leads => spells (first.mp leads), decide_eq_false spells]
        exact later

end

end AtLeastOnce.Config
