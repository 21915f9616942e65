import AtLeastOnce.Config.Files
import AtLeastOnce.Proofs.Success

/-!
# Which file a name stands for

A name stands for the file of this very name, if there is one, and otherwise for the
first one that there is with an ending added.
-/

namespace AtLeastOnce.Config.Files

variable {files : Files} {name : String} {found : Found} {entries : Entries}

/-- The known endings, in the order in which they are tried. -/
def formats : List (String × Format) :=
  [("toml", .toml), ("json", .json), ("yaml", .yaml), ("yml", .yaml)]

/-- A path with an ending added to its last part. -/
def withEnding (path : List String) (ending : String) : List String :=
  path.dropLast ++ [path.getLastD "" ++ "." ++ ending]

/-- The file of a name that is a path from the working directory.  The one of this very
name needs an ending that is known; another one is looked for only if there is none. -/
inductive Chosen (files : Files) (name : String) : Found → Prop where
  | exact {text ending : String} {format : Format} :
      name.toList.head? ≠ some '/' → endsInDirectory name.toList = false →
      contents? files (parts name) = some text →
      ending? ((parts name).getLastD "") = some ending → (ending, format) ∈ formats →
      Chosen files name ⟨originOf (parts name), format, text⟩
  | added {text ending : String} {format : Format} {before after : List (String × Format)} :
      name.toList.head? ≠ some '/' →
      (endsInDirectory name.toList = true ∨ contents? files (parts name) = none) →
      formats = before ++ (ending, format) :: after →
      (∀ other ∈ before, contents? files (withEnding (parts name) other.1) = none) →
      contents? files (withEnding (parts name) ending) = some text →
      Chosen files name ⟨originOf (withEnding (parts name) ending), format, text⟩

/-- There is a file for a name, and it is well formed and holds some entries. -/
def Supplies (files : Files) (name : String) (entries : Entries) : Prop :=
  ∃ found, Chosen files name found ∧
    found.format.read? (some found.origin) (withoutMark found.text.toList) = some entries

theorem mem_formats_iff {ending : String} {format : Format} :
    (ending, format) ∈ formats ↔ endings.lookup ending = some format := by
  unfold formats endings
  constructor
  · intro member
    simp only [List.mem_cons, Prod.mk.injEq, List.not_mem_nil, or_false] at member
    rcases member with ⟨rfl, rfl⟩ | ⟨rfl, rfl⟩ | ⟨rfl, rfl⟩ | ⟨rfl, rfl⟩ <;> rfl
  · intro known
    obtain ⟨before, after, same, _⟩ := List.lookup_eq_some_iff.mp known
    rw [same]
    exact List.mem_append_right before List.mem_cons_self

/-- Another file is looked for with one ending after the other. -/
theorem findWithEnding?_eq_some_iff {path : List String} :
    findWithEnding? files path = some found ↔
      ∃ before ending format after text,
        formats = before ++ (ending, format) :: after ∧
        (∀ other ∈ before, contents? files (withEnding path other.1) = none) ∧
        contents? files (withEnding path ending) = some text ∧
        ⟨originOf (withEnding path ending), format, text⟩ = found := by
  unfold findWithEnding?
  rw [List.findSome?_eq_some_iff]
  constructor
  · rintro ⟨before, ⟨ending, format⟩, after, same, first, others⟩
    obtain ⟨text, held, made⟩ := Option.map_eq_some_iff.mp first
    refine ⟨before, ending, format, after, text, same, ?_, held, made⟩
    intro other member
    exact Option.map_eq_none_iff.mp (others other member)
  · rintro ⟨before, ending, format, after, text, same, others, held, made⟩
    refine ⟨before, (ending, format), after, same, ?_, ?_⟩
    · exact Option.map_eq_some_iff.mpr ⟨text, held, made⟩
    · intro other member
      exact Option.map_eq_none_iff.mpr (others other member)

theorem entries_eq_ok_iff :
    found.entries = .ok entries ↔
      found.format.read? (some found.origin) (withoutMark found.text.toList) = some entries := by
  unfold Found.entries
  split
  next read => simp [read]
  next read => simp [read]

theorem find_eq_ok_iff : find files name = .ok found ↔ Chosen files name found := by
  unfold find
  dsimp only
  constructor
  · intro result
    split at result
    next => cases result
    next relative =>
      split at result
      next text exact =>
        split at result
        next format known =>
          cases result
          obtain ⟨ending, last, format⟩ := Option.bind_eq_some_iff.mp known
          split at exact
          next => cases exact
          next file =>
            exact .exact relative (Bool.eq_false_iff.mpr file) exact last
              (mem_formats_iff.mpr format)
        next => cases result
      next missing =>
        split at result
        next other added =>
          cases result
          obtain ⟨before, ending, format, after, text, same, others, held, rfl⟩ :=
            findWithEnding?_eq_some_iff.mp added
          refine .added relative ?_ same others held
          split at missing
          next directory => exact .inl directory
          next => exact .inr missing
        next => cases result
  · intro chosen
    cases chosen with
    | exact relative file held last known =>
        have format := mem_formats_iff.mp known
        rw [if_neg relative, file, held, last, Option.bind_some, format]
        rfl
    | added relative missing same others held =>
        have added := findWithEnding?_eq_some_iff.mpr ⟨_, _, _, _, _, same, others, held, rfl⟩
        have missing : (if endsInDirectory name.toList then none
            else contents? files (parts name)) = none := by
          split
          next => rfl
          next file => exact missing.resolve_left file
        simp [relative, missing, added]

/-- What a file holds that has to be there. -/
theorem require_eq_ok_iff : require files name = .ok entries ↔ Supplies files name entries := by
  unfold require Supplies
  constructor
  · intro read
    obtain ⟨found, chosen, held⟩ := bind_eq_ok.mp read
    exact ⟨found, find_eq_ok_iff.mp chosen, entries_eq_ok_iff.mp held⟩
  · rintro ⟨found, chosen, held⟩
    exact bind_eq_ok.mpr ⟨found, find_eq_ok_iff.mpr chosen, entries_eq_ok_iff.mpr held⟩

/-- What a file holds that may be missing. -/
theorem allow_eq_ok_iff :
    allow files name = .ok entries ↔
      Supplies files name entries ∨ (∀ found, ¬ Chosen files name found) ∧ entries = [] := by
  unfold allow Supplies
  cases read : find files name with
  | ok found =>
      have chosen := find_eq_ok_iff.mp read
      dsimp only
      rw [entries_eq_ok_iff]
      constructor
      · intro held
        exact .inl ⟨found, chosen, held⟩
      · rintro (⟨other, also, held⟩ | ⟨missing, _⟩)
        · rw [find_eq_ok_iff.mpr also] at read
          cases read
          exact held
        · exact (missing found chosen).elim
  | error =>
      have missing : ∀ found, ¬ Chosen files name found := by
        intro found chosen
        rw [find_eq_ok_iff.mpr chosen] at read
        cases read
      simp [missing, eq_comm]

end AtLeastOnce.Config.Files
