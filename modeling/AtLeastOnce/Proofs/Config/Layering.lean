import AtLeastOnce.Config.Environment
import AtLeastOnce.Config.Layers

/-!
# What a configuration holds in a place

A place is a field of a section.  A change of another place leaves it alone, and
the last scalar that is laid over it stays there; so of the variables that set a
place only those with its own key matter.
-/

namespace AtLeastOnce.Config

structure Spot where
  root : String
  field : String
  deriving DecidableEq, Repr

def Spot.path (spot : Spot) : Path := ⟨spot.root, [.key spot.field]⟩

/-- A path that leads to another section, or to another field of the section. -/
inductive Path.Apart (spot : Spot) : Path → Prop where
  | root {root : String} {steps : List Step} :
      root ≠ spot.root → Path.Apart spot ⟨root, steps⟩
  | field {name : String} {steps : List Step} :
      name ≠ spot.field → Path.Apart spot ⟨spot.root, .key name :: steps⟩

theorem Path.Apart.ne {spot : Spot} {path : Path} (apart : path.Apart spot) : path ≠ spot.path := by
  rintro rfl
  cases apart with
  | root other => exact other rfl
  | field other => exact other rfl

namespace Entries

def at? (spot : Spot) (entries : Entries) : Option Tree :=
  (entries.lookup spot.root).bind fun tree => tree.entries.lookup spot.field

theorem lookup_cons_of_ne {key name : String} (differs : key ≠ name) (tree : Tree)
    (rest : Entries) : List.lookup key ((name, tree) :: rest) = List.lookup key rest := by
  have unequal : (key == name) = false := by simpa using differs
  rw [List.lookup_cons, unequal]

theorem lookup_change_self (key : String) (edit : Tree → Tree) (entries : Entries) :
    List.lookup key (entries.change key edit) =
      some (edit ((List.lookup key entries).getD .unset)) := by
  induction entries with
  | nil => simp [change]
  | cons entry rest ih =>
    obtain ⟨name, tree⟩ := entry
    by_cases same : name = key
    · subst same
      simp [change]
    · rw [change, if_neg same, lookup_cons_of_ne (Ne.symm same), lookup_cons_of_ne (Ne.symm same)]
      exact ih

theorem lookup_change_of_ne {key other : String} (differs : other ≠ key) (edit : Tree → Tree)
    (entries : Entries) :
    List.lookup other (entries.change key edit) = List.lookup other entries := by
  induction entries with
  | nil => exact lookup_cons_of_ne differs _ []
  | cons entry rest ih =>
    obtain ⟨name, tree⟩ := entry
    by_cases same : name = key
    · subst same
      rw [change, if_pos rfl, lookup_cons_of_ne differs, lookup_cons_of_ne differs]
    · simp [change, same, List.lookup_cons, ih]

theorem at?_changePath_self (spot : Spot) (edit : Tree → Tree) (entries : Entries) :
    ∃ below, (entries.changePath spot.path edit).at? spot = some (edit below) := by
  rw [changePath, at?, Spot.path, lookup_change_self]
  simp only [Option.bind_some, changeAt, Tree.entries, lookup_change_self]
  exact ⟨_, rfl⟩

theorem at?_changePath_apart {spot : Spot} {path : Path} (apart : path.Apart spot)
    (edit : Tree → Tree) {entries : Entries} {held : Tree} (before : entries.at? spot = some held) :
    (entries.changePath path edit).at? spot = some held := by
  cases apart with
  | root other =>
    rw [changePath, at?, lookup_change_of_ne (Ne.symm other)]
    exact before
  | @field name steps other =>
    obtain ⟨tree, found, inside⟩ := Option.bind_eq_some_iff.mp before
    rw [changePath, at?, lookup_change_self, found]
    simp only [Option.bind_some, Option.getD_some, changeAt, Tree.entries,
      lookup_change_of_ne (Ne.symm other)]
    exact inside

end Entries

/-- The entries of a source give a place one scalar and otherwise lead elsewhere. -/
structure Gives (source : Entries) (spot : Spot) (key : String) (origin : Option String)
    (value : Scalar) : Prop where
  given : (key, Tree.leaf origin value) ∈ source
  path : Path.ofKey key = spot.path
  others : ∀ entry ∈ source,
    entry = (key, .leaf origin value) ∨ (Path.ofKey entry.1).Apart spot

theorem at?_foldl_layEntry {spot : Spot} {key : String} {origin : Option String} {value : Scalar}
    (path : Path.ofKey key = spot.path) {source : Entries}
    (others : ∀ entry ∈ source,
      entry = (key, .leaf origin value) ∨ (Path.ofKey entry.1).Apart spot)
    {below : Entries}
    (held : below.at? spot = some (.leaf origin value) ∨ (key, Tree.leaf origin value) ∈ source) :
    (source.foldl layEntry below).at? spot = some (.leaf origin value) := by
  induction source generalizing below with
  | nil =>
    rcases held with held | member
    · exact held
    · cases member
  | cons entry rest ih =>
    rw [List.foldl_cons]
    have later := fun other member => others other (List.mem_cons_of_mem entry member)
    rcases others entry List.mem_cons_self with rfl | apart
    · apply ih later
      left
      obtain ⟨_, laid⟩ := Entries.at?_changePath_self spot (overlay (.leaf origin value)) below
      rw [layEntry, path, laid]
      simp [overlay]
    · apply ih later
      rcases held with held | member
      · left
        exact Entries.at?_changePath_apart apart _ held
      · rcases List.mem_cons.mp member with rfl | member
        · exact absurd path apart.ne
        · right
          exact member

/-- What the last source gives a place is what the configuration holds there. -/
theorem Gives.at?_layer {source : Entries} {spot : Spot} {key : String} {origin : Option String}
    {value : Scalar} (gives : Gives source spot key origin value) (below : Entries) :
    (layer below source).at? spot = some (.leaf origin value) :=
  at?_foldl_layEntry gives.path gives.others (.inr gives.given)

section Environment

open Environment

/-- A name that sets another place, or that is not meant for configuration. -/
def NameApart (spot : Spot) (name : String) : Prop :=
  ∀ key, key? name = some key → (Path.ofKey key).Apart spot

theorem mem_put {key : String} {tree : Tree} {entries : Entries} {entry : String × Tree}
    (member : entry ∈ entries.put key tree) : entry = (key, tree) ∨ entry ∈ entries := by
  induction entries with
  | nil => exact .inl (by simpa [Entries.put, Entries.change] using member)
  | cons first rest ih =>
    obtain ⟨name, held⟩ := first
    by_cases same : name = key
    · subst same
      simp only [Entries.put, Entries.change, if_true, List.mem_cons] at member
      rcases member with rfl | member
      · exact .inl rfl
      · exact .inr (List.mem_cons_of_mem _ member)
    · simp only [Entries.put, Entries.change, same, if_false, List.mem_cons] at member
      rcases member with rfl | member
      · exact .inr List.mem_cons_self
      · exact (ih member).imp_right (List.mem_cons_of_mem _)

theorem mem_put_self (key : String) (tree : Tree) (entries : Entries) :
    (key, tree) ∈ entries.put key tree := by
  induction entries with
  | nil => simp [Entries.put, Entries.change]
  | cons first rest ih =>
    obtain ⟨name, held⟩ := first
    by_cases same : name = key
    · subst same
      simp [Entries.put, Entries.change]
    · simp only [Entries.put, Entries.change, same, if_false]
      exact List.mem_cons_of_mem _ ih

theorem mem_put_of_ne {key : String} {tree : Tree} {entries : Entries} {entry : String × Tree}
    (differs : entry.1 ≠ key) (member : entry ∈ entries) : entry ∈ entries.put key tree := by
  induction entries with
  | nil => cases member
  | cons first rest ih =>
    obtain ⟨name, held⟩ := first
    by_cases same : name = key
    · subst same
      simp only [Entries.put, Entries.change, if_true]
      rcases List.mem_cons.mp member with rfl | member
      · exact absurd rfl differs
      · exact List.mem_cons_of_mem _ member
    · simp only [Entries.put, Entries.change, same, if_false]
      rcases List.mem_cons.mp member with rfl | member
      · exact List.mem_cons_self
      · exact List.mem_cons_of_mem _ (ih member)

theorem gives_foldl_put {spot : Spot} {key : String} {origin : Option String} {value : Scalar}
    (path : Path.ofKey key = spot.path) {made held : Entries}
    (apart : ∀ entry ∈ made ++ held,
      entry = (key, .leaf origin value) ∨ (Path.ofKey entry.1).Apart spot)
    (given : (key, Tree.leaf origin value) ∈ made ++ held) :
    Gives (made.foldl (fun entries (key, tree) => entries.put key tree) held) spot key origin
      value := by
  induction made generalizing held with
  | nil => exact ⟨given, path, apart⟩
  | cons entry rest ih =>
    obtain ⟨name, tree⟩ := entry
    rw [List.foldl_cons]
    apply ih
    · intro other member
      rcases List.mem_append.mp member with member | member
      · exact apart other (List.mem_append_left _ (List.mem_cons_of_mem _ member))
      · rcases mem_put member with rfl | member
        · exact apart _ (List.mem_append_left _ List.mem_cons_self)
        · exact apart other (List.mem_append_right _ member)
    · rcases List.mem_append.mp given with member | member
      · rcases List.mem_cons.mp member with same | member
        · cases same
          exact List.mem_append_right _ (mem_put_self _ _ _)
        · exact List.mem_append_left _ member
      · -- What was there already is only replaced by an entry with the same key.
        rcases apart (name, tree) (List.mem_append_left _ List.mem_cons_self) with same | leads
        · cases same
          exact List.mem_append_right _ (mem_put_self _ _ _)
        · apply List.mem_append_right
          apply mem_put_of_ne _ member
          rintro rfl
          exact leads.ne path

/-- A variable gives its place what its value is read as. -/
theorem gives_entries {spot : Spot} {environment : Variables} {name key value : String}
    (named : key? name = some key) (path : Path.ofKey key = spot.path)
    (set : (name, value) ∈ environment)
    (others : ∀ setting ∈ environment, setting = (name, value) ∨ NameApart spot setting.1) :
    Gives (entries environment) spot key (some origin) (scalar value) := by
  apply gives_foldl_put path
  · intro entry member
    rw [List.append_nil] at member
    obtain ⟨setting, inside, made⟩ := List.mem_filterMap.mp member
    obtain ⟨key', keyed, rfl⟩ := Option.map_eq_some_iff.mp made
    rcases others setting inside with rfl | apart
    · rw [named] at keyed
      cases keyed
      exact .inl rfl
    · exact .inr (apart key' keyed)
  · rw [List.append_nil]
    exact List.mem_filterMap.mpr ⟨(name, value), set, by simp [named, entry?]⟩

end Environment

end AtLeastOnce.Config
