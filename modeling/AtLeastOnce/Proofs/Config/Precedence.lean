import AtLeastOnce.Proofs.Config.Layering

/-!
# Which source a place is read from

What a source says of a place is told by the last of its entries that leads there.  Laid
over a configuration, a source decides every place that it says anything of, and leaves
all others as they are; what it covers is lost, whatever it was.
-/

namespace AtLeastOnce.Config

/-- The scalar of a leaf.  Tables and lists have none. -/
def Tree.scalar? : Tree → Option Scalar
  | .leaf _ value => some value
  | .list _ _ => none
  | .table _ _ => none

/-- What a configuration holds in a place: nothing, a scalar, or no scalar. -/
def Entries.held? (entries : Entries) (spot : Spot) : Option (Option Scalar) :=
  (entries.at? spot).map Tree.scalar?

/-- What an entry of a source says of a place. -/
def mentionOf (spot : Spot) (entry : String × Tree) : Option (Option Scalar) :=
  let path := Path.ofKey entry.1
  if path.root = spot.root then
    match path.steps with
    | [] => (entry.2.entries.reverse.lookup spot.field).map Tree.scalar?
    | [.key name] => if name = spot.field then some entry.2.scalar? else none
    | .key name :: _ => if name = spot.field then some none else none
    | .index _ :: _ => none
  else none

/-- What a source says of a place. -/
def Entries.mention? (source : Entries) (spot : Spot) : Option (Option Scalar) :=
  source.reverse.findSome? (mentionOf spot)

/-- The key that leads to a place. -/
def Spot.key (spot : Spot) : String := spot.root ++ "." ++ spot.field

/-- A way into a section that makes it a table. -/
inductive IntoTable : List Step → Tree → Prop where
  | whole (origin : Option String) (entries : Entries) : IntoTable [] (.table origin entries)
  | field (name : String) (steps : List Step) (tree : Tree) : IntoTable (.key name :: steps) tree

instance (steps : List Step) (tree : Tree) : Decidable (IntoTable steps tree) :=
  match steps, tree with
  | [], .table origin entries => .isTrue (.whole origin entries)
  | .key name :: steps, tree => .isTrue (.field name steps tree)
  | [], .leaf _ _ => .isFalse nofun
  | [], .list _ _ => .isFalse nofun
  | .index _ :: _, _ => .isFalse nofun

/-- Whatever a source holds of a section is a table. -/
def Tabular (root : String) (source : Entries) : Prop :=
  ∀ entry ∈ source, (Path.ofKey entry.1).root = root →
    IntoTable (Path.ofKey entry.1).steps entry.2

instance (root : String) (source : Entries) : Decidable (Tabular root source) :=
  inferInstanceAs (Decidable (∀ entry ∈ source, _ → _))

section

variable {spot : Spot} {root : String} {below source : Entries} {entry : String × Tree}

theorem scalar?_overlay (tree below : Tree) : (overlay tree below).scalar? = tree.scalar? := by
  cases tree with
  | leaf | list | table => simp [overlay, Tree.scalar?]

theorem lookup_overlayEntries (field : String) (entries below : Entries) :
    ((overlayEntries entries below).lookup field).map Tree.scalar? =
      ((entries.reverse.lookup field).map Tree.scalar?).or
        ((below.lookup field).map Tree.scalar?) := by
  induction entries generalizing below with
  | nil => rw [overlayEntries]; rfl
  | cons entry rest induction =>
      obtain ⟨key, tree⟩ := entry
      rw [overlayEntries, induction, overlayEntry, List.reverse_cons, List.lookup_append,
        Option.map_or, Option.or_assoc]
      congr 1
      by_cases same : field = key
      · subst same
        rw [Entries.lookup_change_self]
        simp [scalar?_overlay]
      · rw [Entries.lookup_change_of_ne same, Entries.lookup_cons_of_ne same]
        rfl

theorem scalar?_changeAt (step : Step) (steps : List Step) (edit : Tree → Tree) (tree : Tree) :
    (changeAt (step :: steps) edit tree).scalar? = none := by
  cases step with
  | key | index => simp [changeAt, Tree.scalar?]

theorem entries_getD (entries : Entries) (root field : String) :
    ((entries.lookup root).getD .unset).entries.lookup field =
      (entries.lookup root).bind fun tree => tree.entries.lookup field := by
  cases entries.lookup root with
  | none | some => rfl

/-- An entry decides the places that it says anything of. -/
theorem held?_layEntry (table : (Path.ofKey entry.1).root = spot.root →
      IntoTable (Path.ofKey entry.1).steps entry.2) :
    (layEntry below entry).held? spot = (mentionOf spot entry).or (below.held? spot) := by
  obtain ⟨key, tree⟩ := entry
  rw [layEntry, Entries.held?, Entries.held?, Entries.changePath, Entries.at?, Entries.at?,
    mentionOf]
  dsimp only at table ⊢
  generalize Path.ofKey key = path at *
  obtain ⟨root, steps⟩ := path
  dsimp only at table ⊢
  by_cases same : root = spot.root
  · subst same
    rw [Entries.lookup_change_self, if_pos rfl, Option.bind_some]
    cases table rfl with
    | whole origin entries =>
        rw [changeAt, overlay, Tree.entries, lookup_overlayEntries, entries_getD]
        rfl
    | field name steps tree =>
        rw [changeAt, Tree.entries]
        by_cases named : spot.field = name
        · subst named
          rw [Entries.lookup_change_self]
          cases steps with
          | nil => simp [changeAt, scalar?_overlay]
          | cons step steps => simp [scalar?_changeAt]
        · rw [Entries.lookup_change_of_ne named, entries_getD]
          cases steps with
          | nil | cons => simp [Ne.symm named]
  · rw [Entries.lookup_change_of_ne (Ne.symm same), if_neg same]
    rfl

/-- A source decides the places that it says anything of. -/
theorem held?_layer (tabular : Tabular spot.root source) :
    (layer below source).held? spot = (source.mention? spot).or (below.held? spot) := by
  induction source generalizing below with
  | nil => rfl
  | cons entry rest induction =>
      have entryTable := tabular entry List.mem_cons_self
      have restTables : Tabular spot.root rest :=
        fun other member => tabular other (List.mem_cons_of_mem entry member)
      rw [layer, List.foldl_cons, ← layer, induction restTables, held?_layEntry entryTable,
        ← Option.or_assoc]
      congr 1
      simp [Entries.mention?, List.findSome?_append]

/-- A section that is there is a table. -/
def Entries.TableAt (root : String) (entries : Entries) : Prop :=
  ∀ tree, entries.lookup root = some tree → ∃ origin fields, tree = .table origin fields

theorem tableAt_layEntry (before : below.TableAt root)
    (table : (Path.ofKey entry.1).root = root → IntoTable (Path.ofKey entry.1).steps entry.2) :
    (layEntry below entry).TableAt root := by
  intro tree found
  rw [layEntry, Entries.changePath] at found
  generalize Path.ofKey entry.1 = path at *
  obtain ⟨root', steps⟩ := path
  generalize entry.2 = laid at *
  dsimp only at table found
  by_cases same : root' = root
  · subst same
    rw [Entries.lookup_change_self, Option.some.injEq] at found
    cases table rfl with
    | whole =>
        rw [changeAt, overlay] at found
        exact ⟨_, _, found.symm⟩
    | field =>
        rw [changeAt] at found
        exact ⟨_, _, found.symm⟩
  · rw [Entries.lookup_change_of_ne (Ne.symm same)] at found
    exact before tree found

theorem tableAt_layer (before : below.TableAt root) (tabular : Tabular root source) :
    (layer below source).TableAt root := by
  induction source generalizing below with
  | nil => exact before
  | cons entry rest induction =>
      have restTables : Tabular root rest :=
        fun other member => tabular other (List.mem_cons_of_mem entry member)
      apply induction _ restTables
      exact tableAt_layEntry before (tabular entry List.mem_cons_self)

end

/-! ## Keys and places -/

section

variable {spot : Spot} {key : String}

theorem toList_of_takeName? {text rest : List Char} {name : String}
    (taken : Path.takeName? text = some (name, rest)) : text = name.toList ++ rest := by
  unfold Path.takeName? at taken
  dsimp only at taken
  split at taken
  · cases taken
  · cases taken
    rw [String.toList_ofList]
    exact List.takeWhile_append_dropWhile.symm

theorem eq_nil_of_takeSteps? {limit : Nat} {text : List Char}
    (taken : Path.takeSteps? limit text = some []) : text = [] := by
  unfold Path.takeSteps? at taken
  split at taken
  · rfl
  · cases taken
  · simp [Option.bind_eq_some_iff] at taken
  · simp [Option.bind_eq_some_iff] at taken
  · cases taken

theorem toList_of_takeSteps? {limit : Nat} {text : List Char} {name : String}
    (taken : Path.takeSteps? limit text = some [.key name]) : text = '.' :: name.toList := by
  unfold Path.takeSteps? at taken
  split at taken
  · cases taken
  · cases taken
  · simp only [Option.pure_def, Option.bind_eq_bind, Option.bind_eq_some_iff,
      Option.some.injEq, List.cons.injEq, Step.key.injEq, exists_eq_right_right,
      Prod.exists] at taken
    obtain ⟨name', rest, named, nothing, rfl⟩ := taken
    rw [toList_of_takeName? named, eq_nil_of_takeSteps? nothing, List.append_nil]
  · simp [Option.bind_eq_some_iff] at taken
  · cases taken

/-- No other key leads there. -/
theorem key_of_path (path : Path.ofKey key = spot.path) : key = spot.key := by
  rw [Path.ofKey, Spot.path] at path
  cases read : Path.read? key.toList with
  | none =>
      rw [read] at path
      cases path
  | some made =>
      rw [read, Option.getD_some] at path
      subst path
      simp only [Path.read?, Option.pure_def, Option.bind_eq_bind, Option.bind_eq_some_iff,
        Option.some.injEq, Path.mk.injEq, exists_eq_right_right, Prod.exists] at read
      obtain ⟨root, rest, named, steps, rfl⟩ := read
      apply String.toList_inj.mp
      rw [toList_of_takeName? named, toList_of_takeSteps? steps]
      simp [Spot.key]

end

section Environment

open Environment

variable {spot : Spot} {root : String} {environment : Variables} {entries : Entries}
  {entry : String × Tree}

/-- What some variables give a place; of two that set it the later counts. -/
def given? (spot : Spot) (environment : Variables) : Option Scalar :=
  environment.reverse.findSome? fun (name, value) =>
    if (key? name).map Path.ofKey = some spot.path then some (scalar value) else none

/-- Variables that set something in a section set a field of it. -/
def FieldWise (root : String) (environment : Variables) : Prop :=
  ∀ setting ∈ environment, ∀ key, key? setting.1 = some key → (Path.ofKey key).root = root →
    ∃ field, Path.ofKey key = (Spot.mk root field).path

theorem keys_change (key : String) (edit : Tree → Tree) (entries : Entries) :
    (entries.change key edit).map Prod.fst =
      if key ∈ entries.map Prod.fst then entries.map Prod.fst
      else entries.map Prod.fst ++ [key] := by
  induction entries with
  | nil => rfl
  | cons entry rest induction =>
      obtain ⟨name, tree⟩ := entry
      by_cases same : name = key
      · simp [Entries.change, same]
      · by_cases inside : key ∈ rest.map Prod.fst
        · simp [Entries.change, same, Ne.symm same, induction, inside]
        · simp [Entries.change, same, Ne.symm same, induction, inside]

theorem nodup_put {key : String} (tree : Tree) (distinct : (entries.map Prod.fst).Nodup) :
    ((entries.put key tree).map Prod.fst).Nodup := by
  rw [Entries.put, keys_change]
  split
  · exact distinct
  next fresh =>
    rw [List.nodup_append]
    refine ⟨distinct, by simp, ?_⟩
    intro old member new isNew
    rw [List.mem_singleton.mp isNew]
    rintro rfl
    exact fresh member

/-- Entries made one after the other: what each key holds in the end, and that no key is
there twice. -/
theorem lookup_foldl_put (key : String) (made held : Entries) :
    (made.foldl (fun entries (key, tree) => entries.put key tree) held).lookup key =
      (made.reverse.lookup key).or (held.lookup key) := by
  induction made generalizing held with
  | nil => rfl
  | cons entry rest induction =>
      obtain ⟨name, tree⟩ := entry
      rw [List.foldl_cons, induction, List.reverse_cons, List.lookup_append, Option.or_assoc]
      congr 1
      change List.lookup key (held.change name fun _ => tree) = _
      by_cases same : key = name
      · subst same
        rw [Entries.lookup_change_self]
        simp
      · rw [Entries.lookup_change_of_ne same, Entries.lookup_cons_of_ne same]
        rfl

theorem nodup_foldl_put (made : Entries) (distinct : (entries.map Prod.fst).Nodup) :
    ((made.foldl (fun entries (key, tree) => entries.put key tree) entries).map
      Prod.fst).Nodup := by
  induction made generalizing entries with
  | nil => exact distinct
  | cons entry rest induction => exact induction (nodup_put entry.2 distinct)

theorem mem_foldl_put (made held : Entries) (member : entry ∈ made.foldl
      (fun entries (key, tree) => entries.put key tree) held) : entry ∈ made ∨ entry ∈ held := by
  induction made generalizing held with
  | nil => exact .inr member
  | cons first rest induction =>
      rcases induction _ member with later | before
      · exact .inl (List.mem_cons_of_mem first later)
      · rcases mem_put before with rfl | before
        · exact .inl List.mem_cons_self
        · exact .inr before

/-- Where one key alone leads to a place, its entry says what the source does. -/
theorem mention?_of_lookup (distinct : (entries.map Prod.fst).Nodup)
    (alone : ∀ entry ∈ entries, mentionOf spot entry =
      if entry.1 = spot.key then some entry.2.scalar? else none) :
    entries.mention? spot = (entries.lookup spot.key).map Tree.scalar? := by
  induction entries with
  | nil => rfl
  | cons entry rest induction =>
      obtain ⟨key, tree⟩ := entry
      rw [List.map_cons, List.nodup_cons] at distinct
      have later := induction distinct.2
        (fun other member => alone other (List.mem_cons_of_mem _ member))
      have first := alone (key, tree) List.mem_cons_self
      have parts : Entries.mention? ((key, tree) :: rest) spot =
          (Entries.mention? rest spot).or (mentionOf spot (key, tree)) := by
        simp [Entries.mention?, List.findSome?_append]
      rw [parts, later, first]
      by_cases same : key = spot.key
      · subst same
        have fresh : List.lookup spot.key rest = none := by
          apply List.lookup_eq_none_iff.mpr
          intro other member
          have differs : spot.key ≠ other.1 := by
            rintro same
            exact distinct.1 (List.mem_map.mpr ⟨other, member, same.symm⟩)
          simpa using differs
        rw [fresh]
        simp
      · rw [Entries.lookup_cons_of_ne (Ne.symm same), if_neg same, Option.or_none]

/-- An entry that a variable makes. -/
theorem mentionOf_entry (path : Path.ofKey spot.key = spot.path)
    (fieldWise : FieldWise spot.root environment) {setting : String × String}
    (member : setting ∈ environment) (made : entry? setting = some entry) :
    mentionOf spot entry = if entry.1 = spot.key then some entry.2.scalar? else none := by
  obtain ⟨key, keyed, rfl⟩ := Option.map_eq_some_iff.mp made
  by_cases same : key = spot.key
  · subst same
    simp [mentionOf, path, Spot.path]
  · by_cases inside : (Path.ofKey key).root = spot.root
    · obtain ⟨field, leads⟩ := fieldWise setting member key keyed inside
      have other : field ≠ spot.field := by
        rintro rfl
        exact same (key_of_path leads)
      simp [mentionOf, leads, Spot.path, same, other]
    · simp [mentionOf, inside, same]

theorem given?_eq (path : Path.ofKey spot.key = spot.path) (environment : Variables) :
    ((environment.filterMap entry?).reverse.lookup spot.key).map Tree.scalar? =
      (given? spot environment).map some := by
  induction environment with
  | nil => rfl
  | cons setting rest induction =>
      obtain ⟨name, value⟩ := setting
      have parts : given? spot ((name, value) :: rest) = (given? spot rest).or
          (if (key? name).map Path.ofKey = some spot.path then some (scalar value) else none) := by
        simp [given?, List.findSome?_append]
      rw [parts, Option.map_or, ← induction]
      cases keyed : key? name with
      | none =>
          have made : entry? (name, value) = none := by simp [keyed, entry?]
          rw [List.filterMap_cons_none made]
          simp
      | some key =>
          have made : entry? (name, value) = some (key, .leaf (some origin) (scalar value)) := by
            simp [keyed, entry?]
          rw [List.filterMap_cons_some made, List.reverse_cons, List.lookup_append, Option.map_or]
          congr 1
          by_cases same : key = spot.key
          · subst same
            simp [path, Tree.scalar?]
          · have elsewhere : Path.ofKey key ≠ spot.path := fun leads => same (key_of_path leads)
            rw [Entries.lookup_cons_of_ne (Ne.symm same)]
            simp [elsewhere]

/-- What the environment says of a place is what the variables give it. -/
theorem mention?_entries (path : Path.ofKey spot.key = spot.path)
    (fieldWise : FieldWise spot.root environment) :
    (Environment.entries environment).mention? spot = (given? spot environment).map some := by
  have distinct : ((Environment.entries environment).map Prod.fst).Nodup :=
    nodup_foldl_put _ List.nodup_nil
  have alone : ∀ entry ∈ Environment.entries environment, mentionOf spot entry =
      if entry.1 = spot.key then some entry.2.scalar? else none := by
    intro entry member
    rcases mem_foldl_put _ _ member with made | nothing
    · obtain ⟨setting, inside, made⟩ := List.mem_filterMap.mp made
      exact mentionOf_entry path fieldWise inside made
    · cases nothing
  rw [mention?_of_lookup distinct alone, Environment.entries, lookup_foldl_put, List.lookup_nil,
    Option.or_none, given?_eq path]

theorem tabular_entries (fieldWise : FieldWise root environment) :
    Tabular root (Environment.entries environment) := by
  intro entry member inside
  rcases mem_foldl_put _ _ member with made | nothing
  · obtain ⟨setting, set, made⟩ := List.mem_filterMap.mp made
    obtain ⟨key, keyed, rfl⟩ := Option.map_eq_some_iff.mp made
    obtain ⟨field, leads⟩ := fieldWise setting set key keyed inside
    dsimp only
    rw [leads]
    exact .field field [] _
  · cases nothing

end Environment

end AtLeastOnce.Config
