import AtLeastOnce.Toml.Node

/-!
# Assembling TOML documents

Statements are put into the table that the last header named.  No place is set
twice and no table is named twice.
-/

namespace AtLeastOnce.Toml

/-- Puts a value under a key into a table.  The tables on the way are made, or
have been made in passing. -/
def putPair : List String → Node → Entries → Option Entries
  | [], _, _ => none
  | [key], value, entries =>
      match entries.lookup key with
      | none => some (entries ++ [(key, value)])
      | some _ => none
  | key :: path, value, entries =>
      match entries.lookup key with
      | none => (putPair path value []).map fun inner => entries ++ [(key, .table .dotted inner)]
      | some (.table form inner) =>
          if form = .dotted || form = .implied then
            (putPair path value inner).map fun inner =>
              entries.map fun entry =>
                if entry.1 = key then (key, .table form inner) else entry
          else none
      | some _ => none

/-- The table of some pairs in braces. -/
def inlineTable? (pairs : List (List String × Node)) : Option Node :=
  (pairs.foldl (fun entries (path, value) => entries.bind (putPair path value))
    (some [])).map (.table .inline)

/-- Changes the last item of a list. -/
def changeLast? (edit : Node → Option Node) : List Node → Option (List Node)
  | [] => none
  | [node] => (edit node).map fun node => [node]
  | node :: rest => (changeLast? edit rest).map (node :: ·)

/-- Changes what is under a key of a table that may still grow: the table itself,
or the last one of a list of tables. -/
def changeInside? (edit : Entries → Option Entries) : Node → Option Node
  | .table form entries =>
      if form = .inline then none else (edit entries).map (.table form)
  | .tables items =>
      (changeLast? (fun node =>
        match node with
        | .table form entries => (edit entries).map (.table form)
        | _ => none) items).map .tables
  | _ => none

/-- Changes the entry with a key, or makes one. -/
def changeEntry? (key : String) (make : Option Node) (edit : Node → Option Node)
    (entries : Entries) : Option Entries :=
  match entries.lookup key with
  | none => make.map fun node => entries ++ [(key, node)]
  | some node =>
      (edit node).map fun node =>
        entries.map fun entry => if entry.1 = key then (key, node) else entry

/-- Makes the table that a header names. -/
def openTable : List String → Entries → Option Entries
  | [], _ => none
  | [key], entries =>
      changeEntry? key (some (.table .headed [])) (fun node =>
        match node with
        | .table .implied inner => some (.table .headed inner)
        | _ => none) entries
  | key :: path, entries =>
      changeEntry? key ((openTable path []).map (.table .implied))
        (changeInside? (openTable path)) entries

/-- Adds a table to the list that a header names. -/
def openItem : List String → Entries → Option Entries
  | [], _ => none
  | [key], entries =>
      changeEntry? key (some (.tables [.table .headed []])) (fun node =>
        match node with
        | .tables items => some (.tables (items ++ [.table .headed []]))
        | _ => none) entries
  | key :: path, entries =>
      changeEntry? key ((openItem path []).map (.table .implied))
        (changeInside? (openItem path)) entries

/-- Changes the table that a header has named. -/
def changeTable (edit : Entries → Option Entries) : List String → Entries → Option Entries
  | [], entries => edit entries
  | key :: path, entries =>
      changeEntry? key none (changeInside? (changeTable edit path)) entries

/-- A document so far, and the path of the last header. -/
structure Document where
  entries : Entries
  current : List String

def Document.empty : Document := ⟨[], []⟩

def Document.add (document : Document) : Statement → Option Document
  | .header path => (openTable path document.entries).map fun entries => ⟨entries, path⟩
  | .itemHeader path => (openItem path document.entries).map fun entries => ⟨entries, path⟩
  | .pair path value =>
      (changeTable (putPair path value) document.current document.entries).map fun entries =>
        { document with entries }

/-- The entries of the document that some statements make. -/
def assemble? (statements : List Statement) : Option Entries :=
  (statements.foldl (fun document statement =>
    document.bind fun document => document.add statement)
    (some Document.empty)).map Document.entries

end AtLeastOnce.Toml
