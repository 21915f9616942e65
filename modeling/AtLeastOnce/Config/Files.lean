import AtLeastOnce.Config.Format

/-!
# Configuration files

A file is named exactly or without its ending.  Names are paths from the working
directory; an exact name counts before any ending that is added.
-/

namespace AtLeastOnce.Config

/-- The files below the working directory, each with its path and its contents. -/
abbrev Files := List (String × String)

/-- Why a configuration cannot be loaded. -/
inductive LoadError where
  | notFound (name : String)
  | unsupportedFormat (name : String)
  | malformed (origin : String)
  deriving DecidableEq, Repr

def LoadError.message : LoadError → String
  | .notFound name => "configuration file \"" ++ name ++ "\" not found"
  | .unsupportedFormat name =>
      "configuration file \"" ++ name ++ "\" is not of a supported file format"
  | .malformed origin => origin ++ " is malformed"

namespace Files

/-- The parts of a path, without those that stay in place. -/
def parts (path : String) : List String :=
  ((path.toList.splitOn '/').map String.ofList).filter fun part => part ≠ "" && part ≠ "."

/-- Whether some parts lead to a directory. -/
def isDirectory (files : Files) (path : List String) : Bool :=
  path = [] || files.any fun file =>
    let parts := parts file.1
    path.isPrefixOf parts && path.length < parts.length

/-- Walks on from a directory; no way leads out of the working directory or through
what is no directory. -/
def walk? (files : Files) (place : List String) : List String → Option (List String)
  | [] => some place
  | part :: rest =>
      if isDirectory files place then
        if part = ".." then
          if place = [] then none else walk? files place.dropLast rest
        else walk? files (place ++ [part]) rest
      else none

/-- The contents of the file that some parts lead to. -/
def contents? (files : Files) (path : List String) : Option String :=
  (walk? files [] path).bind fun place =>
    (files.find? fun file => parts file.1 = place).map Prod.snd

/-- Whether a path can only lead to a directory. -/
def endsInDirectory (path : List Char) : Bool :=
  match path.reverse with
  | '/' :: _ => true
  | '.' :: '/' :: _ => true
  | _ => false

/-- The ending of a file name, after its last point. -/
def ending? (name : String) : Option String :=
  let reversed := name.toList.reverse
  match reversed.dropWhile (· ≠ '.') with
  | '.' :: _ :: _ => some (String.ofList (reversed.takeWhile (· ≠ '.')).reverse)
  | _ => none

/-- The path as its origin is named. -/
def originOf (path : List String) : String := "/".intercalate path

/-- A file with its format. -/
structure Found where
  origin : String
  format : Format
  text : String

/-- The file with a path and one of the known endings added to it. -/
def findWithEnding? (files : Files) (path : List String) : Option Found :=
  endings.findSome? fun (ending, format) =>
    let full := path.dropLast ++ [path.getLastD "" ++ "." ++ ending]
    (contents? files full).map fun text => ⟨originOf full, format, text⟩

/-- The file that a name stands for. -/
def find (files : Files) (name : String) : Except LoadError Found :=
  let path := parts name
  let isRooted := name.toList.head? = some '/'
  let exact := if endsInDirectory name.toList then none else contents? files path
  if isRooted then .error (.notFound name)
  else
    match exact with
    | some text =>
        match (ending? (path.getLastD "")).bind fun ending => endings.lookup ending with
        | some format => .ok ⟨originOf path, format, text⟩
        | none => .error (.unsupportedFormat name)
    | none =>
        match findWithEnding? files path with
        | some found => .ok found
        | none => .error (.notFound name)

/-- The text without a byte order mark in front. -/
def withoutMark : List Char → List Char
  | '\ufeff' :: rest => rest
  | text => text

/-- The entries of a file. -/
def Found.entries (found : Found) : Except LoadError Entries :=
  match found.format.read? (some found.origin) (withoutMark found.text.toList) with
  | some entries => .ok entries
  | none => .error (.malformed found.origin)

/-- The entries of a file that has to be there. -/
def require (files : Files) (name : String) : Except LoadError Entries :=
  (find files name).bind Found.entries

/-- The entries of a file that may be missing. -/
def allow (files : Files) (name : String) : Except LoadError Entries :=
  match find files name with
  | .ok found => found.entries
  | .error _ => .ok []

end Files

end AtLeastOnce.Config
