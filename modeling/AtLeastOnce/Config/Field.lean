import AtLeastOnce.Config.Tree
import AtLeastOnce.Number.Decimal
import AtLeastOnce.Number.Double.Text
import AtLeastOnce.Text.LowerCase
import AtLeastOnce.Text.Quoted

/-!
# Typed fields

A field is a place in a configuration under its key.  Scalars of other types are
converted where that is sensible; what cannot be converted is reported as a
misfit.
-/

namespace AtLeastOnce.Config

/-- What was found in a place. -/
inductive Found where
  | unit
  | bool (value : Bool)
  | signed (value : Int)
  | unsigned (value : Int)
  /-- An integer of no particular width. -/
  | integer (value : Int)
  | decimal (value : Double)
  | text (value : String)
  | sequence
  | map
  deriving DecidableEq, Repr

def Found.message : Found → String
  | .unit => "unit value"
  | .bool value => "boolean `" ++ (if value then "true" else "false") ++ "`"
  | .signed value => "64-bit integer `" ++ toString value ++ "`"
  | .unsigned value => "64-bit unsigned integer `" ++ toString value ++ "`"
  | .integer value => "integer `" ++ toString value ++ "`"
  | .decimal value => "floating point `" ++ value.text Double.pointedLayout ++ "`"
  | .text value => "string " ++ Text.quoted value
  | .sequence => "sequence"
  | .map => "map"

/-- What was wanted in a place. -/
inductive Wanted where
  | bool
  | integer
  | signed64
  | unsigned64
  | signed32
  | unsigned32
  | unsigned16
  | decimal
  | text
  | struct (name : String)
  deriving DecidableEq, Repr

def Wanted.message : Wanted → String
  | .bool => "a boolean"
  | .integer => "an integer"
  | .signed64 => "an signed 64 bit or less integer"
  | .unsigned64 => "an unsigned 64 bit or less integer"
  | .signed32 => "an signed 32 bit integer"
  | .unsigned32 => "an unsigned 32 bit integer"
  | .unsigned16 => "an unsigned 16 bit integer"
  | .decimal => "a floating point"
  | .text => "a string"
  | .struct name => "struct " ++ name

/-- Something of the wrong type under a key. -/
structure Misfit where
  found : Found
  wanted : Wanted
  key : String
  origin : Option String
  deriving DecidableEq, Repr

def Misfit.message (misfit : Misfit) : String :=
  let place :=
    match misfit.origin with
    | some origin => " in " ++ origin
    | none => ""
  "invalid type: " ++ misfit.found.message ++ ", expected " ++ misfit.wanted.message ++
    " for key `" ++ misfit.key ++ "`" ++ place

structure Field where
  key : String
  tree : Tree

/-- How a value shows that cannot be converted. -/
def Found.ofTree : Tree → Found
  | .leaf _ .null => .unit
  | .leaf _ (.bool value) => .bool value
  | .leaf _ (.integer value) =>
      if value ≤ Decimal.greatestInt64 then .signed value else .unsigned value
  | .leaf _ (.decimal value) => .decimal value
  | .leaf _ (.text value) => .text value
  | .list _ _ => .sequence
  | .table _ _ => .map

namespace Field

def misfit (field : Field) (wanted : Wanted) : Misfit :=
  ⟨.ofTree field.tree, wanted, field.key, field.tree.origin?⟩

/-- The truth value of a word, in any case. -/
def word? (text : String) : Option Bool :=
  let word := String.ofList (Text.lower text.toList)
  if word = "true" || word = "on" || word = "yes" then some true
  else if word = "false" || word = "off" || word = "no" then some false
  else none

def asBool (field : Field) : Except Misfit Bool :=
  match field.tree with
  | .leaf _ (.bool value) => .ok value
  | .leaf _ (.integer value) => .ok (value ≠ 0)
  | .leaf _ (.decimal value) => .ok !(value.le .zero && Double.zero.le value)
  | .leaf origin (.text text) =>
      match word? text with
      | some value => .ok value
      | none =>
          if text = "1" then .ok true
          else if text = "0" then .ok false
          else
            .error ⟨.text (String.ofList (Text.lower text.toList)), .bool, field.key, origin⟩
  | _ => .error (field.misfit .bool)

def ofBool (value : Bool) : Int := if value then 1 else 0

/-- An integer; a word counts as a truth value, and a truth value as 1 or 0. -/
def asInteger (field : Field) (lower upper : Int) (excess : Wanted)
    (read : List Char → Option Int) : Except Misfit Int :=
  match field.tree with
  | .leaf _ (.bool value) => .ok (ofBool value)
  | .leaf _ (.integer value) =>
      if lower ≤ value && value ≤ upper then .ok value else .error (field.misfit excess)
  | .leaf _ (.decimal value) => .ok (value.toInt lower upper)
  | .leaf _ (.text text) =>
      match word? text with
      | some value => .ok (ofBool value)
      | none =>
          match read text.toList with
          | some value => .ok value
          | none => .error (field.misfit .integer)
  | _ => .error (field.misfit .integer)

def asInt64 (field : Field) : Except Misfit Int :=
  field.asInteger Decimal.leastInt64 Decimal.greatestInt64 .signed64
    (Decimal.readInt? Decimal.leastInt64 Decimal.greatestInt64)

def asNat64 (field : Field) : Except Misfit Nat :=
  (field.asInteger 0 Decimal.greatestNat64 .unsigned64 fun text =>
    (Decimal.readBounded? Decimal.greatestNat64 text).map Int.ofNat).map Int.toNat

/-- A 32-bit integer. -/
def asInt32 (field : Field) : Except Misfit Int :=
  field.asInt64.bind fun value =>
    if -2147483648 ≤ value && value ≤ 2147483647 then .ok value
    else .error ⟨.signed value, .signed32, field.key, none⟩

/-- A natural number below a power of two. -/
def asNarrowNat (field : Field) (bits : Nat) (wanted : Wanted) : Except Misfit Nat :=
  field.asNat64.bind fun value =>
    if value < Nat.pow 2 bits then .ok value
    else .error ⟨.unsigned value, wanted, field.key, none⟩

def asNat32 (field : Field) : Except Misfit Nat := field.asNarrowNat 32 .unsigned32

def asNat16 (field : Field) : Except Misfit Nat := field.asNarrowNat 16 .unsigned16

def asDouble (field : Field) : Except Misfit Double :=
  match field.tree with
  | .leaf _ (.bool value) => .ok (.ofInt (ofBool value))
  | .leaf _ (.integer value) => .ok (.ofInt value)
  | .leaf _ (.decimal value) => .ok value
  | .leaf _ (.text text) =>
      match word? text with
      | some value => .ok (.ofInt (ofBool value))
      | none =>
          match Double.read? text.toList with
          | some value => .ok value
          | none => .error (field.misfit .decimal)
  | _ => .error (field.misfit .decimal)

/-- The text of a scalar. -/
def scalarText? : Scalar → Option String
  | .null => none
  | .bool value => some (if value then "true" else "false")
  | .integer value => some (toString value)
  | .decimal value => some (value.text Double.plainLayout)
  | .text value => some value

def asText (field : Field) : Except Misfit String :=
  match field.tree with
  | .leaf _ value =>
      match scalarText? value with
      | some text => .ok text
      | none => .error (field.misfit .text)
  | _ => .error (field.misfit .text)

/-- A text that may be null. -/
def asOptionalText (field : Field) : Except Misfit (Option String) :=
  match field.tree with
  | .leaf _ .null => .ok none
  | _ => field.asText.map some

end Field

/-- A group of fields, found by name in a table and by position in a list. -/
structure Section where
  name : String
  content : Tree

namespace Section

/-- How a section shows that is neither a table nor a list. -/
def found : Scalar → Found
  | .null => .unit
  | .bool value => .bool value
  | .integer value => .integer value
  | .decimal value => .decimal value
  | .text value => .text value

/-- The section with a name; one that is absent has no fields. -/
def ofEntries (name struct : String) (entries : Entries) : Except Misfit Section :=
  match entries.lookup name with
  | none => .ok ⟨name, .table none []⟩
  | some (.leaf _ value) => .error ⟨found value, .struct struct, name, none⟩
  | some tree => .ok ⟨name, tree⟩

/-- The field with a name that is declared at a position. -/
def field? (part : Section) (position : Nat) (name : String) : Option Field :=
  match part.content with
  | .table _ entries => (entries.lookup name).map fun tree => ⟨part.name ++ "." ++ name, tree⟩
  | .list _ items =>
      items[position]?.map fun tree => ⟨part.name ++ "[" ++ toString position ++ "]", tree⟩
  | .leaf _ _ => none

/-- A field, or its default if it is absent. -/
def read (part : Section) (position : Nat) (name : String) (decode : Field → Except Misfit α)
    (default : α) : Except Misfit α :=
  match part.field? position name with
  | none => .ok default
  | some field => decode field

end Section

end AtLeastOnce.Config
