import AtLeastOnce.Json.Number
import AtLeastOnce.Json.Text

/-!
# Reading JSON

A value is read from the beginning of a text.  Arrays and objects may be nested
127 deep; a document is one value with blanks around it and nothing else.
-/

namespace AtLeastOnce.Json

/-- The four blank characters of the format. -/
def isSpace (character : Char) : Bool :=
  character = ' ' || character = '\n' || character = '\t' || character = '\r'

def skipSpaces (text : List Char) : List Char := text.dropWhile isSpace

/-- The levels of nesting that a document may use, and one. -/
def depthLimit : Nat := 128

/-- The remaining letters of a word. -/
def readWord (value : α) : List Char → List Char → Reading α
  | [], rest => .ok (value, rest)
  | _ :: _, [] => stopBefore .endInValue []
  | letter :: word, character :: rest =>
      if character = letter then readWord value word rest
      else stopAfterNext .expectedWord (character :: rest)

/-- A value that is neither an array nor an object, without blanks before it. -/
def readScalar : List Char → Reading Json
  | [] => stopBefore .endInValue []
  | 'n' :: rest => readWord .null ['u', 'l', 'l'] rest
  | 't' :: rest => readWord (.bool true) ['r', 'u', 'e'] rest
  | 'f' :: rest => readWord (.bool false) ['a', 'l', 's', 'e'] rest
  | '"' :: rest => andThen (readString rest) fun value rest => .ok (.string value, rest)
  | '-' :: rest => readMagnitude false rest
  | first :: rest =>
      if first.isDigit then readMagnitude true (first :: rest)
      else stopAfterNext .expectedValue (first :: rest)

/-- Whether another item follows in an array; what is left begins with it, or
with the closing bracket. -/
def nextItem (isFirst : Bool) (text : List Char) : Reading Bool :=
  match skipSpaces text with
  | [] => stopBefore .endInList []
  | ']' :: rest => .ok (false, ']' :: rest)
  | ',' :: rest =>
      if isFirst then .ok (true, ',' :: rest)
      else
        match skipSpaces rest with
        | [] => stopBefore .endInValue []
        | ']' :: rest => stopAfterNext .trailingComma (']' :: rest)
        | other => .ok (true, other)
  | other => if isFirst then .ok (true, other) else stopAfterNext .expectedListSeparator other

/-- Whether another member follows in an object; what is left begins with the
quote of its name, or with the closing brace. -/
def nextMember (isFirst : Bool) (text : List Char) : Reading Bool :=
  match skipSpaces text with
  | [] => stopBefore .endInObject []
  | '\x7d' :: rest => .ok (false, '\x7d' :: rest)
  | '"' :: rest =>
      if isFirst then .ok (true, '"' :: rest)
      else stopAfterNext .expectedObjectSeparator ('"' :: rest)
  | ',' :: rest =>
      if isFirst then stopAfterNext .keyNotString (',' :: rest)
      else
        match skipSpaces rest with
        | [] => stopBefore .endInValue []
        | '"' :: rest => .ok (true, '"' :: rest)
        | '\x7d' :: rest => stopAfterNext .trailingComma ('\x7d' :: rest)
        | other => stopAfterNext .keyNotString other
  | other =>
      stopAfterNext (if isFirst then .keyNotString else .expectedObjectSeparator) other

/-- The colon after the name of a member. -/
def readColon (text : List Char) : Reading Unit :=
  match skipSpaces text with
  | [] => stopBefore .endInObject []
  | ':' :: rest => .ok ((), rest)
  | other => stopAfterNext .expectedColon other

/-- The items of an array after its opening bracket; `limit` bounds their
number. -/
def readItems (readItem : List Char → Reading Json) :
    Nat → Bool → List Char → Reading (List Json)
  | 0, _, text => stopBefore .endInList text
  | limit + 1, isFirst, text =>
      andThen (nextItem isFirst text) fun more rest =>
        if more then
          andThen (readItem rest) fun item rest =>
            andThen (readItems readItem limit false rest) fun items rest =>
              .ok (item :: items, rest)
        else .ok ([], rest.tail)

/-- The members of an object after its opening brace; `limit` bounds their
number. -/
def readMembers (readItem : List Char → Reading Json) :
    Nat → Bool → List Char → Reading (List (String × Json))
  | 0, _, text => stopBefore .endInObject text
  | limit + 1, isFirst, text =>
      andThen (nextMember isFirst text) fun more rest =>
        if more then
          andThen (readString rest.tail) fun name rest =>
            andThen (readColon rest) fun _ rest =>
              andThen (readItem rest) fun item rest =>
                andThen (readMembers readItem limit false rest) fun members rest =>
                  .ok ((name, item) :: members, rest)
        else .ok ([], rest.tail)

/-- A value with blanks before it.  An array or object needs a level of nesting
to spare for what is in it. -/
def readValue : Nat → List Char → Reading Json
  | 0, text => stopAfterNext .tooDeep (skipSpaces text)
  | depth + 1, text =>
      match skipSpaces text with
      | '[' :: rest =>
          if depth = 0 then stopAfterNext .tooDeep ('[' :: rest)
          else
            andThen (readItems (readValue depth) (rest.length + 1) true rest) fun items rest =>
              .ok (.array items, rest)
      | '\x7b' :: rest =>
          if depth = 0 then stopAfterNext .tooDeep ('\x7b' :: rest)
          else
            andThen (readMembers (readValue depth) (rest.length + 1) true rest)
              fun members rest => .ok (.object members, rest)
      | other => readScalar other

/-- Nothing but blanks may follow. -/
def readEnd (text : List Char) : Except Stop Unit :=
  match skipSpaces text with
  | [] => .ok ()
  | other => stopAfterNext .trailingCharacters other

/-- A whole document. -/
def read (text : List Char) : Except Stop Json :=
  match readValue depthLimit text with
  | .error stop => .error stop
  | .ok (value, rest) => (readEnd rest).map fun _ => value

end AtLeastOnce.Json
