/-!
# HTTP messages

A request with its target, and the parts of a response that are decided here.
-/

namespace AtLeastOnce.Http

structure Request where
  method : String
  target : String
  deriving DecidableEq, Repr

structure Response where
  status : Nat
  body : String
  /-- The methods that would have been allowed. -/
  allow : Option String
  contentType : Option String
  deriving DecidableEq, Repr

namespace Response

/-- A response without a body. -/
def empty (status : Nat) : Response := ⟨status, "", none, none⟩

/-- A response with a text as its body. -/
def text (status : Nat) (body : String) : Response :=
  ⟨status, body, none, some "text/plain; charset=utf-8"⟩

/-- The response without its body. -/
def withoutBody (response : Response) : Response := { response with body := "" }

def notFound : Response := empty 404

/-- The target is known, but not with this method. -/
def methodNotAllowed : Response := { empty 405 with allow := some "GET,HEAD" }

/-- The request took too long. -/
def timedOut : Response := empty 408

end Response

/-- A character that may stand in the path of a target. -/
def isPathCharacter (character : Char) : Bool :=
  let code := character.toNat
  code = 0x21 || code = 0x22 || (0x24 ≤ code && code ≤ 0x3B) || code = 0x3D ||
    (0x40 ≤ code && code ≤ 0x5F) || 0x61 ≤ code

/-- A character that may stand in the query of a target. -/
def isQueryCharacter (character : Char) : Bool :=
  let code := character.toNat
  code = 0x21 || (0x24 ≤ code && code ≤ 0x3B) || code = 0x3D || 0x3F ≤ code

/-- The path of a target, without query and fragment; none when the target is
malformed. -/
def targetPath? (target : String) : Option (List Char) :=
  let withoutFragment := target.toList.takeWhile (· ≠ '#')
  let path := withoutFragment.takeWhile (· ≠ '?')
  let query := (withoutFragment.dropWhile (· ≠ '?')).drop 1
  match path with
  | '/' :: _ =>
      if path.all isPathCharacter && query.all isQueryCharacter then some path else none
  | _ => none

/-- A character that may stand in the name of a method. -/
def isMethodCharacter (character : Char) : Bool :=
  character.isAlphanum || "!#$%&'*+-.^_`|~".toList.contains character

/-- A request whose method and target can be sent. -/
def Request.isWellFormed (request : Request) : Bool :=
  request.method ≠ "" && request.method.toList.all isMethodCharacter &&
    (targetPath? request.target).isSome

end AtLeastOnce.Http
