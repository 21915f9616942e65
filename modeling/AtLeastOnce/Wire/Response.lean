import AtLeastOnce.Json.Reader
import AtLeastOnce.Queue.CallError

/-!
# Responses of the service

A response succeeds by its status.  One that does not carries a code and a detail
in its headers and in the JSON object of its body; without a code neither counts.
-/

namespace AtLeastOnce.Wire

/-- The members of an object in the order in which they were written. -/
abbrev Members := List (String × Json)

structure Response where
  status : Nat
  headers : List (String × String)
  body : String
  deriving DecidableEq, Repr

/-- The fault of a response whose code is unknown. -/
def unknownFault : CallFault := .service "Unknown" ""

namespace Response

def isSuccess (response : Response) : Bool := 200 ≤ response.status && response.status < 300

/-- The value of a header; the case of its name does not matter. -/
def header? (response : Response) (name : String) : Option String :=
  (response.headers.find? fun header => header.1.toLower = name).map Prod.snd

/-- The members of the object that the body holds; an empty body holds none. -/
def members? (response : Response) : Option Members :=
  if response.body = "" then some []
  else
    match Json.read response.body.toList with
    | .ok (.object members) => some members
    | _ => none

/-- The members that say why a call was rejected.  Nothing but blanks or any JSON
value will do as the body, though only an object has members. -/
def rejectionMembers? (response : Response) : Option Members :=
  if response.body.toList.all Json.isSpace then some []
  else
    match Json.read response.body.toList with
    | .ok (.object members) => some members
    | .ok _ => some []
    | .error _ => none

/-- The last text among the members with one of some names. -/
def lastText? (names : List String) (members : Members) : Option String :=
  members.foldl (fun found member =>
    match member.2 with
    | .string text => if names.contains member.1 then some text else found
    | _ => found) none

/-- A code without the address after its first colon and without the namespace
before its first number sign. -/
def bareCode (code : String) : String :=
  let chars := code.toList.takeWhile (· ≠ ':')
  match chars.dropWhile (· ≠ '#') with
  | [] => String.ofList chars
  | _ :: name => String.ofList name

/-- The code for those that know the service by its older protocol: it stands
before a semicolon. -/
def legacyCode? (response : Response) : Option String :=
  (response.header? "x-amzn-query-error").bind fun value =>
    if value.toList.contains ';' then
      some (String.ofList (value.toList.takeWhile (· ≠ ';')))
    else none

/-- The code of a rejection: the older one first, then that of the headers, then
that of the body. -/
def code? (response : Response) (members : Members) : Option String :=
  let named := (response.header? "x-amzn-errortype").or
    ((lastText? ["code"] members).or (lastText? ["__type"] members))
  response.legacyCode?.or (named.map bareCode)

/-- What a response without success says. -/
def rejection (response : Response) : CallFault :=
  match response.rejectionMembers? with
  | none => unknownFault
  | some members =>
      match response.code? members with
      | none => unknownFault
      | some code =>
          .service code ((lastText? ["message", "Message", "errorMessage"] members).getD "")

/-- Reads the members of a response with success. -/
def read (decode : Members → Option α) (response : Response) : Except CallFault α :=
  if response.isSuccess then
    match response.members?.bind decode with
    | some value => .ok value
    | none => .error unknownFault
  else .error response.rejection

end Response

end AtLeastOnce.Wire
