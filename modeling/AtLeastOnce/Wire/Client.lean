import AtLeastOnce.Config.Environment
import AtLeastOnce.Http.Message
import AtLeastOnce.Log.Entry
import AtLeastOnce.Queue.CallError
import AtLeastOnce.Text.Blank

/-!
# Clients of the service

A client knows a region, the endpoint that it calls, and credentials.  What it is
not told it takes from the environment; what is then still unknown, or cannot be
used, shows with its first call.
-/

namespace AtLeastOnce.Wire

structure Credentials where
  accessKeyId : String
  secretAccessKey : String
  deriving DecidableEq, Repr

structure Client where
  region : Option String
  /-- The endpoint, unless it follows from the region. -/
  endpoint : Option String
  credentials : Option Credentials
  deriving DecidableEq, Repr

/-- Where a call goes and under whose name. -/
structure Address where
  uri : String
  region : String
  accessKeyId : String
  deriving DecidableEq, Repr

/-- The method of every call. -/
def callMethod : String := "POST"

namespace Client

/-- A client with nothing but what it is told. -/
def withCredentials (credentials : Credentials) (region : String) (endpoint : Option String) :
    Client :=
  ⟨some region, endpoint, some credentials⟩

/-- The first of some variables that is set. -/
def firstSet? (names : List String) (environment : Config.Environment.Variables) : Option String :=
  names.findSome? fun name => environment.lookup name

/-- The first of some variables that holds more than blanks. -/
def firstFilled? (names : List String) (environment : Config.Environment.Variables) :
    Option String :=
  names.findSome? fun name =>
    (environment.lookup name).filter fun value => !Text.allBlank value

def environmentRegion? (environment : Config.Environment.Variables) : Option String :=
  firstSet? ["AWS_REGION", "AWS_DEFAULT_REGION"] environment

/-- The endpoint for this service comes before that for all services. -/
def environmentEndpoint? (environment : Config.Environment.Variables) : Option String :=
  firstSet? ["AWS_ENDPOINT_URL_SQS", "AWS_ENDPOINT_URL"] environment

def environmentCredentials? (environment : Config.Environment.Variables) : Option Credentials := do
  let accessKeyId ← firstFilled? ["AWS_ACCESS_KEY_ID"] environment
  let secretAccessKey ← firstFilled? ["AWS_SECRET_ACCESS_KEY", "SECRET_ACCESS_KEY"] environment
  return ⟨accessKeyId, secretAccessKey⟩

/-- A client that takes from the environment what it is not told. -/
def fromEnvironment (environment : Config.Environment.Variables)
    (region endpoint : Option String) : Client :=
  { region := region.or (environmentRegion? environment)
    endpoint := endpoint.or (environmentEndpoint? environment)
    credentials := environmentCredentials? environment }

/-- What is logged when a client is told its endpoint. -/
def creationNotes (endpoint : Option String) : List LogEntry :=
  match endpoint with
  | some url => [.endpointOverridden url]
  | none => []

/-- A client as it is shown: nothing of it may be told. -/
def description : String := "SqsTransport \x7b .. \x7d"

/-- The domains of regions with some beginnings. -/
def domains : List (String × String) := [
  ("cn-", "amazonaws.com.cn"),
  ("us-iso-", "c2s.ic.gov"),
  ("us-isob-", "sc2s.sgov.gov"),
  ("us-isof-", "csp.hci.ic.gov"),
  ("eu-isoe-", "cloud.adc-e.uk"),
  ("eusc-", "amazonaws.eu")]

/-- The domain of a region. -/
def domain (region : String) : String :=
  ((domains.find? fun entry => entry.1.toList.isPrefixOf region.toList).map Prod.snd).getD
    "amazonaws.com"

/-- Whether a text may stand between the points of a host name. -/
def isHostLabel (text : String) : Bool :=
  text ≠ "" && text.length ≤ 63 &&
    text.toList.all fun character => character.isAlphanum || character = '-'

/-- The address of the service in a region. -/
def regionalUri (region : String) : Except CallFault String :=
  if isHostLabel region then .ok ("https://sqs." ++ region ++ "." ++ domain region ++ "/")
  else .error (.other "no endpoint for the region")

def invalidEndpoint : CallFault := .dispatch "the endpoint is no address"

def isSchemeCharacter (character : Char) : Bool :=
  character.isAlphanum || character = '+' || character = '-' || character = '.'

def isAuthorityCharacter (character : Char) : Bool :=
  character.isAlphanum || "-._~!$&'()*+,;=:@[]%".toList.contains character

/-- Whether a text may follow an authority. -/
def endsAuthority : List Char → Bool
  | [] => true
  | first :: _ => first = '/' || first = '?' || first = '#'

/-- The text with a slash in front. -/
def rooted : List Char → List Char
  | '/' :: rest => '/' :: rest
  | text => '/' :: text

/-- The parts of an endpoint: scheme, authority and path. -/
def endpointParts? (endpoint : String) : Option (List Char × List Char × List Char) :=
  let scheme := endpoint.toList.takeWhile isSchemeCharacter
  match endpoint.toList.dropWhile isSchemeCharacter with
  | ':' :: '/' :: '/' :: rest =>
      let authority := rest.takeWhile isAuthorityCharacter
      let target := rest.dropWhile isAuthorityCharacter
      if scheme = [] || authority = [] || !endsAuthority target then none
      else
        (Http.targetPath? (String.ofList (rooted target))).map fun path =>
          (scheme, authority, path)
  | _ => none

/-- A path without a slash at its end. -/
def withoutLastSlash (path : List Char) : List Char :=
  match path.reverse with
  | '/' :: rest => rest.reverse
  | _ => path

/-- The address that calls to an endpoint go to: its path, and a slash. -/
def endpointUri (endpoint : String) : Except CallFault String :=
  match endpointParts? endpoint with
  | none => .error invalidEndpoint
  | some (scheme, authority, path) =>
      .ok (String.ofList (scheme ++ "://".toList ++ authority ++ withoutLastSlash path ++ ['/']))

/-- Where the calls of a client go, and under whose name. -/
def address (client : Client) : Except CallFault Address :=
  match client.credentials, client.region with
  | none, _ => .error (.dispatch "no credentials are known")
  | _, none => .error (.dispatch "no region is known")
  | some credentials, some region =>
      let uri :=
        match client.endpoint with
        | some endpoint => endpointUri endpoint
        | none => regionalUri region
      uri.map fun uri => ⟨uri, region, credentials.accessKeyId⟩

end Client

end AtLeastOnce.Wire
