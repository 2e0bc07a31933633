import TopicAccess.Json
import TopicAccess.Service.Target
import TopicAccess.Text.Blank
import TopicAccess.Text.Split
import TopicAccess.Text.UpperCase

/-!
# Requests

A request has a method, a target, headers and a body. The names of headers are compared without
regard to case, and the method is taken in capitals.

Some of what happens to a request is not up to the service. Where the request names a host, the path
that is reported of it is read off an address that begins with that host. It is the target's own
path as long as the host is a plain one; of other hosts nothing is assumed.
-/
namespace TopicAccess

/-- The first header of a name in small letters. -/
def firstHeader? (headers : List (String × String)) (name : List Char) : Option String :=
  (headers.find? fun header => header.1.toList.map Char.toLower == name).map (·.2)

/-- Whether a host has only characters that end no host in an address. -/
def isPlainHost (host : String) : Bool :=
  host.toList.all fun c => c.isAlphanum || c == '.' || c == '-' || c == ':'

/-- A request. The fresh identifier is for requests without one; the duration is what handling the
request takes, and the limits are those of the reader of its body. -/
structure Request where
  method : String
  target : Target
  headers : List (String × String) := []
  body : List UInt8 := []
  freshId : String
  duration : Float
  limits : Json.Limits
  reportedPath : String := target.shown
  reported_plain : (∀ host, firstHeader? headers "host".toList = some host → isPlainHost host) →
    reportedPath = target.shown := by exact fun _ => rfl

namespace Request

def verb (request : Request) : String :=
  String.ofList (Text.upper request.method.toList)

def header? (request : Request) (name : List Char) : Option String :=
  firstHeader? request.headers name

def id? (request : Request) : Option String :=
  request.header? "x-request-id".toList

/-- Whether a media type, with or without parameters, is that of JSON or of a format that is written
as JSON. -/
def isJsonType (mediaType : String) : Bool :=
  let essence := Text.dropEnds Text.isSpacing (mediaType.toList.takeWhile (· != ';'))
  match Text.splitAt '/' (essence.map Char.toLower) with
  | [family, format] =>
    family == "application".toList &&
      (format == "json".toList || "+json".toList.isSuffixOf format)
  | _ => false

/-- Whether the body of a request is meant to be JSON, as it is unless a header says otherwise. -/
def hasJson (request : Request) : Bool :=
  match request.header? "content-type".toList with
  | some mediaType => isJsonType mediaType
  | none => true

end Request

end TopicAccess
