import TopicAccess.Json
import TopicAccess.Log.Severity
import TopicAccess.Text.Split

/-!
# Log events and their context

An event is logged by a named logger; one without a name goes to the root of all loggers. The record
that is kept names the event, its severity and its logger. It also names the service, which is the
logger's name before its first point; the request that is being handled; and the principal on whose
behalf it is handled. These three overwrite fields of the same names.

The context is cleared as a whole. Until then an empty user is ignored, while an empty request
identifier takes the place of the one before it and is not recorded.
-/
namespace TopicAccess.Log

/-- What a logger is given. -/
structure Event where
  logger : String
  severity : Severity
  name : String
  fields : Json.Fields := []
deriving Repr

/-- What is being done while events are logged. -/
structure Context where
  requestId : Option String := none
  user : Option String := none
deriving DecidableEq, Repr

namespace Context

def empty : Context := {}

/-- Set the request identifier. When none is given, the fresh one is taken. -/
def setRequestId (context : Context) (given : Option String) (fresh : String) : Context :=
  { context with requestId := some (given.getD fresh) }

def setUser (context : Context) (user : Option String) : Context :=
  match user with
  | none => context
  | some name => if name = "" then context else { context with user := some name }

end Context

/-- The part of a logger's name before the first point, if it has one. -/
def serviceOf? (logger : String) : Option String :=
  match Text.splitAt '.' logger.toList with
  | service :: _ :: _ => some (String.ofList service)
  | _ => none

/-- Set a member to a text that is there and not empty. -/
def insertText (fields : Json.Fields) (name : String) (text : Option String) : Json.Fields :=
  match text with
  | none => fields
  | some text => if text = "" then fields else fields.insert name (.str text)

def rootLogger : String := "root"

def Event.loggerName (event : Event) : String :=
  if event.logger = "" then rootLogger else event.logger

def Event.record (event : Event) (context : Context) : Json.Fields :=
  let named := ((event.fields.insert "event" (.str event.name)).insert "logger"
    (.str event.loggerName)).insert "level" (.str event.severity.name)
  let served := match serviceOf? event.loggerName with
    | some service => named.insert "service" (.str service)
    | none => named
  insertText (insertText served "request_id" context.requestId) "user" context.user

/-- The records that a log keeps of events that happen in one context. -/
def records (threshold : Threshold) (context : Context) (events : List Event) :
    List Json.Fields :=
  (events.filter fun event => threshold.keeps event.severity).map (·.record context)

end TopicAccess.Log
