import TopicAccess.Arguments
import TopicAccess.Json.Writer
import TopicAccess.Log.Event
import TopicAccess.Log.Placeholder

/-!
# Sessions with a log

In a session the context is set and cleared, and events are logged in the context of the moment.

The fields of an event are JSON values. Some of them are not for its record. The name of the event
and the logger are given by place and cannot be fields. What is asked of the log itself is not
recorded, and what fills the places in the event's name goes there. A record is kept as JSON, which
a writer with limits writes.
-/
namespace TopicAccess.Log

/-- One step of a session. -/
inductive Step where
  | setRequestId (given : Option String) (fresh : String)
  | setUser (user : Option String)
  | clear
  | log (event : Event)
deriving Repr

/-- What a step gives: the request identifier that is now set, nothing, or the records that are
kept. -/
inductive Reply where
  | requestId (id : String)
  | nothing
  | kept (records : List Json.Fields)
deriving Repr

inductive EventFault where
  | arguments (fault : ArgumentFault)
  | owner (kind : String)
  | name (fault : Placeholder.Fault)
  | record (fault : Json.WriteFault)
deriving Repr

def EventFault.message : EventFault → String
  | arguments fault => fault.message
  | owner kind => "'" ++ kind ++ "' object has no attribute 'name'"
  | name fault => fault.message
  | record fault => fault.message

/-- The fault of an event's fields, if they have one: they may not give again what is given by
place. -/
def Event.fieldsFault? (event : Event) : Option ArgumentFault :=
  (Arguments.repeated? ("BoundLogger." ++ event.severity.name) ["self", "event"] event.fields).or
    (Arguments.repeated? "BoundLogger._proxy_to_logger" ["method_name"] event.fields)

/-- The field by which a record says where it was made. -/
def ownerField : String := "_record"

/-- The fault of the field that says where a record was made, if it has one: no value of a field
has a logger. -/
def Event.ownerFault? (event : Event) : Option EventFault :=
  match event.fields.get? ownerField with
  | some .null | none => none
  | some value => some (.owner value.kind)

/-- The field that fills the places in an event's name. -/
def fillingField : String := "positional_args"

def requestFields : List String := ["exc_info", "stack_info"]

/-- An event with its name filled, and without the fields that ask something of the log. A filling
that is `null` counts as an ordinary field. -/
def Event.settle (event : Event) : Except Placeholder.Fault Event :=
  let filling := (event.fields.get? fillingField).getD .null
  let spent := match filling with
    | .null => requestFields
    | _ => fillingField :: requestFields
  (Placeholder.fill event.name filling).map fun name =>
    { event with name, fields := event.fields.filter fun field => !spent.contains field.1 }

variable (limits : Json.Limits) (threshold : Threshold)

/-- The records that a log keeps of an event with any fields. -/
def logged (context : Context) (event : Event) : Except EventFault (List Json.Fields) :=
  match event.fieldsFault? with
  | some fault => .error (.arguments fault)
  | none =>
    if threshold.keeps event.severity then
      match event.ownerFault?, event.settle with
      | some fault, _ => .error fault
      | none, .error fault => .error (.name fault)
      | none, .ok event =>
        let record := event.record context
        match (Json.obj record).writeFault? limits with
        | some fault => .error (.record fault)
        | none => .ok [record]
    else .ok []

def step (context : Context) : Step → Except EventFault (Context × Reply)
  | .setRequestId given fresh =>
    .ok (context.setRequestId given fresh, .requestId (given.getD fresh))
  | .setUser user => .ok (context.setUser user, .nothing)
  | .clear => .ok (.empty, .nothing)
  | .log event =>
    (logged limits threshold context event).map fun records => (context, .kept records)

/-- Take several steps and collect what they give, unless one of them fails. -/
def run (context : Context) : List Step → Except EventFault (List Reply)
  | [] => .ok []
  | next :: rest =>
    match step limits threshold context next with
    | .error fault => .error fault
    | .ok (after, reply) => (run after rest).map (reply :: ·)

end TopicAccess.Log
