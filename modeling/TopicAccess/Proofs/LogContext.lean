import TopicAccess.Proofs.Records
import TopicAccess.Proofs.Standing

/-!
# The context of the log

`Service.handle` gives every request a log context of its own. A log may also have one context for
all that happens, which is set and cleared again. What is then seen of a change outside of the place
where it is made is up to where the context is kept: `Sharing` says whether changes of an endpoint
are seen when its request ends, and whether those of a request are seen after it. `Service.trace`
has the records of a request in such a context. Where endpoints share nothing, they are those of
`Service.handle` (`Service.trace_eq_handle`).

Every record is that of an event of one of a few kinds, logged in a context that depends on the kind
(`Service.happens_trace`).
-/
namespace TopicAccess

/-! ### Contexts -/

namespace Log.Context

/-- What is seen of a context outside of the place where it is changed. -/
def outside (shared : Bool) (before changed : Context) : Context :=
  if shared then changed else before

@[simp] theorem outside_self (shared : Bool) (context : Context) :
    outside shared context context = context := by
  simp [outside]

@[simp] theorem setUser_requestId (context : Context) (user : Option String) :
    (context.setUser user).requestId = context.requestId := by
  unfold setUser
  cases user with
  | none => rfl
  | some name => by_cases empty : name = "" <;> simp [empty]

/-- In a context without a user, the user that is recorded is the one that was set. -/
theorem shown?_setUser {context : Context} (nobody : context.user = none) (user : Option String) :
    shown? (context.setUser user).user = shown? user := by
  unfold setUser
  cases user with
  | none => simp [nobody, shown?]
  | some name => by_cases empty : name = "" <;> simp [empty, nobody, shown?]

end Log.Context

namespace Service

open Log (shown? holds)

/-- Where changes of the context are seen: whether those of an endpoint are seen when its request
ends, and whether those of a request are seen after it. -/
structure Sharing where
  endpoint : Bool
  request : Bool

/-- The endpoint that handles a request, if one does. -/
def endpointFor? (service : Service) (request : Request) : Option Endpoint :=
  (service.endpointAt? request.target).filter fun endpoint =>
    endpoint.methods.contains request.verb

/-- The context in which a request is handled. -/
def entered (ambient : Log.Context) (request : Request) : Log.Context :=
  ambient.setRequestId request.id? request.freshId

/-- The context that the endpoint of a request leaves. A check sets its user. -/
def leave (context : Log.Context) (request : Request) (service : Service) : Log.Context :=
  match service.endpointFor? request,
    CheckRequest.ofBody request.limits request.hasJson request.body with
  | some .check, .ok check => context.setUser check.user
  | _, _ => context

/-- The context in which a request ends. -/
def concluding (sharing : Sharing) (ambient : Log.Context) (request : Request)
    (service : Service) : Log.Context :=
  let handling := entered ambient request
  .outside sharing.endpoint handling (leave handling request service)

/-- The context after a request, which clears it. -/
def cleared (sharing : Sharing) (ambient : Log.Context) : Log.Context :=
  .outside sharing.request ambient .empty

/-! ### Events -/

def servedEvent (service : Service) (request : Request) (response : Response) : Log.Event :=
  service.event .info "HTTP request" [("method", .str request.verb),
    ("path", .str request.reportedPath), ("status_code", .nat response.status)]

/-- A request that names no host, or a plain one, is recorded with its own path. -/
theorem servedEvent_of_plain (service : Service) {request : Request}
    (plain : ∀ host, request.header? "host".toList = some host → isPlainHost host = true)
    (response : Response) : service.servedEvent request response =
      service.event .info "HTTP request" [("method", .str request.verb),
        ("path", .str request.target.shown), ("status_code", .nat response.status)] := by
  rw [servedEvent, request.reported_plain plain]

def refusedEvent (service : Service) (problem : Problem) : Log.Event :=
  service.event .error "ACL error" [("code", .str problem.code),
    ("message", .ofLoose problem.message), ("details", .obj problem.details)]

def failedEvent (service : Service) (message : String) : Log.Event :=
  service.event .error "Unhandled exception" [("error", .str message)]

/-- What is logged when an endpoint has run, and the context of each event. The context of a request
is cleared before a failure is logged. -/
def concludingEvents (request : Request) (ending after : Log.Context) (effect : Effect) :
    List (Log.Event × Log.Context) :=
  match effect.outcome with
  | .answered response => [(effect.service.servedEvent request response, ending)]
  | .refused problem => [(effect.service.refusedEvent problem, ending),
      (effect.service.servedEvent request ⟨400, .json problem.response⟩, ending)]
  | .failed message => [(effect.service.failedEvent message, after)]

/-- The records of a request that is handled in an ambient context. -/
def trace (sharing : Sharing) (ambient : Log.Context) (files : FileTree) (request : Request)
    (service : Service) : List Json.Fields :=
  let effect := service.dispatch files (entered ambient request) request
  let events := concludingEvents request (concluding sharing ambient request service)
    (cleared sharing ambient) effect
  effect.records ++ events.flatMap fun entry =>
    Log.records effect.service.threshold entry.2 [entry.1]

/-- Where endpoints share nothing, the records are those that are left in a context of one's own. -/
theorem trace_eq_handle {sharing : Sharing} (unshared : sharing.endpoint = false)
    (files : FileTree) (request : Request) (service : Service) :
    service.trace sharing .empty files request = (service.handle files request).2.2 := by
  have own : concluding sharing .empty request service = contextOf request := by
    simp [concluding, Log.Context.outside, unshared, entered, contextOf]
  have none : cleared sharing .empty = .empty := Log.Context.outside_self _ _
  have same : entered .empty request = contextOf request := rfl
  rw [trace, own, none, same]
  -- In each case the events of the request are logged in the same contexts, in the same order.
  cases came : (service.dispatch files (contextOf request) request).outcome <;>
    simp [concludingEvents, came, handle, conclude, servedEvent, refusedEvent, failedEvent, event]

/-! ### What happens while a request is handled -/

/-- An event whose own fields name neither a request nor a user. -/
structure Unaddressed (event : Log.Event) : Prop where
  requestId : event.fields.get? "request_id" = none
  user : event.fields.get? "user" = none

section Happens

variable (service : Service) (files : FileTree) (request : Request)
  (handling ending after : Log.Context)

/-- What can be logged of a request, and in which context: that in which the request is handled, in
which it ends, or the one after it. -/
inductive Happens : Log.Event → Log.Context → Prop
  | noted {path : String} {selection : Authorizer.Selection} {notice : Notice}
      (configured : service.ruleFile? = some path)
      (chosen : service.choose files = .ok selection) (member : notice ∈ selection.notices) :
      Happens notice.event handling
  | told {event : Log.Event}
      (name : event.name = "Health check failed" ∨ event.name = "Authorizator ready")
      (unaddressed : Unaddressed event) : Happens event handling
  | checked {event : Log.Event} {check : CheckRequest}
      (accepted : CheckRequest.ofBody request.limits request.hasJson request.body = .ok check)
      (name : event.name = "ACL check") (unaddressed : Unaddressed event) :
      Happens event (handling.setUser check.user)
  | ended {event : Log.Event} (name : event.name = "ACL error" ∨ event.name = "HTTP request")
      (unaddressed : Unaddressed event) : Happens event ending
  | failed {event : Log.Event} (name : event.name = "Unhandled exception")
      (unaddressed : Unaddressed event)
      (status : (service.handle files request).2.1.status = 500) : Happens event after

end Happens

/-- A load notes what happens while an authorizer is chosen, and tells in the end which it is. -/
theorem exists_choose_of_load {service after : Service} {files : FileTree}
    {events : List Log.Event} (loaded : service.load files = .ok (after, events)) :
    ∃ selection, service.choose files = .ok selection ∧
      events = selection.notices.map (·.event) ++ [service.readyEvent selection.authorizer] ∧
      after.threshold = service.threshold := by
  unfold load at loaded
  split at loaded
  next fault _ => cases loaded
  next selection chosen =>
    cases loaded
    exact ⟨selection, chosen, rfl, rfl⟩

section Endpoints

variable (service : Service) (files : FileTree) (request : Request)
  (handling ending after : Log.Context)

/-- One case for each endpoint. -/
theorem happens_run (endpoint : Endpoint) {record : Json.Fields}
    (member : record ∈ (service.run files handling request endpoint).records) :
    ∃ event context, Happens service files request handling ending after event context ∧
      event.record context = record := by
  cases endpoint with
  | check =>
    simp only [run, checkPermission] at member
    split at member
    · cases member
    -- The user of a check is in the context of its event.
    next check accepted =>
      obtain rfl := Log.eq_record_of_mem member
      exact ⟨_, _, .checked accepted rfl ⟨rfl, rfl⟩, rfl⟩
  | health =>
    simp only [run, checkHealth] at member
    split at member
    · cases member
    · obtain rfl := Log.eq_record_of_mem member
      exact ⟨_, _, .told (.inl rfl) ⟨rfl, rfl⟩, rfl⟩
  | reload =>
    simp only [run, reload] at member
    split at member
    · cases member
    next path configured =>
      split at member
      · cases member
      next _ events loaded =>
        obtain ⟨selection, chosen, rfl, _⟩ := exists_choose_of_load loaded
        obtain ⟨event, found, _, rfl⟩ := (Log.mem_records_iff _ _ _ _).mp member
        rcases List.mem_append.mp found with noted | ready
        · obtain ⟨notice, among, rfl⟩ := List.mem_map.mp noted
          exact ⟨_, _, .noted configured chosen among, rfl⟩
        · obtain rfl := List.mem_singleton.mp ready
          exact ⟨_, _, .told (.inr rfl) ⟨rfl, rfl⟩, rfl⟩
  | root | metrics | summary | interface | page => cases member

theorem happens_dispatch {record : Json.Fields}
    (member : record ∈ (service.dispatch files handling request).records) :
    ∃ event context, Happens service files request handling ending after event context ∧
      event.record context = record := by
  unfold dispatch at member
  split at member
  · cases member
  next endpoint _ =>
    split at member
    · exact happens_run service files request handling ending after endpoint member
    · cases member

end Endpoints

/-- Every record of a request is that of something that happens while it is handled. -/
theorem happens_trace {sharing : Sharing} {files : FileTree} {request : Request}
    {service : Service} {record : Json.Fields}
    (member : record ∈ service.trace sharing .empty files request) :
    ∃ event context, Happens service files request (contextOf request)
      (concluding sharing .empty request service) .empty event context ∧
      event.record context = record := by
  have none : cleared sharing .empty = .empty := Log.Context.outside_self _ _
  rw [trace, none] at member
  rcases List.mem_append.mp member with inside | behind
  -- What the endpoint leaves comes first, and what is logged when it has run comes behind.
  · exact happens_dispatch service files request (contextOf request) _ .empty inside
  · obtain ⟨⟨event, context⟩, found, recorded⟩ := List.mem_flatMap.mp behind
    obtain rfl := Log.eq_record_of_mem recorded
    refine ⟨_, _, ?_, rfl⟩
    have same : entered .empty request = contextOf request := rfl
    rw [same] at found
    unfold concludingEvents at found
    split at found
    next response came =>
      simp only [List.mem_singleton, Prod.mk.injEq] at found
      obtain ⟨rfl, rfl⟩ := found
      exact .ended (.inr rfl) ⟨rfl, rfl⟩
    next problem came =>
      simp only [List.mem_cons, List.not_mem_nil, or_false, Prod.mk.injEq] at found
      rcases found with ⟨rfl, rfl⟩ | ⟨rfl, rfl⟩
      · exact .ended (.inl rfl) ⟨rfl, rfl⟩
      · exact .ended (.inr rfl) ⟨rfl, rfl⟩
    next message came =>
      simp only [List.mem_singleton, Prod.mk.injEq] at found
      obtain ⟨rfl, rfl⟩ := found
      refine .failed rfl ⟨rfl, rfl⟩ ?_
      simp only [handle, came, Response.sent]
      split <;> rfl

end Service
end TopicAccess
