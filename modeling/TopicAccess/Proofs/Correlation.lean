import TopicAccess.Proofs.AuditTrail
import TopicAccess.Proofs.InForce
import TopicAccess.Proofs.LogContext

/-!
# Which request a record belongs to

Whatever is shared of the log context, a request leaves it as empty as it was. So all that is
recorded of a request names this request and the user of its own body, and the users that a reload
records are those of the rule file (`Service.Session.exchanges_attributed`). A failure inside the
service is logged after the request, and its record names neither request nor user
(`Service.handle_failure_unidentified`).
-/
namespace TopicAccess.Service

open Log (shown? holds)

/-! ### What the records of a request tell -/

/-- The user that the body of a request names, if it is a check. -/
def bodyUser? (request : Request) : Option String :=
  (CheckRequest.ofBody request.limits request.hasJson request.body).toOption.bind (·.user)

/-- The events of a load of rules. -/
def loadEvents : List String :=
  ["Parsing ACL file", "Entering user section", "Authorization added", "Pattern directive ignored",
    "Skipping invalid ACL line", "ACL rules loaded"]

/-- The rule file that is configured holds a text. -/
def Configured (service : Service) (files : FileTree) (text : List Char) : Prop :=
  ∃ path, service.ruleFile? = some path ∧ RuleFile.Reads files path text

/-- The records of a request tell of this request only. All but that of a failure have the
identifier that the request brings or is given; the latter has neither an identifier nor a user.
Checks have the user of their body, and requests have this user or none. Of the events of a load
only those about sections have a user, which is the one that a line of the file enters the section
of; and where all records are kept, those of a reload recount the rules that it takes over. -/
structure Attributed (service : Service) (files : FileTree) (request : Request)
    (records : List Json.Fields) : Prop where
  identified : ∀ record ∈ records, holds "event" "Unhandled exception" record = false →
    record.get? "request_id" =
      (shown? (some (request.id?.getD request.freshId))).map Json.str
  failed : ∀ record ∈ records, holds "event" "Unhandled exception" record = true →
    record.get? "request_id" = none ∧ record.get? "user" = none ∧
      (service.handle files request).2.1.status = 500
  checked : ∀ record ∈ records, holds "event" "ACL check" record = true →
    record.get? "user" = (shown? (bodyUser? request)).map Json.str
  served : ∀ record ∈ records, holds "event" "HTTP request" record = true →
    record.get? "user" = none ∨ record.get? "user" = (shown? (bodyUser? request)).map Json.str
  sections : ∀ record ∈ records, ∀ name ∈ loadEvents, holds "event" name record = true →
    ∀ value, record.get? "user" = some value → ∃ text line user, service.Configured files text ∧
      line ∈ RuleFile.linesOf text ∧ RuleText.Means line (.enter user) ∧ value = .str user
  recounted : service.servesRules = true → request.Asks "POST" "/acl/reload" →
    service.threshold.keeps .debug = true → ∀ text, service.Configured files text →
      ∃ store, Log.Recounts records store ∧ ∀ loaded,
        (RuleText.load service.settings.aclStrict (RuleFile.linesOf text)).outcome = .ok loaded →
          store = loaded

theorem bodyUser?_of_accepted {request : Request} {check : CheckRequest}
    (accepted : CheckRequest.ofBody request.limits request.hasJson request.body = .ok check) :
    bodyUser? request = check.user := by
  rw [bodyUser?, accepted]
  rfl

/-- A request ends in its own context, in which at most the user of its body is set. -/
theorem concluding_cases (sharing : Sharing) (request : Request) (service : Service) :
    concluding sharing .empty request service = contextOf request ∨
      concluding sharing .empty request service =
        (contextOf request).setUser (bodyUser? request) := by
  unfold concluding Log.Context.outside
  split
  · unfold leave
    split
    next check _ accepted =>
      rw [bodyUser?_of_accepted accepted]
      exact .inr rfl
    · exact .inl rfl
  · exact .inl rfl

theorem concluding_requestId (sharing : Sharing) (request : Request) (service : Service) :
    (concluding sharing .empty request service).requestId = (contextOf request).requestId := by
  rcases concluding_cases sharing request service with own | own <;> simp [own]

/-- Events of requests, none of which is that of a notice. -/
def requestEvents : List String :=
  ["ACL check", "HTTP request", "Unhandled exception"]

theorem not_mem_requestEvents (notice : Notice) : notice.event.name ∉ requestEvents := by
  cases notice <;> simp [Notice.event, requestEvents]

section Happens

variable {service : Service} {files : FileTree} {request : Request}
  {handling ending after context : Log.Context} {event : Log.Event}
  (happens : Happens service files request handling ending after event context)

include happens

theorem Happens.get?_requestId : event.fields.get? "request_id" = none := by
  cases happens with
  | noted => exact Notice.get?_requestId _
  | told _ unaddressed | checked _ _ unaddressed | ended _ unaddressed
  | failed _ unaddressed => exact unaddressed.requestId

/-- Behind a request only its failure is logged. -/
theorem Happens.context_requestId (same : ending.requestId = handling.requestId) :
    context.requestId = handling.requestId ∨ event.name = "Unhandled exception" := by
  cases happens with
  | noted | told => exact .inl rfl
  | checked => exact .inl (Log.Context.setUser_requestId _ _)
  | ended => exact .inl same
  | failed name => exact .inr name

/-- A check is logged on behalf of the user of the body. -/
theorem Happens.of_check (name : event.name = "ACL check") :
    event.fields.get? "user" = none ∧ context = handling.setUser (bodyUser? request) := by
  cases happens with
  | noted => exact absurd (by rw [name]; decide) (not_mem_requestEvents _)
  | told other | ended other | failed other => simp [name] at other
  | checked accepted _ unaddressed =>
    rw [bodyUser?_of_accepted accepted]
    exact ⟨unaddressed.user, rfl⟩

theorem Happens.of_served (name : event.name = "HTTP request") :
    event.fields.get? "user" = none ∧ context = ending := by
  cases happens with
  | noted => exact absurd (by rw [name]; decide) (not_mem_requestEvents _)
  | told other | checked _ other | failed other => simp [name] at other
  | ended _ unaddressed => exact ⟨unaddressed.user, rfl⟩

theorem Happens.of_failed (name : event.name = "Unhandled exception") :
    event.fields.get? "user" = none ∧ context = after ∧
      (service.handle files request).2.1.status = 500 := by
  cases happens with
  | noted => exact absurd (by rw [name]; decide) (not_mem_requestEvents _)
  | told other | checked _ other | ended other => simp [name] at other
  | failed _ unaddressed status => exact ⟨unaddressed.user, rfl, status⟩

theorem Happens.of_load (name : event.name ∈ loadEvents) : ∃ path selection, ∃ notice : Notice,
    service.ruleFile? = some path ∧ service.choose files = .ok selection ∧
      notice ∈ selection.notices ∧ event = notice.event ∧ context = handling := by
  cases happens with
  | noted configured chosen member => exact ⟨_, _, _, configured, chosen, member, rfl, rfl⟩
  | told other | ended other =>
    rcases other with other | other <;> rw [other] at name <;> exact absurd name (by decide)
  | checked _ other | failed other =>
    rw [other] at name
    exact absurd name (by decide)

end Happens

/-- A reload leaves the notices of the choice that it makes, and no other of them adds a rule. -/
theorem trace_reload {sharing : Sharing} {files : FileTree} {request : Request} {service : Service}
    (serves : service.servesRules = true) (asks : request.Asks "POST" "/acl/reload")
    (keeps : service.threshold.keeps .debug = true) {path : String}
    (configured : service.ruleFile? = some path) {selection : Authorizer.Selection}
    (chosen : service.choose files = .ok selection) : ∃ more,
    service.trace sharing .empty files request =
        Log.recordsIn (contextOf request) selection.notices ++ more ∧
      ∀ record ∈ more, holds "event" "Authorization added" record = false := by
  obtain ⟨after, events, loaded, _⟩ := load_of_choose chosen
  obtain ⟨selection', chosen', rfl, threshold⟩ := exists_choose_of_load loaded
  cases chosen.symm.trans chosen'
  have same : entered .empty request = contextOf request := rfl
  rw [trace, same, dispatch_reload serves files _ asks]
  simp only [reload, configured, loaded, answer, concludingEvents, threshold,
    Log.records_of_keeps_debug keeps, List.map_append, List.map_map, List.append_assoc]
  refine ⟨_, rfl, ?_⟩
  -- That the authorizer is ready and that the request has been served comes behind the notices.
  intro record member
  rcases List.mem_append.mp member with ready | served
  · obtain rfl := List.mem_singleton.mp ready
    exact Log.holds_event_record _ _ _
  · obtain rfl : record = _ := by simpa using served
    exact Log.holds_event_record _ _ _

/-- Whatever was checked before, a reload recounts rules, and these are the rules of the load if it
succeeds. -/
theorem exists_recounts_trace (sharing : Sharing) {files : FileTree} {request : Request}
    {service : Service} (serves : service.servesRules = true)
    (asks : request.Asks "POST" "/acl/reload") (keeps : service.threshold.keeps .debug = true)
    {text : List Char} (configured : service.Configured files text) : ∃ store,
    Log.Recounts (service.trace sharing .empty files request) store ∧ ∀ loaded,
      (RuleText.load service.settings.aclStrict (RuleFile.linesOf text)).outcome = .ok loaded →
        store = loaded := by
  obtain ⟨path, configured, reads⟩ := configured
  obtain ⟨file, nonempty⟩ := (ruleFile?_eq_some_iff service path).mp configured
  obtain ⟨selection, selected⟩ : ∃ selection, service.choose files = .ok selection := by
    simp [choose, path?, file, Authorizer.select, nonempty, reads.load, Except.map]
  obtain ⟨more, records, others⟩ := trace_reload serves asks keeps configured selected
  rw [choose, path?, file] at selected
  obtain ⟨chosen, notices, silent⟩ :=
    Authorizer.exists_notices_select (by simpa using nonempty) selected reads
  have nobody : shown? (contextOf request).user = none := rfl
  obtain ⟨store, recounts, same⟩ := RuleText.exists_recounts_load service.settings.aclStrict
    (RuleFile.linesOf text) nobody (FileTree.Path.ofText path).text
  have choice : ∀ record ∈ Log.recordsIn (contextOf request) chosen,
      holds "event" "Authorization added" record = false := by
    intro record member
    obtain ⟨notice, found, rfl⟩ := List.mem_map.mp member
    rw [Log.holds_added, (silent notice found).1]
    rfl
  refine ⟨store, ?_, same⟩
  rw [records, notices, Log.recordsIn, List.map_append]
  exact (recounts.append choice).append others

/-- A record of a name is that of an event of the name. -/
theorem happens_of_holds {sharing : Sharing} {files : FileTree} {request : Request}
    {service : Service} {record : Json.Fields}
    (member : record ∈ service.trace sharing .empty files request) {name : String}
    (named : holds "event" name record = true) :
    ∃ event context, Happens service files request (contextOf request)
      (concluding sharing .empty request service) .empty event context ∧
      event.name = name ∧ event.record context = record := by
  obtain ⟨event, context, happens, rfl⟩ := happens_trace member
  rw [Log.holds_event_record, beq_iff_eq] at named
  exact ⟨event, context, happens, named, rfl⟩

theorem attributed_trace (sharing : Sharing) (files : FileTree) (request : Request)
    (service : Service) :
    Attributed service files request (service.trace sharing .empty files request) := by
  have nobody : shown? (contextOf request).user = none := rfl
  constructor
  case identified =>
    intro record member notFailed
    obtain ⟨event, context, happens, rfl⟩ := happens_trace member
    have same := happens.context_requestId (concluding_requestId sharing request service)
    rw [Log.holds_event_record, beq_eq_false_iff_ne] at notFailed
    rw [Log.Event.get?_record_requestId, same.resolve_right notFailed, happens.get?_requestId]
    exact Option.or_none
  case failed =>
    intro record member failed
    obtain ⟨event, context, happens, name, rfl⟩ := happens_of_holds member failed
    obtain ⟨user, rfl, status⟩ := happens.of_failed name
    rw [Log.Event.get?_record_requestId, Log.Event.get?_record_user, happens.get?_requestId, user]
    exact ⟨rfl, rfl, status⟩
  case checked =>
    intro record member checked
    obtain ⟨event, context, happens, name, rfl⟩ := happens_of_holds member checked
    obtain ⟨user, rfl⟩ := happens.of_check name
    rw [Log.Event.get?_record_user, Log.Context.shown?_setUser rfl, user]
    exact Option.or_none
  case served =>
    intro record member served
    obtain ⟨event, context, happens, name, rfl⟩ := happens_of_holds member served
    obtain ⟨user, rfl⟩ := happens.of_served name
    rw [Log.Event.get?_record_user, user, Option.or_none]
    -- What an endpoint sets may be seen or not, and a check is the only one that sets a user.
    rcases concluding_cases sharing request service with own | own
    · rw [own, nobody]
      exact .inl rfl
    · rw [own, Log.Context.shown?_setUser rfl]
      exact .inr rfl
  case sections =>
    intro record member name known named value said
    obtain ⟨event, context, happens, rfl, rfl⟩ := happens_of_holds member named
    obtain ⟨path, selection, notice, configured, chosen, among, rfl, rfl⟩ :=
      happens.of_load known
    -- The context of a load has no user, so the user is the one that the notice is about.
    rw [Log.get?_user_notice nobody] at said
    obtain ⟨user, about, rfl⟩ := Option.map_eq_some_iff.mp said
    obtain ⟨file, nonempty⟩ := (ruleFile?_eq_some_iff service path).mp configured
    rw [choose, path?, file] at chosen
    obtain ⟨text, reads, line, stands, enters⟩ :=
      Authorizer.exists_enter_of_select (by simpa using nonempty) chosen among about
    exact ⟨text, line, user, ⟨path, configured, reads⟩, stands, enters, rfl⟩
  case recounted =>
    intro serves asks keeps text configured
    exact exists_recounts_trace sharing serves asks keeps configured

/-! ### Sessions -/

namespace Session

/-- A request of a session, the session that it is made in and the records that it leaves. -/
structure Exchange where
  session : Session
  request : Request
  records : List Json.Fields

/-- The requests of a session whose log has one context for all that happens. Each step comes with
what it shares of the context. -/
def exchanges (ambient : Log.Context) (session : Session) : List (Sharing × Step) → List Exchange
  | [] => []
  | (sharing, .request request) :: rest =>
    ⟨session, request, session.service.trace sharing ambient session.files request⟩ ::
      exchanges (cleared sharing ambient) (session.step (.request request)).1 rest
  | (_, step) :: rest => exchanges ambient (session.step step).1 rest

section Step

variable (session : Session) (sharing : Sharing) (step : Step)

/-- The exchange of a step, if it is a request. -/
def exchange? : Option Exchange :=
  match step with
  | .request request =>
    some ⟨session, request, session.service.trace sharing .empty session.files request⟩
  | _ => none

/-- Every step leaves the context as empty as it was. -/
theorem exchanges_cons (rest : List (Sharing × Step)) :
    session.exchanges .empty ((sharing, step) :: rest) =
      (session.exchange? sharing step).toList ++ (session.step step).1.exchanges .empty rest := by
  have none : cleared sharing .empty = .empty := Log.Context.outside_self _ _
  cases step <;> simp [exchanges, exchange?, none]

theorem records_exchange? (unshared : sharing.endpoint = false) :
    (session.exchange? sharing step).toList.flatMap (·.records) = (session.step step).2.2 := by
  cases step with
  | request request => simp [exchange?, Session.step, trace_eq_handle unshared]
  | askKept operation topic user =>
    simp only [exchange?, Session.step]
    split <;> rfl
  | _ => rfl

end Step

/-- Where endpoints share nothing, the records of the requests are those of the run. -/
theorem records_exchanges (session : Session) {steps : List (Sharing × Step)}
    (unshared : ∀ entry ∈ steps, entry.1.endpoint = false) :
    (session.exchanges .empty steps).flatMap (·.records) =
      (session.run (steps.map (·.2))).2.flatMap (·.2) := by
  induction steps generalizing session with
  | nil => rfl
  | cons entry rest ih =>
    obtain ⟨sharing, step⟩ := entry
    have here := session.records_exchange? sharing step (unshared _ List.mem_cons_self)
    have later := ih (session.step step).1 fun entry member =>
      unshared entry (List.mem_cons_of_mem _ member)
    rw [exchanges_cons, List.flatMap_append, here, later]
    rfl

/-- **The context of the log.** Whatever is shared of the context, all records of a request name
this request, but for that of a failure inside the service, which is answered with 500 and names
neither a request nor a user. Checks are recorded with the user of their own body, and other
requests are recorded with that user or none. The events of a reload name the users of the sections
of the file, and with all events kept they recount the rules. -/
theorem exchanges_attributed (session : Session) (steps : List (Sharing × Step)) :
    ∀ exchange ∈ session.exchanges .empty steps,
      Attributed exchange.session.service exchange.session.files exchange.request
        exchange.records := by
  induction steps generalizing session with
  | nil => simp [exchanges]
  | cons entry rest ih =>
    obtain ⟨sharing, step⟩ := entry
    intro exchange member
    rw [exchanges_cons] at member
    rcases List.mem_append.mp member with here | later
    -- Only a request is an exchange, and it found the context empty.
    · cases step with
      | request request =>
        obtain rfl : exchange = _ := by simpa [exchange?] using here
        exact attributed_trace sharing session.files request session.service
      | _ => cases here
    · exact ih (session.step step).1 exchange later

/-- Where all of the context is shared, a request by a user is concluded with this user, but the
check of an anonymous client that comes after it has no user. -/
theorem exchanges_attributed_anonymous_check :
    let check (body : String) : Request :=
      { method := "POST", target := ⟨"/acl/check".toList⟩, body := Text.Utf8.encode body.toList
        freshId := "1", duration := 0, limits := ⟨50, 1000⟩ }
    let named :=
      check "\x7b\"topic\": \"t\", \"operation\": \"read\", \"user\": \"ann\"\x7d"
    let anonymous := check "\x7b\"topic\": \"t\", \"operation\": \"read\"\x7d"
    ∃ service records first second,
      start {} [("log_level", .str "debug")] = .ok (service, records) ∧
      exchanges .empty { service, files := {} }
        [(⟨true, true⟩, .request named), (⟨true, true⟩, .request anonymous)] = [first, second] ∧
      (∃ record ∈ first.records,
        holds "event" "HTTP request" record = true ∧ record.get? "user" = some (.str "ann")) ∧
      (∃ record ∈ second.records, holds "event" "ACL check" record = true) ∧
      ∀ record ∈ second.records, holds "event" "ACL check" record = true →
        record.get? "user" = none := by
  intro check named anonymous
  let script : List (Sharing × Step) :=
    [(⟨true, true⟩, .request named), (⟨true, true⟩, .request anonymous)]
  have outcome : ((start {} [("log_level", .str "debug")]).toOption.map fun started =>
      (exchanges .empty { service := started.1, files := {} } script).map fun exchange =>
        (exchange.records.any fun record =>
            holds "event" "HTTP request" record && holds "user" "ann" record,
          exchange.records.any (holds "event" "ACL check"))) =
      some [(true, true), (false, true)] := by
    decide +kernel
  obtain ⟨⟨service, records⟩, begun, told⟩ := Option.map_eq_some_iff.mp outcome
  rw [toOption_eq_some_iff] at begun
  obtain ⟨first, told⟩ := List.cons.inj told
  obtain ⟨second, _⟩ := List.cons.inj told
  have attributed := exchanges_attributed { service, files := {} } script _
    (List.mem_cons_of_mem _ List.mem_cons_self)
  have nobody : shown? (bodyUser? anonymous) = none := by decide +kernel
  refine ⟨service, records, _, _, begun, rfl, ?_, ?_, ?_⟩
  · simpa [Log.holds_iff] using (Prod.mk.inj first).1
  · simpa using (Prod.mk.inj second).2
  · intro record member checked
    rw [attributed.checked record member checked, nobody]
    rfl

end Session

/-- The record of a failure does not name the request that brought an identifier. -/
theorem handle_failure_unidentified :
    let request : Request :=
      { method := "POST", target := ⟨"/acl/check".toList⟩, headers := [("x-request-id", "r")]
        body := Text.Utf8.encode "\x7b\"topic\":\"a\",\"operation\":1e999\x7d".toList
        freshId := "1", duration := 0, limits := ⟨50, 1000⟩ }
    ∃ service records, start {} [("log_level", .str "debug")] = .ok (service, records) ∧
      request.id? = some "r" ∧
      ∃ record ∈ (service.handle {} request).2.2,
        holds "event" "Unhandled exception" record = true ∧ record.get? "request_id" = none := by
  intro request
  have outcome : ((start {} [("log_level", .str "debug")]).toOption.map fun started =>
      (started.1.handle {} request).2.2.any fun record =>
        holds "event" "Unhandled exception" record && (record.get? "request_id").isNone) =
      some true := by
    decide +kernel
  obtain ⟨⟨service, records⟩, begun, unidentified⟩ := Option.map_eq_some_iff.mp outcome
  rw [toOption_eq_some_iff] at begun
  refine ⟨service, records, begun, by decide +kernel, ?_⟩
  simpa using unidentified

end TopicAccess.Service
