import TopicAccess.Proofs.Standing

/-!
# What clients are told of rules

The answers of the endpoints that have to do with rules, and of the export of metrics, as functions
of the service before the request. A check is answered with 200 exactly when its body is accepted
(`Service.status_check_iff`); a reload is answered with 400 without a configured file, and with 200
when it comes to a choice.
-/
namespace TopicAccess

theorem Request.Asks.verb_ne_head {request : Request} {verb path : String}
    (asks : request.Asks verb path) (bodied : verb ≠ "HEAD") : request.verb ≠ "HEAD" := by
  rw [asks.1]
  exact bodied

namespace Service

/-- What a check is answered when an authorizer is in force. -/
def checkAnswer (authorizer : Authorizer) (check : CheckRequest) : Json :=
  .obj [("allowed", .bool (authorizer.allows check)), ("operation", .str check.operation.name),
    ("mode", .str authorizer.mode)]

/-- What a reload is answered that has put an authorizer in force. -/
def reloadAnswer (authorizer : Authorizer) : Json :=
  .obj [("mode", .str authorizer.mode), ("global_rules", .nat authorizer.store.anonymous.length),
    ("user_rules", .nat authorizer.store.userRuleCount)]

/-- A body that is refused is complained about with another status than 200, or it makes the service
fail. -/
theorem refuseBody_cases (failure : BodyFailure) :
    (∃ message, refuseBody failure = .failed message) ∨
      ∃ status value, refuseBody failure = .answered ⟨status, .json value⟩ ∧ status ≠ 200 := by
  cases failure with
  | unreadable => exact .inr ⟨400, _, rfl, by decide⟩
  | faulty faults =>
    simp only [refuseBody]
    split
    · exact .inl ⟨_, rfl⟩
    · split
      · exact .inl ⟨_, rfl⟩
      · exact .inr ⟨422, _, rfl, by decide⟩

theorem response_metrics {request : Request} (files : FileTree) (service : Service)
    (asks : request.Asks "GET" "/metrics") : (service.handle files request).2.1 =
      ⟨200, .samples service.metrics.samples⟩ := by
  have member : ("/metrics", Endpoint.metrics) ∈ service.paths := by simp [paths, plainPaths]
  apply response_of_answered (asks.verb_ne_head (by decide))
  rw [dispatch_of_asks files _ .metrics member (by decide) asks, run]

section Rules

variable {request : Request} {service : Service} (serves : service.servesRules = true)
  (files : FileTree)

include serves

theorem response_summary (asks : request.Asks "GET" "/acl/summary") :
    (service.handle files request).2.1 = ⟨200, .json (summary service.authorizer)⟩ := by
  have member : ("/acl/summary", Endpoint.summary) ∈ service.paths :=
    mem_paths_of_serves serves (by decide)
  apply response_of_answered (asks.verb_ne_head (by decide))
  rw [dispatch_of_asks files _ .summary member (by decide) asks, run, answer]

section Check

variable (asks : request.Asks "POST" "/acl/check")

include asks

theorem response_check {check : CheckRequest}
    (accepted : CheckRequest.ofBody request.limits request.hasJson request.body = .ok check) :
    (service.handle files request).2.1 = ⟨200, .json (checkAnswer service.authorizer check)⟩ := by
  apply response_of_answered (asks.verb_ne_head (by decide))
  rw [dispatch_check serves files _ asks]
  simp only [checkPermission, accepted, answer, checkAnswer, Authorizer.allows]

theorem outcome_of_refused {failure : BodyFailure}
    (refused : CheckRequest.ofBody request.limits request.hasJson request.body = .error failure) :
    (service.dispatch files (contextOf request) request).outcome = refuseBody failure := by
  rw [dispatch_check serves files _ asks]
  simp only [checkPermission, refused]

theorem status_of_refused {failure : BodyFailure}
    (refused : CheckRequest.ofBody request.limits request.hasJson request.body = .error failure) :
    (service.handle files request).2.1.status ≠ 200 := by
  have bodied := asks.verb_ne_head (by decide)
  have outcome := outcome_of_refused serves files asks refused
  rcases refuseBody_cases failure with ⟨message, failed⟩ | ⟨status, value, answered, other⟩
  -- A failure inside the service is told with 500.
  · rw [response_of_failed bodied (outcome.trans failed)]
    decide
  · rw [response_of_answered bodied (outcome.trans answered)]
    exact other

/-- A check is answered with 200 exactly when its body is accepted. -/
theorem status_check_iff : (service.handle files request).2.1.status = 200 ↔
    ∃ check, CheckRequest.ofBody request.limits request.hasJson request.body = .ok check := by
  cases body : CheckRequest.ofBody request.limits request.hasJson request.body with
  | error failure => simp [status_of_refused serves files asks body]
  | ok check => simp [response_check serves files asks body]

end Check

section Reload

variable (asks : request.Asks "POST" "/acl/reload")

include asks

theorem response_reload_unconfigured (unset : service.ruleFile? = none) :
    (service.handle files request).2.1 = ⟨400, .json notConfigured.response⟩ := by
  apply response_of_refused (asks.verb_ne_head (by decide))
  rw [dispatch_reload serves files _ asks]
  simp only [reload, unset]

theorem response_reload_fault {name : String} {fault : FileTree.PathFault}
    (configured : service.ruleFile? = some name) (failed : service.choose files = .error fault) :
    (service.handle files request).2.1 = failureResponse := by
  have outcome : (service.dispatch files (contextOf request) request).outcome =
      .failed fault.message := by
    rw [dispatch_reload serves files _ asks]
    simp only [reload, configured, load_of_choose_fault failed]
  exact response_of_failed (asks.verb_ne_head (by decide)) outcome

theorem response_reload {name : String} {selection : Authorizer.Selection}
    (configured : service.ruleFile? = some name) (chosen : service.choose files = .ok selection) :
    (service.handle files request).2.1 = ⟨200, .json (reloadAnswer selection.authorizer)⟩ := by
  obtain ⟨after, events, loads, same, _⟩ := load_of_choose chosen
  apply response_of_answered (asks.verb_ne_head (by decide))
  rw [dispatch_reload serves files _ asks]
  simp only [reload, configured, loads, same, answer, reloadAnswer]

end Reload

end Rules

end Service
end TopicAccess
