import TopicAccess.Proofs.Routing
import TopicAccess.Service.Session

/-!
# What the steps of a session do to rules

Of all steps only two have to do with rules: a permission check whose body is accepted, and a reload
of a configured file. What each of them changes is said once (`Service.becomes_handle`), and
all that is claimed of whole runs follows from it.
-/
namespace TopicAccess

/-- Whether an authorizer allows what a check asks for. -/
def Authorizer.allows (authorizer : Authorizer) (check : CheckRequest) : Bool :=
  (authorizer.decision Topic.covers check.operation check.topic (.ofUser check.user)).allowed

namespace Service

/-- What a service holds of rules, and what it has measured of them. -/
structure Standing where
  authorizer : Authorizer
  checks : Tally (String × Bool)
  rulesLoaded : Option (Int × Int)
  parseErrors : Nat

def standing (service : Service) : Standing where
  authorizer := service.authorizer
  checks := service.metrics.checks
  rulesLoaded := service.metrics.rulesLoaded
  parseErrors := service.metrics.parseErrors

namespace Standing

/-- A check is counted under its operation and the decision. -/
def checked (standing : Standing) (check : CheckRequest) : Standing :=
  { standing with
    checks := standing.checks.bump (check.operation.name, standing.authorizer.allows check) }

/-- A load puts another authorizer in force and measures the rules of this one. What was reported
on the way is added to what had been reported before. -/
def loaded (standing : Standing) (selection : Authorizer.Selection) : Standing :=
  let store := selection.authorizer.store
  { standing with
    authorizer := selection.authorizer
    rulesLoaded := some (store.anonymous.length, store.userRuleCount)
    parseErrors := standing.parseErrors + selection.reported.length }

end Standing

/-- What a service is left with: its settings stay as they are. -/
structure LeftWith (service : Service) (standing : Standing) (after : Service) : Prop where
  standing : after.standing = standing
  settings : after.settings = service.settings
  servesRules : after.servesRules = service.servesRules

theorem LeftWith.refl (service : Service) : LeftWith service service.standing service :=
  ⟨rfl, rfl, rfl⟩

/-! ### Loads -/

/-- The choice that a load would make now. -/
def choose (files : FileTree) (service : Service) :
    Except FileTree.PathFault Authorizer.Selection :=
  Authorizer.select service.settings.aclStrict files service.path?

theorem foldl_recordParseError {Report : Type} (reports : List Report) (metrics : Metrics) :
    reports.foldl (fun metrics _ => metrics.recordParseError) metrics =
      { metrics with parseErrors := metrics.parseErrors + reports.length } := by
  induction reports generalizing metrics with
  | nil => rfl
  | cons report rest ih =>
    rw [List.foldl_cons, ih]
    simp only [Metrics.recordParseError, List.length_cons]
    congr 1
    omega

theorem measureLoad_eq (metrics : Metrics) (selection : Authorizer.Selection) :
    measureLoad metrics selection = { metrics with
      rulesLoaded := some (selection.authorizer.store.anonymous.length,
        selection.authorizer.store.userRuleCount)
      parseErrors := metrics.parseErrors + selection.reported.length } := by
  simp only [measureLoad, foldl_recordParseError, Metrics.recordRulesLoaded]

section Load

variable {files : FileTree} {service : Service}

theorem load_of_choose {selection : Authorizer.Selection}
    (chosen : service.choose files = .ok selection) : ∃ after events,
      service.load files = .ok (after, events) ∧ after.authorizer = selection.authorizer ∧
      LeftWith service (service.standing.loaded selection) after := by
  rw [choose] at chosen
  let after : Service := { service with
    authorizer := selection.authorizer
    loads := service.loads + 1
    metrics := measureLoad service.metrics selection }
  have loads : service.load files = .ok (after,
      selection.notices.map (·.event) ++ [service.readyEvent selection.authorizer]) := by
    simp only [load, chosen, after]
  refine ⟨after, _, loads, rfl, ?_, rfl, rfl⟩
  simp only [Service.standing, Standing.loaded, measureLoad_eq, after]

theorem load_of_choose_fault {fault : FileTree.PathFault}
    (failed : service.choose files = .error fault) : service.load files = .error fault := by
  rw [choose] at failed
  simp only [load, failed]

end Load

/-! ### Requests -/

/-- The check that a request puts, if its body is accepted. -/
def check? (request : Request) : Option CheckRequest :=
  if request.Asks "POST" "/acl/check" then
    (CheckRequest.ofBody request.limits request.hasJson request.body).toOption
  else none

/-- What a request makes the service choose anew: a reload is a load by the settings and the files
of the moment, provided that a file is configured. -/
def choice? (files : FileTree) (request : Request) (service : Service) :
    Option Authorizer.Selection :=
  if request.Asks "POST" "/acl/reload" then
    service.ruleFile?.bind fun _ => (service.choose files).toOption
  else none

/-- How a standing is changed by a check, by a choice, or by neither. -/
inductive Becomes (standing : Standing) :
    Option CheckRequest → Option Authorizer.Selection → Standing → Prop
  | checked (check : CheckRequest) : Becomes standing (some check) none (standing.checked check)
  | loaded (selection : Authorizer.Selection) :
      Becomes standing none (some selection) (standing.loaded selection)
  | kept : Becomes standing none none standing

theorem Becomes.authorizer_eq {standing after : Standing} {check : Option CheckRequest}
    {choice : Option Authorizer.Selection} (becomes : Becomes standing check choice after) :
    after.authorizer = (choice.map (·.authorizer)).getD standing.authorizer := by
  cases becomes <;> rfl

theorem Becomes.rulesLoaded_eq {standing after : Standing} {check : Option CheckRequest}
    (becomes : Becomes standing check none after) : after.rulesLoaded = standing.rulesLoaded := by
  cases becomes <;> rfl

section Endpoints

variable (files : FileTree) (context : Log.Context) (request : Request) (service : Service)

theorem becomes_checkPermission : ∃ standing,
    Becomes service.standing
      (CheckRequest.ofBody request.limits request.hasJson request.body).toOption none standing ∧
    LeftWith service standing (service.checkPermission context request).service := by
  unfold checkPermission
  split
  next failure body =>
    rw [body]
    exact ⟨_, .kept, .refl service⟩
  next check body =>
    rw [body]
    exact ⟨_, .checked check, rfl, rfl, rfl⟩

theorem becomes_reload : ∃ standing,
    Becomes service.standing none
      (service.ruleFile?.bind fun _ => (service.choose files).toOption) standing ∧
      LeftWith service standing (service.reload files context).service := by
  unfold reload
  cases service.ruleFile? with
  | none => exact ⟨_, .kept, .refl service⟩
  | some name =>
    cases chosen : service.choose files with
    | error fault =>
      simp only [load_of_choose_fault chosen]
      exact ⟨_, .kept, .refl service⟩
    | ok selection =>
      obtain ⟨after, events, loads, _, left⟩ := load_of_choose chosen
      simp only [loads]
      exact ⟨_, .loaded selection, left⟩

/-- No other endpoint has to do with rules. -/
theorem leftWith_run {endpoint : Endpoint} (noCheck : endpoint ≠ .check)
    (noReload : endpoint ≠ .reload) :
    LeftWith service service.standing (service.run files context request endpoint).service := by
  cases endpoint with
  | check => exact absurd rfl noCheck
  | reload => exact absurd rfl noReload
  | health =>
    simp only [run, checkHealth]
    split <;> exact ⟨rfl, rfl, rfl⟩
  | root | metrics | summary | interface | page => exact .refl service

end Endpoints

/-- What follows the endpoint has to do with other measures only. -/
theorem LeftWith.handle {files : FileTree} {request : Request} {service : Service}
    {standing : Standing}
    (left : LeftWith service standing
      (service.dispatch files (contextOf request) request).service) :
    LeftWith service standing (service.handle files request).1 := by
  obtain ⟨stands, settings, serves⟩ := left
  -- Requests and errors are counted apart from all that belongs to a standing.
  cases came : (service.dispatch files (contextOf request) request).outcome <;>
    simp only [Service.handle, came, conclude] <;> exact ⟨stands, settings, serves⟩

theorem not_asks_reload_of_asks_check {request : Request}
    (asks : request.Asks "POST" "/acl/check") : ¬request.Asks "POST" "/acl/reload" := by
  intro asks'
  have known : ("/acl/check", Endpoint.check) ∈ knownPaths := by decide
  have known' : ("/acl/reload", Endpoint.reload) ∈ knownPaths := by decide
  simpa using eq_of_leadsTo known asks.2 known' asks'.2

theorem path_of_mem_knownPaths : ∀ entry ∈ knownPaths,
    (entry.2 = .check → entry.1 = "/acl/check") ∧
      (entry.2 = .reload → entry.1 = "/acl/reload") := by
  decide

/-- A request that asks for neither a check nor a reload has nothing to do with rules. -/
theorem leftWith_dispatch (files : FileTree) (context : Log.Context) {request : Request}
    (service : Service) (noCheck : ¬request.Asks "POST" "/acl/check")
    (noReload : ¬request.Asks "POST" "/acl/reload") :
    LeftWith service service.standing (service.dispatch files context request).service := by
  rcases dispatch_cases files context request service with
    ⟨path, endpoint, member, method, leads, dispatched⟩ | same
  · obtain ⟨forCheck, forReload⟩ :=
      path_of_mem_knownPaths _ (service.paths_subset_knownPaths member)
    rw [dispatched]
    -- The two endpoints that have to do with rules are reached in one way each.
    apply leftWith_run
    · rintro rfl
      cases forCheck rfl
      exact noCheck ⟨by simpa [Endpoint.methods] using method, leads⟩
    · rintro rfl
      cases forReload rfl
      exact noReload ⟨by simpa [Endpoint.methods] using method, leads⟩
  · rw [same]
    exact .refl service

section Request

variable {service : Service} (serves : service.servesRules = true)

include serves

theorem mem_paths_of_serves {entry : String × Endpoint} (member : entry ∈ rulePaths) :
    entry ∈ service.paths := by
  simp [paths, serves, member]

theorem dispatch_check (files : FileTree) (context : Log.Context) {request : Request}
    (asks : request.Asks "POST" "/acl/check") :
    service.dispatch files context request = service.checkPermission context request :=
  dispatch_of_asks files context .check (mem_paths_of_serves serves (by decide)) (by decide) asks

theorem dispatch_reload (files : FileTree) (context : Log.Context) {request : Request}
    (asks : request.Asks "POST" "/acl/reload") :
    service.dispatch files context request = service.reload files context :=
  dispatch_of_asks files context .reload (mem_paths_of_serves serves (by decide)) (by decide) asks

/-- What a request does to rules. -/
theorem becomes_handle (files : FileTree) (request : Request) : ∃ standing,
    Becomes service.standing (check? request) (choice? files request service) standing ∧
      LeftWith service standing (service.handle files request).1 := by
  by_cases checks : request.Asks "POST" "/acl/check"
  · obtain ⟨standing, becomes, left⟩ :=
      becomes_checkPermission (contextOf request) request service
    rw [← dispatch_check serves files _ checks] at left
    refine ⟨standing, ?_, left.handle⟩
    rwa [check?, if_pos checks, choice?, if_neg (not_asks_reload_of_asks_check checks)]
  rw [check?, if_neg checks]
  by_cases reloads : request.Asks "POST" "/acl/reload"
  · obtain ⟨standing, becomes, left⟩ := becomes_reload files (contextOf request) service
    rw [← dispatch_reload serves files _ reloads] at left
    refine ⟨standing, ?_, left.handle⟩
    rwa [choice?, if_pos reloads]
  · refine ⟨_, ?_, (leftWith_dispatch files _ service checks reloads).handle⟩
    rw [choice?, if_neg reloads]
    exact .kept

end Request

end Service
end TopicAccess
