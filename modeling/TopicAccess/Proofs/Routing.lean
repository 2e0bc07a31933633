import TopicAccess.Service.Exchange

/-!
# Where requests lead

No target leads to two of the paths that a service can have (`Service.eq_of_leadsTo`), so a request
that is made by the method of an endpoint and addressed to its path is handled by this endpoint
(`Service.dispatch_of_asks`). What the client is told follows from what the endpoint comes to.
-/
namespace TopicAccess

/-- The request is made by a method and addressed to a path. -/
def Request.Asks (request : Request) (verb path : String) : Prop :=
  request.verb = verb ∧ request.target.leadsTo path = true

instance (request : Request) (verb path : String) : Decidable (request.Asks verb path) :=
  inferInstanceAs (Decidable (_ ∧ _))

theorem Target.leadsTo_iff (target : Target) (path : String) : target.leadsTo path = true ↔
    target.path = path.toList ∨ target.path = path.toList ++ ['\n'] := by
  simp [leadsTo]

namespace Service

/-! ### Endpoints -/

/-- All paths that a service can have. -/
def knownPaths : List (String × Endpoint) :=
  plainPaths ++ rulePaths ++ pagePaths

theorem paths_subset_knownPaths (service : Service) : service.paths ⊆ knownPaths := by
  intro entry member
  simp only [paths, knownPaths, List.mem_append] at member ⊢
  rcases member with (plain | rules) | pages
  · exact .inl (.inl plain)
  · split at rules
    · exact .inl (.inr rules)
    · cases rules
  · split at pages
    · exact .inr pages
    · cases pages

/-- A line feed at its end does not make one path of another. -/
theorem knownPaths_apart : ∀ first ∈ knownPaths, ∀ second ∈ knownPaths,
    (first.1.toList = second.1.toList → first = second) ∧
      first.1.toList ≠ second.1.toList ++ ['\n'] := by
  decide +kernel

/-- No target leads to two paths. -/
theorem eq_of_leadsTo {target : Target} {first second : String × Endpoint}
    (known : first ∈ knownPaths) (leads : target.leadsTo first.1 = true)
    (known' : second ∈ knownPaths) (leads' : target.leadsTo second.1 = true) :
    first = second := by
  obtain ⟨same, apart⟩ := knownPaths_apart first known second known'
  obtain ⟨_, apart'⟩ := knownPaths_apart second known' first known
  rw [Target.leadsTo_iff] at leads leads'
  -- No known path ends in a line feed, so the target is the path of both entries, or of neither.
  rcases leads with plain | ended <;> rcases leads' with plain' | ended'
  · exact same (plain.symm.trans plain')
  · exact absurd (plain.symm.trans ended') apart
  · exact absurd (plain'.symm.trans ended) apart'
  · exact same (List.append_cancel_right (ended.symm.trans ended'))

theorem endpointAt?_eq_some_iff (service : Service) (target : Target) (endpoint : Endpoint) :
    service.endpointAt? target = some endpoint ↔
      ∃ path, (path, endpoint) ∈ service.paths ∧ target.leadsTo path = true := by
  simp only [endpointAt?, Option.map_eq_some_iff]
  constructor
  · rintro ⟨⟨path, _⟩, found, rfl⟩
    exact ⟨path, List.mem_of_find?_eq_some found, by simpa using List.find?_some found⟩
  · rintro ⟨path, member, leads⟩
    cases found : service.paths.find? fun entry => target.leadsTo entry.1 with
    | none => simpa [leads] using List.find?_eq_none.mp found (path, endpoint) member
    -- The entry found first need not be the given one, but no other leads there.
    | some entry =>
      have leads' : target.leadsTo entry.1 = true := by simpa using List.find?_some found
      have same := eq_of_leadsTo (paths_subset_knownPaths service member) leads
        (paths_subset_knownPaths service (List.mem_of_find?_eq_some found)) leads'
      exact ⟨entry, rfl, by rw [← same]⟩

section Dispatch

variable {service : Service} {request : Request} {verb path : String}

/-- A request for an endpoint is handled by it. -/
theorem dispatch_of_asks (files : FileTree) (context : Log.Context) (endpoint : Endpoint)
    (member : (path, endpoint) ∈ service.paths) (method : endpoint.methods.contains verb = true)
    (asks : request.Asks verb path) :
    service.dispatch files context request = service.run files context request endpoint := by
  have found := (service.endpointAt?_eq_some_iff request.target endpoint).mpr
    ⟨path, member, asks.2⟩
  rw [← asks.1] at method
  simp only [dispatch, found, method, if_true]

/-- A request is handled by an endpoint that it asks for, or it changes nothing. -/
theorem dispatch_cases (files : FileTree) (context : Log.Context) (request : Request)
    (service : Service) :
    (∃ path endpoint, (path, endpoint) ∈ service.paths ∧
      endpoint.methods.contains request.verb = true ∧ request.target.leadsTo path = true ∧
      service.dispatch files context request = service.run files context request endpoint) ∨
    (service.dispatch files context request).service = service := by
  unfold dispatch
  split
  · exact .inr rfl
  next endpoint found =>
    obtain ⟨path, member, leads⟩ := (service.endpointAt?_eq_some_iff _ _).mp found
    split
    next method => exact .inl ⟨path, endpoint, member, method, leads, rfl⟩
    · exact .inr rfl

end Dispatch

/-! ### Answers -/

theorem sent_of_verb {request : Request} (bodied : request.verb ≠ "HEAD") (response : Response) :
    response.sent request = response := by
  simp [Response.sent, bodied]

section Response

variable {files : FileTree} {request : Request} {service : Service}
  (bodied : request.verb ≠ "HEAD")

include bodied

theorem response_of_answered {response : Response}
    (answered : (service.dispatch files (contextOf request) request).outcome = .answered response) :
    (service.handle files request).2.1 = response := by
  simp [handle, answered, conclude, sent_of_verb bodied]

theorem response_of_refused {problem : Problem}
    (refused : (service.dispatch files (contextOf request) request).outcome = .refused problem) :
    (service.handle files request).2.1 = ⟨400, .json problem.response⟩ := by
  simp [handle, refused, conclude, sent_of_verb bodied]

theorem response_of_failed {message : String}
    (failed : (service.dispatch files (contextOf request) request).outcome = .failed message) :
    (service.handle files request).2.1 = failureResponse := by
  simp [handle, failed, sent_of_verb bodied]

end Response

end Service
end TopicAccess
