import TopicAccess.Proofs.History
import TopicAccess.Proofs.Selection

/-!
# What is in force

Checks and summaries are answered by what the last load has chosen. Between two loads neither a
request nor a change of the files makes a difference, a reload without a configured file is no load,
and a load replaces what was in force as a whole. The main result is
`Service.Session.answers_last_load`.
-/
namespace TopicAccess

namespace RuleFile

theorem exists_load_iff (strict : Bool) (files : FileTree) (name : Text.Loose) :
    (∃ loading, load strict files name = .ok loading) ↔
      (FileTree.Path.ofText name).fault? = none := by
  cases faulty : (FileTree.Path.ofText name).fault? with
  | some fault => simp [load, FileTree.read, faulty]
  | none => cases found : files.lookUp (.ofText name) <;> simp [load, FileTree.read, faulty, found]

/-- A file that cannot be loaded is looked up all the same. -/
theorem exists_problem_of_unloadable {strict : Bool} {files : FileTree} {name : Text.Loose}
    (unloadable : Unloadable strict files name) :
    ∃ loading problem, load strict files name = .ok loading ∧
      loading.outcome = .error problem := by
  cases unloadable with
  | unreadable failed => exact ⟨_, _, by simp only [load, failed]; rfl, rfl⟩
  | malformed found foreign =>
    rename_i bytes
    cases decoded : Text.Utf8.decode bytes with
    | error fault => exact ⟨_, _, by simp only [load, found, loadBytes, decoded]; rfl, rfl⟩
    | ok text => exact absurd ((Text.Utf8.decode_eq_ok_iff _ _).mp decoded) (foreign text)
  | rejected isStrict reads member rejected =>
    obtain ⟨problem, failed⟩ :=
      (RuleText.exists_problem_iff strict _).mpr ⟨isStrict, _, member, rejected⟩
    exact ⟨_, problem, reads.load strict, failed⟩

end RuleFile

namespace Authorizer

theorem exists_select_iff (strict : Bool) (files : FileTree) (path : Option Text.Loose) :
    (∃ selection, select strict files path = .ok selection) ↔
      ∀ name, path = some name → name ≠ [] → (FileTree.Path.ofText name).fault? = none := by
  cases path with
  | none => simp [select]
  | some name =>
    by_cases named : name = []
    · simp [select, named]
    · have loads := RuleFile.exists_load_iff strict files name
      cases loaded : RuleFile.load strict files name <;>
        simpa [select, named, loaded, Except.map] using loads

/-- Whether a path can be looked up does not depend on what is found there. -/
theorem exists_select_of_select {strict : Bool} {files : FileTree} {path : Option Text.Loose}
    {selection : Selection} (selected : select strict files path = .ok selection)
    (strict' : Bool) (files' : FileTree) :
    ∃ selection', select strict' files' path = .ok selection' :=
  (exists_select_iff strict' files' path).mpr
    ((exists_select_iff strict files path).mp ⟨_, selected⟩)

theorem select_of_unloadable {strict : Bool} {files : FileTree} {name : Text.Loose}
    (named : name ≠ []) (unloadable : RuleFile.Unloadable strict files name) :
    ∃ selection, select strict files (some name) = .ok selection ∧
      selection.authorizer = .denyAll := by
  obtain ⟨loading, problem, loaded, failed⟩ := RuleFile.exists_problem_of_unloadable unloadable
  refine ⟨ofLoading name loading, by simp [select, named, loaded, Except.map], ?_⟩
  simp [ofLoading, failed]

end Authorizer

namespace Service

/-- What a client is told of rules when an authorizer is in force. -/
structure Answered (authorizer : Authorizer) (request : Request) (response : Response) : Prop where
  check : request.Asks "POST" "/acl/check" →
    ∀ check, CheckRequest.ofBody request.limits request.hasJson request.body = .ok check →
      response = ⟨200, .json (checkAnswer authorizer check)⟩
  accepted : request.Asks "POST" "/acl/check" → response.status = 200 →
    ∃ check, CheckRequest.ofBody request.limits request.hasJson request.body = .ok check
  summary : request.Asks "GET" "/acl/summary" → response = ⟨200, .json (summary authorizer)⟩

theorem answered_handle {service : Service} (serves : service.servesRules = true)
    (files : FileTree) (request : Request) :
    Answered service.authorizer request (service.handle files request).2.1 where
  check asks _ accepted := response_check serves files asks accepted
  accepted asks := (status_check_iff serves files asks).mp
  summary asks := response_summary serves files asks

/-- Only the authorizer in force makes a difference to the answers to checks and summaries. -/
theorem response_congr {service other : Service} (serves : service.servesRules = true)
    (serves' : other.servesRules = true) (same : service.authorizer = other.authorizer)
    (files files' : FileTree) {request : Request}
    (asks : request.Asks "POST" "/acl/check" ∨ request.Asks "GET" "/acl/summary") :
    (service.handle files request).2.1 = (other.handle files' request).2.1 := by
  rcases asks with checks | sums
  · cases body : CheckRequest.ofBody request.limits request.hasJson request.body with
    | ok check =>
      rw [response_check serves files checks body, response_check serves' files' checks body, same]
    | error failure =>
      have bodied := checks.verb_ne_head (by decide)
      have refused := outcome_of_refused serves files checks body
      have refused' := outcome_of_refused serves' files' checks body
      rcases refuseBody_cases failure with ⟨message, failed⟩ | ⟨status, value, answered, _⟩
      · rw [response_of_failed bodied (refused.trans failed),
          response_of_failed bodied (refused'.trans failed)]
      · rw [response_of_answered bodied (refused.trans answered),
          response_of_answered bodied (refused'.trans answered)]
  · rw [response_summary serves files sums, response_summary serves' files' sums, same]

theorem ruleFile?_eq_none_iff (service : Service) : service.ruleFile? = none ↔
    service.settings.aclFile = none ∨ service.settings.aclFile = some "" := by
  unfold ruleFile?
  split <;> simp_all

theorem ruleFile?_eq_some_iff (service : Service) (name : String) :
    service.ruleFile? = some name ↔ service.settings.aclFile = some name ∧ name ≠ "" := by
  unfold ruleFile?
  split
  next path set =>
    by_cases empty : path = ""
    · simp only [empty, if_true, set, Option.some.injEq, reduceCtorEq, false_iff, not_and, not_not]
      exact Eq.symm
    · simp only [empty, if_false, set, Option.some.injEq, iff_self_and]
      rintro rfl
      exact empty
  next unset => simp [unset]

namespace Session

/-! ### Steps and what is in force -/

theorem authorizer_step {session : Session} (serves : session.service.servesRules = true)
    (step : Step) : (session.step step).1.service.authorizer =
      ((session.choice? step).map (·.authorizer)).getD session.service.authorizer := by
  by_cases asks : ∃ request, step = .request request
  · obtain ⟨request, rfl⟩ := asks
    obtain ⟨standing, becomes, left⟩ := becomes_handle serves session.files request
    exact (congrArg Standing.authorizer left.standing).trans becomes.authorizer_eq
  · have idle := not_exists.mp asks
    rw [choice?_of_idle session idle]
    exact congrArg Standing.authorizer (standing_step idle).1

/-- Two sessions agree in the files, in the settings and in what is in force. -/
structure Alike (session other : Session) : Prop where
  files : other.files = session.files
  settings : other.service.settings = session.service.settings
  authorizer : other.service.authorizer = session.service.authorizer

section Alike

variable {session other : Session} (alike : Alike session other)

include alike

theorem Alike.choice?_eq (step : Step) : other.choice? step = session.choice? step := by
  cases step with
  | request request =>
    simp only [Session.choice?, Service.choice?, ruleFile?, choose, path?, alike.files,
      alike.settings]
  | _ => rfl

variable (serves : session.service.servesRules = true)
  (serves' : other.service.servesRules = true)

include serves serves'

theorem Alike.step (step : Step) : Alike (session.step step).1 (other.step step).1 := by
  -- Only a choice changes what is in force, and both sessions make the same choice.
  have inForce : (other.step step).1.service.authorizer =
      (session.step step).1.service.authorizer := by
    rw [authorizer_step serves, authorizer_step serves', alike.choice?_eq, alike.authorizer]
  cases step with
  | request request =>
    obtain ⟨_, _, left⟩ := becomes_handle serves session.files request
    obtain ⟨_, _, left'⟩ := becomes_handle serves' other.files request
    exact ⟨alike.files, left'.settings.trans (alike.settings.trans left.settings.symm), inForce⟩
  | write path bytes =>
    exact ⟨congrArg (·.writeFile path bytes) alike.files, alike.settings, inForce⟩
  | remove path => exact ⟨congrArg (·.erase path) alike.files, alike.settings, inForce⟩
  | setRuleFile path =>
    exact ⟨alike.files, congrArg ({ · with aclFile := path }) alike.settings, inForce⟩
  | setStrict strict =>
    exact ⟨alike.files, congrArg ({ · with aclStrict := strict }) alike.settings, inForce⟩
  | failDependencies message => exact ⟨alike.files, alike.settings, inForce⟩
  | keep => exact ⟨alike.files, alike.settings, inForce⟩
  | askKept operation topic user => simpa only [step_askKept] using alike

theorem Alike.run (steps : List Step) : Alike (session.run steps).1 (other.run steps).1 := by
  induction steps generalizing session other with
  | nil => exact alike
  | cons step rest ih =>
    exact ih (alike.step serves serves' step) (servesRules_step serves step)
      (servesRules_step serves' step)

end Alike

/-! ### Reloads -/

/-- What a reload comes to. Without a configured file it is refused, and neither the number of rules
nor any later answer to a check or a summary is another than without it. With a configured file the
authorizer that is chosen for this file at the moment is put in force. If the file can no longer be
loaded, that is the one that denies everything. -/
structure Reloaded (here next : Session) (response : Response) : Prop where
  refused : here.service.settings.aclFile = none ∨ here.service.settings.aclFile = some "" →
    response = ⟨400, .json (.obj [("code", .str "ACL_NOT_CONFIGURED"),
      ("message", .str "No ACL file configured"), ("details", .obj [])])⟩ ∧
    next.service.metrics.rulesLoaded = here.service.metrics.rulesLoaded ∧
    ∀ later request, request.Asks "POST" "/acl/check" ∨ request.Asks "GET" "/acl/summary" →
      ((next.run later).1.step (.request request)).2.1 =
        ((here.run later).1.step (.request request)).2.1
  loaded : ∀ name selection, here.service.settings.aclFile = some name → name ≠ "" →
    Authorizer.select here.service.settings.aclStrict here.files (some name) = .ok selection →
    response = ⟨200, .json (reloadAnswer selection.authorizer)⟩ ∧
    next.service.authorizer = selection.authorizer
  denied : ∀ name, here.service.settings.aclFile = some name → name ≠ "" →
    RuleFile.Unloadable here.service.settings.aclStrict here.files name →
    response = ⟨200, .json (.obj [("mode", .str "deny_all"), ("global_rules", .nat 0),
      ("user_rules", .nat 0)])⟩ ∧
    next.service.authorizer = .denyAll

section Reload

variable {session : Session} (serves : session.service.servesRules = true) {request : Request}
  (asks : request.Asks "POST" "/acl/reload")

include serves asks

theorem reloaded_of_select {name : String} {selection : Authorizer.Selection}
    (set : session.service.settings.aclFile = some name) (named : name ≠ "")
    (selected : Authorizer.select session.service.settings.aclStrict session.files (some name) =
      .ok selection) :
    (session.service.handle session.files request).2.1 =
      ⟨200, .json (reloadAnswer selection.authorizer)⟩ ∧
    (session.step (.request request)).1.service.authorizer = selection.authorizer := by
  have configured := (ruleFile?_eq_some_iff session.service name).mpr ⟨set, named⟩
  have chosen : session.service.choose session.files = .ok selection := by
    rw [choose, path?, set]
    exact selected
  refine ⟨response_reload serves session.files asks configured chosen, ?_⟩
  have choice : session.choice? (.request request) = some selection := by
    simp [Session.choice?, Service.choice?, asks, configured, chosen, Except.toOption]
  rw [authorizer_step serves, choice]
  rfl

theorem reloaded_step : Reloaded session (session.step (.request request)).1
    (session.service.handle session.files request).2.1 where
  refused unset := by
    have unset := (ruleFile?_eq_none_iff session.service).mpr unset
    have idle : Service.choice? session.files request session.service = none := by
      simp [Service.choice?, unset]
    obtain ⟨standing, becomes, left⟩ := becomes_handle serves session.files request
    rw [idle] at becomes
    -- What follows goes on from sessions that differ in other measures only.
    have alike : Alike session (session.step (.request request)).1 :=
      ⟨rfl, left.settings,
        (congrArg Standing.authorizer left.standing).trans becomes.authorizer_eq⟩
    have serves' := servesRules_step serves (.request request)
    refine ⟨response_reload_unconfigured serves session.files asks unset,
      (congrArg Standing.rulesLoaded left.standing).trans becomes.rulesLoaded_eq, ?_⟩
    intro later request' asks'
    have same := (alike.run serves serves' later).authorizer
    exact congrArg Reply.response (response_congr (servesRules_run serves' later)
      (servesRules_run serves later) same _ _ asks')
  loaded name selection set named selected := reloaded_of_select serves asks set named selected
  denied name set named unloadable := by
    obtain ⟨selection, selected, denies⟩ :=
      Authorizer.select_of_unloadable (by simpa using named) unloadable
    have loaded := reloaded_of_select serves asks set named selected
    rw [denies] at loaded
    exact loaded

end Reload

/-! ### What is in force -/

theorem settings_step {session : Session} (serves : session.service.servesRules = true)
    {step : Step} (fixed : ∀ path, step ≠ .setRuleFile path) :
    (session.step step).1.service.settings.aclFile = session.service.settings.aclFile := by
  cases step with
  | request request =>
    obtain ⟨_, _, left⟩ := becomes_handle serves session.files request
    exact congrArg Settings.aclFile left.settings
  | setRuleFile path => exact absurd rfl (fixed path)
  | askKept operation topic user => rw [step_askKept]
  | _ => rfl

/-- Where no step sets another file, the file is that of the start. -/
theorem settings_run {session : Session} (serves : session.service.servesRules = true)
    {steps : List Step} (fixed : ∀ path, .setRuleFile path ∉ steps) :
    (session.run steps).1.service.settings.aclFile = session.service.settings.aclFile := by
  induction steps generalizing session with
  | nil => rfl
  | cons step rest ih =>
    simp only [List.mem_cons, not_or] at fixed
    have here := settings_step serves fun path => Ne.symm (fixed path).1
    exact (ih (servesRules_step serves step) fun path => (fixed path).2).trans here

end Session

end Service
end TopicAccess
