import TopicAccess.Proofs.Canonical
import TopicAccess.Proofs.History

/-!
# What the measures tell

The samples of an export stand for what has been chosen and decided so far:
`Metrics.valuesOf_checks` and its neighbours find them among all samples, and
`Service.Session.told_decisions` and `Service.Session.told_choices` read the same history off the
replies that clients were given. The main result, `Service.Session.export_consistent`, has measures,
summaries and answers agree.
-/
namespace TopicAccess

/-! ### Samples -/

/-- The values of the samples with a name and labels. -/
def valuesOf (samples : List Sample) (name : String) (labels : List (String × String)) :
    List SampleValue :=
  (samples.filter fun sample => sample.name = name ∧ sample.labels = labels).map (·.value)

theorem valuesOf_append (samples more : List Sample) (name : String)
    (labels : List (String × String)) :
    valuesOf (samples ++ more) name labels =
      valuesOf samples name labels ++ valuesOf more name labels := by
  simp [valuesOf]

theorem valuesOf_eq_nil {samples : List Sample} {name : String}
    (others : ∀ sample ∈ samples, sample.name ≠ name) (labels : List (String × String)) :
    valuesOf samples name labels = [] := by
  rw [valuesOf, List.filter_eq_nil_iff.mpr]
  · rfl
  · intro sample member
    simp [others sample member]

namespace Metrics

def ruleNames : List String :=
  ["acl_checks_total", "acl_rules_loaded", "acl_parse_errors_total"]

def checkSample (entry : (String × Bool) × Nat) : Sample where
  name := "acl_checks_total"
  labels := [("decision", decisionLabel entry.1.2), ("operation", entry.1.1)]
  value := .count entry.2

def parseErrorsSample (metrics : Metrics) : Sample where
  name := "acl_parse_errors_total"
  labels := []
  value := .count metrics.parseErrors

theorem name_of_mem_histogramSamples {endpoint method : String} {histogram : Histogram}
    {sample : Sample} (member : sample ∈ histogramSamples endpoint method histogram) :
    sample.name ∉ ruleNames := by
  rcases List.mem_append.mp member with bucket | rest
  · obtain ⟨_, _, rfl⟩ := List.mem_map.mp bucket
    simp [ruleNames]
  · simp only [List.mem_cons, List.not_mem_nil, or_false] at rest
    rcases rest with rfl | rfl <;> simp [ruleNames]

/-- The samples that have to do with rules stand behind the others, which have other names. -/
theorem samples_eq (metrics : Metrics) : ∃ plain, metrics.samples =
    plain ++ metrics.checks.map checkSample ++ rulesLoadedSamples metrics.rulesLoaded ++
      [metrics.parseErrorsSample] ∧
    ∀ sample ∈ plain, sample.name ∉ ruleNames := by
  refine ⟨_, rfl, ?_⟩
  intro sample member
  simp only [List.mem_append, List.mem_singleton, List.mem_map, List.mem_flatMap] at member
  rcases member with (((rfl | ⟨_, _, rfl⟩) | ⟨_, _, histogram⟩) | ⟨_, _, rfl⟩) | ⟨_, _, rfl⟩
  · simp [ruleNames]
  · simp [ruleNames]
  · exact name_of_mem_histogramSamples histogram
  · simp [ruleNames]
  · simp [ruleNames]

section Values

variable (metrics : Metrics)

/-- A name that has to do with rules is not found among the other samples. -/
theorem valuesOf_samples {name : String} (known : name ∈ ruleNames)
    (labels : List (String × String)) : valuesOf metrics.samples name labels =
      valuesOf (metrics.checks.map checkSample) name labels ++
        valuesOf (rulesLoadedSamples metrics.rulesLoaded) name labels ++
        valuesOf [metrics.parseErrorsSample] name labels := by
  obtain ⟨plain, split, others⟩ := metrics.samples_eq
  have absent : valuesOf plain name labels = [] :=
    valuesOf_eq_nil (fun sample member same => others sample member (same ▸ known)) labels
  simp only [split, valuesOf_append, absent, List.nil_append]

theorem valuesOf_checkSamples {name : String} (other : name ≠ "acl_checks_total")
    (labels : List (String × String)) :
    valuesOf (metrics.checks.map checkSample) name labels = [] := by
  apply valuesOf_eq_nil
  intro sample member
  obtain ⟨_, _, rfl⟩ := List.mem_map.mp member
  exact Ne.symm other

theorem valuesOf_rulesLoadedSamples {name : String} (other : name ≠ "acl_rules_loaded")
    (labels : List (String × String)) :
    valuesOf (rulesLoadedSamples metrics.rulesLoaded) name labels = [] := by
  apply valuesOf_eq_nil
  intro sample member
  cases loaded : metrics.rulesLoaded with
  | none => simp [rulesLoadedSamples, loaded] at member
  | some counts =>
    simp only [rulesLoadedSamples, loaded, List.mem_cons, List.not_mem_nil, or_false] at member
    rcases member with rfl | rfl <;> exact Ne.symm other

theorem labels_checkSample_iff (entry : (String × Bool) × Nat) (operation : String)
    (allowed : Bool) : (checkSample entry).labels =
      [("decision", decisionLabel allowed), ("operation", operation)] ↔
      entry.1 = (operation, allowed) := by
  obtain ⟨⟨held, decided⟩, n⟩ := entry
  cases decided <;> cases allowed <;> simp [checkSample, decisionLabel]

theorem valuesOf_checks (operation : String) (allowed : Bool) :
    valuesOf metrics.samples "acl_checks_total"
      [("decision", decisionLabel allowed), ("operation", operation)] =
      (metrics.checks.countsOf (operation, allowed)).map .count := by
  have others : valuesOf [metrics.parseErrorsSample] "acl_checks_total"
      [("decision", decisionLabel allowed), ("operation", operation)] = [] := rfl
  rw [valuesOf_samples metrics (by decide), valuesOf_rulesLoadedSamples metrics (by decide), others,
    List.append_nil, List.append_nil, valuesOf, List.filter_map, List.map_map, Tally.countsOf,
    List.map_map]
  congr 1
  apply List.filter_congr
  intro entry _
  have named : (checkSample entry).name = "acl_checks_total" := rfl
  exact decide_eq_decide.mpr
    ((and_iff_right named).trans (labels_checkSample_iff entry operation allowed))

theorem valuesOf_rulesLoaded {counts : Int × Int} (loaded : metrics.rulesLoaded = some counts) :
    valuesOf metrics.samples "acl_rules_loaded" [("scope", "global")] = [.level counts.1] ∧
    valuesOf metrics.samples "acl_rules_loaded" [("scope", "user")] = [.level counts.2] := by
  rw [valuesOf_samples metrics (by decide), valuesOf_samples metrics (by decide),
    valuesOf_checkSamples metrics (by decide), valuesOf_checkSamples metrics (by decide), loaded]
  exact ⟨rfl, rfl⟩

theorem valuesOf_parseErrors :
    valuesOf metrics.samples "acl_parse_errors_total" [] = [.count metrics.parseErrors] := by
  rw [valuesOf_samples metrics (by decide), valuesOf_checkSamples metrics (by decide),
    valuesOf_rulesLoadedSamples metrics (by decide)]
  rfl

end Values

end Metrics

/-! ### Reports of loads -/

namespace RuleText

theorem length_reported_load (strict : Bool) (lines : List String) :
    (load strict lines).reported.length =
      if strict then min 1 (lines.countP fun line => Rejected line)
      else lines.countP fun line => Rejected line := by
  have fresh : Collector.empty.isSealed = false := rfl
  have lenient : (load false lines).reported = reportsFrom 1 lines :=
    reported_loadFrom 1 fresh lines
  have agrees := loadFrom_agrees 1 fresh lines
  rw [← length_reportsFrom 1, ← lenient]
  -- Strict loading reports the first of what lenient loading reports.
  cases strict with
  | false => rfl
  | true =>
    cases reported : (load false lines).reported with
    | nil => rw [load, (agrees.clean reported).2]; rfl
    | cons first rest => rw [load, (agrees.failed first rest reported).2]; simp

end RuleText

namespace Authorizer

/-- How many rejected lines a load reports: all of a text when loading is lenient, one at most when
it is strict, and none where there is no text to load. -/
structure Reports (strict : Bool) (files : FileTree) (path : Option Text.Loose) (count : Nat) :
    Prop where
  atMostOne : strict = true → count ≤ 1
  ofText : ∀ name text, path = some name → name ≠ [] → RuleFile.Reads files name text → count =
    if strict then min 1 ((RuleFile.linesOf text).countP fun line => RuleText.Rejected line)
    else (RuleFile.linesOf text).countP fun line => RuleText.Rejected line
  silent : (∀ name text, path = some name → name ≠ [] → ¬RuleFile.Reads files name text) →
    count = 0

/-- A choice is made without a file, or from an attempt to load the file that is named. -/
theorem select_cases {strict : Bool} {files : FileTree} {path : Option Text.Loose}
    {selection : Selection} (selected : select strict files path = .ok selection) :
    (selection = ⟨.permitAll, [], [.noFile]⟩ ∧ ∀ name, path = some name → name = []) ∨
    ∃ name loading, path = some name ∧ name ≠ [] ∧
      RuleFile.load strict files name = .ok loading ∧ selection = ofLoading name loading := by
  cases path with
  | none =>
    cases selected
    exact .inl ⟨rfl, by simp⟩
  | some name =>
    by_cases named : name = []
    · rw [select, if_pos named] at selected
      cases selected
      exact .inl ⟨rfl, by simpa using named⟩
    · cases loaded : RuleFile.load strict files name with
      | error fault => simp [select, named, loaded, Except.map] at selected
      | ok loading =>
        simp only [select, named, loaded, if_false, Except.map, Except.ok.injEq] at selected
        exact .inr ⟨name, loading, rfl, named, loaded, selected.symm⟩

theorem reports_select {strict : Bool} {files : FileTree} {path : Option Text.Loose}
    {selection : Selection} (selected : select strict files path = .ok selection) :
    Reports strict files path selection.reported.length := by
  rcases select_cases selected with ⟨rfl, unset⟩ | ⟨name, loading, rfl, named, loaded, rfl⟩
  · constructor
    case atMostOne => simp
    case ofText => intro name _ set named; exact absurd (unset name set) named
    case silent => simp
  have reported : (ofLoading name loading).reported = loading.reported := rfl
  rw [reported]
  rcases RuleFile.load_cases loaded with ⟨text, reads, rfl⟩ | ⟨unread, silent, _⟩
  · rw [RuleText.Loading.reported_noting, RuleText.length_reported_load]
    constructor
    case atMostOne => rintro rfl; exact min_le_left _ _
    -- A file holds one text only, so it is the one that was loaded.
    case ofText => rintro _ other ⟨⟩ _ reads'; rw [reads.unique reads']
    case silent => intro unread; exact absurd reads (unread name text rfl named)
  · rw [silent]
    constructor
    case atMostOne => simp
    case ofText => rintro _ text ⟨⟩ _ reads; exact absurd reads (unread text)
    case silent => simp

/-- No name occurs twice among the rules that are chosen. -/
theorem nodup_userNames_of_select {strict : Bool} {files : FileTree} {path : Option Text.Loose}
    {selection : Selection} (selected : select strict files path = .ok selection) :
    selection.authorizer.store.userNames.Nodup := by
  rcases select_cases selected with ⟨rfl, _⟩ | ⟨name, loading, rfl, _, loaded, rfl⟩
  · exact List.nodup_nil
  -- An authorizer without rules of its own has no names at all.
  cases outcome : loading.outcome with
  | error problem =>
    have denies : (ofLoading name loading).authorizer = .denyAll := by simp [ofLoading, outcome]
    rw [denies]
    exact List.nodup_nil
  | ok store =>
    have chosen : (ofLoading name loading).authorizer =
        if store.isEmpty then .permitAll else .rules store := by
      rw [← authorizer_ofStore name]
      simp [ofLoading, outcome]
    obtain ⟨text, _, gave⟩ := RuleFile.exists_reads_of_load_ok loaded outcome
    have formed := RuleText.wellFormed_of_load_ok gave RuleFile.fits_of_mem_directives
    rw [chosen]
    split
    · exact List.nodup_nil
    · exact formed.distinct

end Authorizer

namespace Service

/-! ### What replies tell -/

/-- The members of an answer with 200. -/
def members? : Response → Option Json.Fields
  | ⟨200, .json (.obj members)⟩ => some members
  | _ => none

theorem members?_eq_none {response : Response} (other : response.status ≠ 200) :
    members? response = none := by
  unfold members?
  split
  · exact absurd rfl other
  · rfl

namespace Session

/-- The operation and the decision that are told in answer to a permission check. -/
def checkTold? : Step → Reply → Option (String × Bool)
  | .request request, .response response =>
    if request.Asks "POST" "/acl/check" then
      (members? response).bind fun members =>
        match members.get? "operation", members.get? "allowed" with
        | some (.str operation), some (.bool allowed) => some (operation, allowed)
        | _, _ => none
    else none
  | _, _ => none

/-- The numbers of rules that are told in answer to a reload. -/
def reloadTold? : Step → Reply → Option (Int × Int)
  | .request request, .response response =>
    if request.Asks "POST" "/acl/reload" then
      (members? response).bind fun members =>
        match members.get? "global_rules", members.get? "user_rules" with
        | some (.int anonymous), some (.int users) => some (anonymous, users)
        | _, _ => none
    else none
  | _, _ => none

/-- All that steps and their replies tell, in order. -/
def told {Told : Type} (tells : Step → Reply → Option Told) (session : Session)
    (steps : List Step) : List Told :=
  (steps.zip (session.run steps).2).filterMap fun entry => tells entry.1 entry.2.1

theorem told_cons {Told : Type} (tells : Step → Reply → Option Told) (session : Session)
    (step : Step) (rest : List Step) : told tells session (step :: rest) =
      (tells step (session.step step).2.1).toList ++ told tells (session.step step).1 rest := by
  cases first : tells step (session.step step).2.1 <;> simp [told, run, first]

/-- The number of rules of an authorizer, those for anonymous clients first. -/
def ruleCounts (authorizer : Authorizer) : Int × Int :=
  (authorizer.store.anonymous.length, authorizer.store.userRuleCount)

section Told

variable {session : Session} (serves : session.service.servesRules = true)

include serves

theorem checkTold?_step (step : Step) :
    checkTold? step (session.step step).2.1 = session.decision? step := by
  cases step with
  | request request =>
    change checkTold? (.request request) (.response (session.service.handle _ request).2.1) = _
    simp only [checkTold?, decision?, check?]
    by_cases asks : request.Asks "POST" "/acl/check"
    -- A check that is refused tells nothing, and nothing is decided.
    · simp only [asks, if_true]
      cases body : CheckRequest.ofBody request.limits request.hasJson request.body with
      | error failure =>
        rw [members?_eq_none (status_of_refused serves session.files asks body)]
        rfl
      | ok check =>
        rw [response_check serves session.files asks body]
        rfl
    · simp only [asks, if_false, Option.map_none]
  | _ => rfl

theorem reloadTold?_step (step : Step) : reloadTold? step (session.step step).2.1 =
    (session.choice? step).map fun selection => ruleCounts selection.authorizer := by
  cases step with
  | request request =>
    change reloadTold? (.request request) (.response (session.service.handle _ request).2.1) = _
    simp only [reloadTold?, Session.choice?, Service.choice?]
    by_cases asks : request.Asks "POST" "/acl/reload"
    · simp only [asks, if_true]
      cases configured : session.service.ruleFile? with
      | none =>
        rw [response_reload_unconfigured serves session.files asks configured]
        rfl
      | some name =>
        cases chosen : session.service.choose session.files with
        | error fault =>
          rw [response_reload_fault serves session.files asks configured chosen]
          rfl
        | ok selection =>
          rw [response_reload serves session.files asks configured chosen]
          rfl
    · simp only [asks, if_false, Option.map_none]
  | _ => rfl

theorem told_decisions (steps : List Step) :
    told checkTold? session steps = session.decisions steps := by
  induction steps generalizing session with
  | nil => rfl
  | cons step rest ih =>
    rw [told_cons, checkTold?_step serves, ih (servesRules_step serves step), decisions]

theorem told_choices (steps : List Step) : told reloadTold? session steps =
    (session.choices steps).map fun selection => ruleCounts selection.authorizer := by
  induction steps generalizing session with
  | nil => rfl
  | cons step rest ih =>
    rw [told_cons, reloadTold?_step serves, ih (servesRules_step serves step), choices,
      List.map_append, Option.toList_map]

end Told

/-! ### Choices -/

theorem choose_of_choice? {session : Session} {step : Step} {selection : Authorizer.Selection}
    (chosen : session.choice? step = some selection) :
    session.service.choose session.files = .ok selection := by
  cases step with
  | request request =>
    simp only [Session.choice?, Service.choice?] at chosen
    split at chosen
    · obtain ⟨_, _, chosen⟩ := Option.bind_eq_some_iff.mp chosen
      exact (toOption_eq_some_iff _ _).mp chosen
    · cases chosen
  | _ => cases chosen

theorem exists_select_of_mem_choices {session : Session} {steps : List Step}
    {selection : Authorizer.Selection} (member : selection ∈ session.choices steps) :
    ∃ strict files path, Authorizer.select strict files path = .ok selection := by
  induction steps generalizing session with
  | nil => cases member
  | cons step rest ih =>
    rcases List.mem_append.mp member with here | later
    · exact ⟨_, _, _, choose_of_choice? (Option.mem_toList.mp here)⟩
    · exact ih later

theorem Started.nodup_userNames_run {session : Session} {first : Authorizer.Selection}
    (started : session.Started first) (steps : List Step) :
    (session.run steps).1.service.authorizer.store.userNames.Nodup := by
  obtain ⟨last, latest, inForce⟩ := Option.map_eq_some_iff.mp (started.follows_run steps).inForce
  -- What is in force was chosen by the first load or by a load among the steps.
  have distinct : last.authorizer.store.userNames.Nodup := by
    rcases List.mem_cons.mp (List.mem_of_getLast? latest) with rfl | member
    · exact Authorizer.nodup_userNames_of_select started.chosen
    · obtain ⟨_, _, _, selected⟩ := exists_select_of_mem_choices member
      exact Authorizer.nodup_userNames_of_select selected
  rwa [inForce] at distinct

/-! ### Exports -/

/-- A summary tells how many rules there are for anonymous clients, and for each name how many there
are for it. -/
def SummaryTells (reply : Reply) (anonymous users : Nat) : Prop :=
  ∃ (members : Json.Fields) (counts : List (String × Nat)),
    reply = .response ⟨200, .json (.obj members)⟩ ∧
    members.get? "global_rules" = some (.nat anonymous) ∧
    members.get? "user_rules" = some (.obj (counts.map fun entry => (entry.1, .nat entry.2))) ∧
    (counts.map (·.1)).Nodup ∧ (counts.map (·.2)).sum = users

theorem summaryTells_step {session : Session} (serves : session.service.servesRules = true)
    (distinct : session.service.authorizer.store.userNames.Nodup) {request : Request}
    (asks : request.Asks "GET" "/acl/summary") :
    SummaryTells (session.step (.request request)).2.1
      session.service.authorizer.store.anonymous.length
      session.service.authorizer.store.userRuleCount := by
  let store := session.service.authorizer.store
  have told := response_summary serves session.files asks
  refine ⟨_, store.users.map fun entry => (entry.1, entry.2.length), congrArg Reply.response told,
    rfl, ?_, ?_, ?_⟩
  · rw [List.map_map]
    rfl
  · rw [List.map_map]
    exact distinct
  · rw [List.map_map, RuleStore.userRuleCount, RuleStore.ruleCount, List.sum, List.foldr_map]
    rfl

/-- The samples of an export after some steps of a session agree with the replies to these steps,
with what a summary would tell now, and with the rejected lines of all loads. -/
structure Consistent (session : Session) (first : Authorizer.Selection) (before : List Step)
    (samples : List Sample) : Prop where
  rules : ∃ anonymous users : Nat,
    valuesOf samples "acl_rules_loaded" [("scope", "global")] = [.level anonymous] ∧
    valuesOf samples "acl_rules_loaded" [("scope", "user")] = [.level users] ∧
    (∀ request, request.Asks "GET" "/acl/summary" →
      SummaryTells ((session.run before).1.step (.request request)).2.1 anonymous users) ∧
    (∀ counts, (told reloadTold? session before).getLast? = some counts →
      counts = (↑anonymous, ↑users)) ∧
    ((session.run before).1.service.authorizer.mode = "permit_all" ∨
      (session.run before).1.service.authorizer.mode = "deny_all" → anonymous = 0 ∧ users = 0)
  checks : ∀ operation allowed,
    valuesOf samples "acl_checks_total"
      [("decision", if allowed then "allow" else "deny"), ("operation", operation)] =
    let count := (told checkTold? session before).count (operation, allowed)
    if count = 0 then [] else [.count count]
  parseErrors : valuesOf samples "acl_parse_errors_total" [] =
    [.count ((first :: session.choices before).map (·.reported.length)).sum]
  firstReports : Authorizer.Reports session.service.settings.aclStrict session.files
    session.service.path? first.reported.length
  reports : ∀ earlier step later selection, before = earlier ++ step :: later →
    let there := (session.run earlier).1
    there.choice? step = some selection →
      Authorizer.Reports there.service.settings.aclStrict there.files there.service.path?
        selection.reported.length

/-- What is measured at any time agrees with the history. -/
theorem Started.consistent {session : Session} {first : Authorizer.Selection}
    (started : session.Started first) (before : List Step) :
    Consistent session first before (session.run before).1.service.metrics.samples := by
  let here := (session.run before).1
  have serves : here.service.servesRules = true := servesRules_run started.serves before
  have follows := started.follows_run before
  have loaded : here.service.metrics.rulesLoaded = some (ruleCounts here.service.authorizer) :=
    follows.rulesLoaded
  obtain ⟨anonymous, users⟩ := here.service.metrics.valuesOf_rulesLoaded loaded
  constructor
  case rules =>
    refine ⟨_, _, anonymous, users, ?_, ?_, ?_⟩
    · intro request asks
      exact summaryTells_step serves (started.nodup_userNames_run before) asks
    -- The latest reload that has told its numbers is the last load that has chosen.
    · intro counts latest
      rw [told_choices started.serves, List.getLast?_map] at latest
      obtain ⟨selection, found, same⟩ := Option.map_eq_some_iff.mp latest
      have inForce : selection.authorizer = (session.run before).1.service.standing.authorizer := by
        simpa [List.getLast?_cons, found] using follows.inForce
      rw [← same, inForce]
      rfl
    · intro unruled
      cases inForce : (session.run before).1.service.authorizer with
      | rules store => simp [inForce, Authorizer.mode] at unruled
      | permitAll => exact ⟨rfl, rfl⟩
      | denyAll => exact ⟨rfl, rfl⟩
  case checks =>
    intro operation allowed
    have counted : here.service.metrics.checks.countsOf (operation, allowed) = _ :=
      follows.checks (operation, allowed)
    have exported := here.service.metrics.valuesOf_checks operation allowed
    rw [counted, apply_ite (List.map SampleValue.count)] at exported
    rw [told_decisions started.serves]
    exact exported
  case parseErrors =>
    rw [← follows.parseErrors]
    exact here.service.metrics.valuesOf_parseErrors
  case firstReports => exact Authorizer.reports_select started.chosen
  case reports =>
    intro earlier step later selection _ there chosen
    exact Authorizer.reports_select (choose_of_choice? chosen)

end Session

end Service

end TopicAccess
