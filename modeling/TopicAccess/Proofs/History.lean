import Mathlib.Algebra.GroupWithZero.Nat
import TopicAccess.Proofs.Answers

/-!
# What a service owes to its history

Of the steps of a session two things count for rules: what has been chosen and what has been
decided. Both are read off the steps and the replies. What is in force and what is measured follows
from them (`Service.Session.Started.follows_run`): the authorizer is that of the last choice, the
counts are those of all decisions, and the problems are those of all choices.
-/
namespace TopicAccess

/-! ### Tallies -/

namespace Tally

variable {Label : Type} [DecidableEq Label]

/-- All that is counted under a label. -/
def countsOf (tally : Tally Label) (label : Label) : List Nat :=
  (tally.filter fun entry => entry.1 = label).map (·.2)

/-- A tally of the labels in a list. A label that is not in the list has no entry. -/
def Counts [BEq Label] (labels : List Label) (tally : Tally Label) : Prop :=
  ∀ label, tally.countsOf label = if labels.count label = 0 then [] else [labels.count label]

theorem countsOf_bump_of_ne {label other : Label} (differs : other ≠ label)
    (tally : Tally Label) : (tally.bump label).countsOf other = tally.countsOf other := by
  induction tally with
  | nil => simp [bump, countsOf, Ne.symm differs]
  | cons entry rest ih =>
    obtain ⟨held, n⟩ := entry
    simp only [bump]
    split
    next same => simp [countsOf, same, Ne.symm differs]
    · simp only [countsOf, List.filter_cons] at ih ⊢
      split <;> simp [ih]

theorem countsOf_bump_nil {label : Label} {tally : Tally Label}
    (absent : tally.countsOf label = []) : (tally.bump label).countsOf label = [1] := by
  induction tally with
  | nil => simp [bump, countsOf]
  | cons entry rest ih =>
    obtain ⟨held, n⟩ := entry
    have differs : held ≠ label := by
      rintro rfl
      simp [countsOf] at absent
    simp only [bump, differs, if_false]
    simp only [countsOf, List.filter_cons, differs, decide_false, Bool.false_eq_true,
      if_false] at absent ih ⊢
    exact ih absent

theorem countsOf_bump_single {label : Label} {tally : Tally Label} {n : Nat}
    (present : tally.countsOf label = [n]) : (tally.bump label).countsOf label = [n + 1] := by
  induction tally with
  | nil => simp [countsOf] at present
  | cons entry rest ih =>
    obtain ⟨held, m⟩ := entry
    by_cases same : held = label
    · simp only [bump, same, if_true]
      simpa [countsOf, same] using present
    · simp only [bump, same, if_false]
      simp only [countsOf, List.filter_cons, same, decide_false, Bool.false_eq_true,
        if_false] at present ih ⊢
      exact ih present

theorem Counts.bump [BEq Label] [LawfulBEq Label] {labels : List Label} {tally : Tally Label}
    (counts : Counts labels tally) (label : Label) :
    Counts (labels ++ [label]) (tally.bump label) := by
  intro other
  by_cases same : other = label
  -- The label that is counted gets its entry with the first count.
  · subst same
    have before := counts other
    split at before
    next none => simp [countsOf_bump_nil before, none]
    next some => simp [countsOf_bump_single before]
  · rw [countsOf_bump_of_ne same, counts other]
    simp [List.count_append, Ne.symm same]

end Tally

namespace Service.Session

/-! ### Sessions in parts -/

theorem run_append (session : Session) (first later : List Step) :
    session.run (first ++ later) =
      let middle := session.run first
      ((middle.1.run later).1, middle.2 ++ (middle.1.run later).2) := by
  induction first generalizing session with
  | nil => rfl
  | cons step rest ih => simp [run, ih]

theorem length_replies (session : Session) (steps : List Step) :
    (session.run steps).2.length = steps.length := by
  induction steps generalizing session with
  | nil => rfl
  | cons step rest ih => simp [run, ih]

/-- A reply is what its step gives after the steps before it. -/
theorem reply_run (session : Session) (before : List Step) (step : Step) (after : List Step) :
    (session.run (before ++ step :: after)).2[before.length]? =
      some ((session.run before).1.step step).2 := by
  rw [run_append]
  simp [length_replies, run]

/-! ### Histories -/

/-- What a step makes the service choose anew. Only requests can make it do so. -/
def choice? (session : Session) : Step → Option Authorizer.Selection
  | .request request => Service.choice? session.files request session.service
  | _ => none

/-- What the loads among the steps choose, in order. -/
def choices (session : Session) : List Step → List Authorizer.Selection
  | [] => []
  | step :: rest => (session.choice? step).toList ++ (session.step step).1.choices rest

/-- The operation and the decision of a check that a step puts. -/
def decision? (session : Session) : Step → Option (String × Bool)
  | .request request => (check? request).map fun check =>
    (check.operation.name, session.service.authorizer.allows check)
  | _ => none

/-- The operations and decisions of the checks among the steps, in order. -/
def decisions (session : Session) : List Step → List (String × Bool)
  | [] => []
  | step :: rest => (session.decision? step).toList ++ (session.step step).1.decisions rest

/-- What is in force and what has been measured after a history of choices and decisions. -/
structure Follows (choices : List Authorizer.Selection) (decisions : List (String × Bool))
    (standing : Standing) : Prop where
  inForce : choices.getLast?.map (·.authorizer) = some standing.authorizer
  rulesLoaded : standing.rulesLoaded =
    some (↑standing.authorizer.store.anonymous.length, ↑standing.authorizer.store.userRuleCount)
  parseErrors : standing.parseErrors = (choices.map (·.reported.length)).sum
  checks : Tally.Counts decisions standing.checks

/-- What is added to a history accounts for what becomes of the standing. -/
theorem Follows.becomes {choices : List Authorizer.Selection} {decisions : List (String × Bool)}
    {standing after : Standing} {check : Option CheckRequest}
    {choice : Option Authorizer.Selection} (follows : Follows choices decisions standing)
    (becomes : Becomes standing check choice after) :
    Follows (choices ++ choice.toList) (decisions ++ (check.map fun check =>
      (check.operation.name, standing.authorizer.allows check)).toList) after := by
  cases becomes with
  | checked check =>
    rw [Option.toList_none, List.append_nil]
    exact { follows with checks := follows.checks.bump _ }
  | loaded selection =>
    rw [Option.map_none, Option.toList_none, List.append_nil]
    constructor
    case inForce => simp [Standing.loaded]
    case rulesLoaded => rfl
    case parseErrors => simp [Standing.loaded, follows.parseErrors]
    case checks => exact follows.checks
  | kept => simpa using follows

theorem choice?_of_idle (session : Session) {step : Step}
    (idle : ∀ request, step ≠ .request request) : session.choice? step = none := by
  cases step with
  | request request => exact absurd rfl (idle request)
  | _ => rfl

@[simp] theorem step_askKept (session : Session) (operation : Operation) (topic : String)
    (user : Option String) : (session.step (.askKept operation topic user)).1 = session := by
  simp only [step]
  split <;> rfl

/-- A step other than a request leaves the service as it is, but for its settings. -/
theorem standing_step {session : Session} {step : Step}
    (idle : ∀ request, step ≠ .request request) :
    (session.step step).1.service.standing = session.service.standing ∧
      (session.step step).1.service.servesRules = session.service.servesRules := by
  cases step with
  | request request => exact absurd rfl (idle request)
  | askKept operation topic user =>
    rw [step_askKept]
    exact ⟨rfl, rfl⟩
  | _ => exact ⟨rfl, rfl⟩

section Step

variable {session : Session} (serves : session.service.servesRules = true)

include serves

theorem servesRules_step (step : Step) : (session.step step).1.service.servesRules = true := by
  cases step with
  | request request =>
    obtain ⟨_, _, left⟩ := becomes_handle serves session.files request
    exact left.servesRules.trans serves
  | _ => exact (standing_step (by simp)).2.trans serves

theorem servesRules_run (steps : List Step) : (session.run steps).1.service.servesRules = true := by
  induction steps generalizing session with
  | nil => exact serves
  | cons step rest ih => exact ih (servesRules_step serves step)

theorem Follows.step {choices : List Authorizer.Selection} {decisions : List (String × Bool)}
    (follows : Follows choices decisions session.service.standing) (step : Step) :
    Follows (choices ++ (session.choice? step).toList)
      (decisions ++ (session.decision? step).toList)
      (session.step step).1.service.standing := by
  cases step with
  | request request =>
    obtain ⟨standing, becomes, left⟩ := becomes_handle serves session.files request
    -- The decision is that of the authorizer before the step, as is the one that is counted.
    simp only [choice?, decision?, Session.step]
    rw [left.standing]
    exact follows.becomes becomes
  | _ =>
    rw [(standing_step (by simp)).1]
    simpa [choice?, decision?] using follows

theorem Follows.run {choices : List Authorizer.Selection} {decisions : List (String × Bool)}
    (follows : Follows choices decisions session.service.standing) (steps : List Step) :
    Follows (choices ++ session.choices steps) (decisions ++ session.decisions steps)
      (session.run steps).1.service.standing := by
  -- The history grows at its end, by what the first of the remaining steps adds.
  induction steps generalizing session choices decisions with
  | nil => simpa [Session.choices, Session.decisions, Session.run] using follows
  | cons step rest ih =>
    rw [Session.choices, Session.decisions, ← List.append_assoc, ← List.append_assoc]
    exact ih (servesRules_step serves step) (follows.step serves step)

end Step

/-! ### Services that have been started -/

/-- The service has just made its first load, by which an authorizer was chosen. Nothing has been
measured before that load. -/
structure Started (session : Session) (first : Authorizer.Selection) : Prop where
  serves : session.service.servesRules = true
  chosen : session.service.choose session.files = .ok first
  standing : session.service.standing = Standing.loaded ⟨.permitAll, [], none, 0⟩ first

theorem standing_startPlain {files : FileTree} {setup : Setup} {service : Service}
    (started : startPlain files setup = .ok service) :
    service.standing = ⟨.permitAll, [], none, 0⟩ := by
  unfold startPlain at started
  split at started
  · cases started
  split at started
  · cases started
  split at started
  · cases started
  cases started
  rfl

/-- Whatever it is started with, a service that serves rules has made its first load. -/
theorem started_of_start {files : FileTree} {overrides : Json.Fields} {service : Service}
    {records : List Json.Fields} (started : start files overrides = .ok (service, records))
    (kept : Option Kept) : ∃ first, Started { service, files, kept } first := by
  unfold start at started
  split at started
  · cases started
  split at started
  · cases started
  next plain begun =>
    have blank : plain.standing = ⟨.permitAll, [], none, 0⟩ := standing_startPlain begun
    -- The load of the start is a load like any other, made by a service that is still blank.
    split at started
    · cases started
    next loaded events loads =>
      cases started
      cases chosen : choose files { plain with servesRules := true } with
      | error fault => cases (load_of_choose_fault chosen).symm.trans loads
      | ok first =>
        obtain ⟨after, events', loads', _, left⟩ := load_of_choose chosen
        cases loads'.symm.trans loads
        refine ⟨first, left.servesRules, ?_, ?_⟩
        · rw [choose, path?, left.settings]
          exact chosen
        · rw [left.standing, ← blank]
          rfl

theorem Started.follows {session : Session} {first : Authorizer.Selection}
    (started : session.Started first) : Follows [first] [] session.service.standing := by
  rw [started.standing]
  constructor
  case inForce => rfl
  case rulesLoaded => rfl
  case parseErrors => simp [Standing.loaded]
  case checks => simp [Tally.Counts, Tally.countsOf, Standing.loaded]

/-- What is in force and what has been measured at any time. -/
theorem Started.follows_run {session : Session} {first : Authorizer.Selection}
    (started : session.Started first) (steps : List Step) :
    Follows (first :: session.choices steps) (session.decisions steps)
      (session.run steps).1.service.standing :=
  started.follows.run started.serves steps

end Service.Session
end TopicAccess
