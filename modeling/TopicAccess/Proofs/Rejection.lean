import Mathlib.Tactic.Common
import TopicAccess.Collector.Session
import TopicAccess.Proofs.Acceptance

/-!
# Lines that are rejected

What feeding a line comes to is settled by the line alone (`verdict`): a collector that is not
sealed takes it over or reports the same problem, whatever it holds (`step_feed`). A line that is
rejected leaves the session as it was (`step_rejected`), so it can be left out of a run
(`run_filter_keeps`). A sealed collector rejects every line and stays empty through every run
(`Untouched.run`). The main result, `rejection_exact`, says all of this of the runs of a session.
-/
namespace TopicAccess.Collector

/-- What feeding a line to a collector that is not sealed comes to. -/
def verdict (line : String) : Except Problem Unit :=
  match Directive.ofLine line with
  | .ok _ => .ok ()
  | .error fault => .error (fault.problem line)

/-- The lines that are taken over. -/
def accepts (line : String) : Bool :=
  (verdict line).toBool

/-- A line is rejected with what it is and why, and nothing is known of where it stands. -/
theorem rejected_of_verdict {line : String} {problem : Problem}
    (rejected : verdict line = .error problem) : ∃ fault, Directive.ofLine line = .error fault ∧
      problem = .rejected (fault.message line) (some line) none := by
  unfold verdict at rejected
  cases read : Directive.ofLine line with
  | ok directive => simp [read] at rejected
  | error fault =>
    rw [read] at rejected
    cases rejected
    exact ⟨fault, rfl, rfl⟩

namespace Session

variable (covers : Matcher)

/-! ### One line -/

/-- A line that is rejected leaves the whole session as it was. -/
theorem step_rejected {session : Session} {line : String} {problem : Problem} {after : Collector}
    (rejected : (session.step covers (.feed line)).2 = .fed (.error problem) after) :
    (session.step covers (.feed line)).1 = session ∧ after = session.collector := by
  rcases fed : session.collector.feed line with ⟨later, outcome⟩
  cases outcome with
  | ok notice => simp [step, fed] at rejected
  | error found =>
    obtain ⟨rfl, _⟩ := (feed_eq_error_iff _ _ _ _).mp fed
    simp only [step, fed, Reply.fed.injEq] at rejected ⊢
    exact ⟨trivial, rejected.2.symm⟩

/-- What comes of a line does not depend on what has been collected. -/
theorem step_feed {session : Session} (unsealed : session.collector.isSealed = false)
    (line : String) : ∃ after, (session.step covers (.feed line)).2 = .fed (verdict line) after := by
  unfold verdict
  cases read : Directive.ofLine line with
  | ok directive =>
    have fed := (feed_eq_ok_iff session.collector line _ _).mpr
      ⟨unsealed, directive, read, rfl, rfl⟩
    exact ⟨_, by simp only [step, fed]; rfl⟩
  | error fault =>
    have fed := (feed_eq_error_iff session.collector line _ _).mpr
      ⟨rfl, .inr ⟨unsealed, fault, read, rfl⟩⟩
    exact ⟨_, by simp only [step, fed]; rfl⟩

/-! ### Runs of a collector that is not sealed -/

theorem isSealed_step (session : Session) (step : Step) :
    (session.step covers step).1.collector.isSealed = session.collector.isSealed := by
  cases step with
  | feed line =>
    rcases fed : session.collector.feed line with ⟨after, outcome⟩
    cases outcome with
    | ok notice =>
      obtain ⟨_, directive, _, same, _⟩ := (feed_eq_ok_iff _ _ _ _).mp fed
      simp [Session.step, fed, same]
    | error problem =>
      obtain ⟨same, _⟩ := (feed_eq_error_iff _ _ _ _).mp fed
      simp [Session.step, fed, same]
  | freeze => rfl
  | ask => rw [Session.fst_step_ask]

theorem isSealed_run (session : Session) (steps : List Step) :
    (session.run covers steps).1.collector.isSealed = session.collector.isSealed := by
  induction steps generalizing session with
  | nil => rfl
  | cons step rest ih => exact (ih _).trans (isSealed_step covers session step)

/-- The steps that are left when the lines that are rejected are left out. -/
def keeps : Step → Bool
  | .feed line => accepts line
  | _ => true

theorem step_of_not_keeps {session : Session} (unsealed : session.collector.isSealed = false)
    {step : Step} (dropped : keeps step = false) : (session.step covers step).1 = session := by
  cases step with
  | freeze | ask => cases dropped
  | feed line =>
    obtain ⟨after, reply⟩ := step_feed covers unsealed line
    cases judged : verdict line with
    | ok => simp [keeps, accepts, judged, Except.toBool] at dropped
    | error problem =>
      rw [judged] at reply
      exact (step_rejected covers reply).1

/-- A run ends where it would end without the lines that are rejected. -/
theorem run_filter_keeps {session : Session} (unsealed : session.collector.isSealed = false)
    (steps : List Step) :
    (session.run covers steps).1 = (session.run covers (steps.filter keeps)).1 := by
  induction steps generalizing session with
  | nil => rfl
  | cons step rest ih =>
    have later := ih ((isSealed_step covers session step).trans unsealed)
    -- A step that is left out leads back to the session, where the rest goes on alike.
    cases kept : keeps step with
    | true =>
      rw [List.filter_cons_of_pos kept]
      exact later
    | false =>
      have same := step_of_not_keeps covers unsealed kept
      rw [List.filter_cons_of_neg (by simp [kept])]
      rw [same] at later
      rw [← later, fst_run_cons, same]

/-! ### Runs of a sealed collector -/

/-- A session with a sealed collector in which nothing has been collected. -/
structure Untouched (session : Session) : Prop where
  collector : session.collector = .sealedEmpty
  frozen : ∀ store ∈ session.frozen, store = {}

theorem Untouched.step_feed {session : Session} (untouched : Untouched session) (line : String) :
    session.step covers (.feed line) = (session, .fed (.error sealedProblem) .sealedEmpty) := by
  have fed := (feed_eq_error_iff session.collector line _ _).mpr
    ⟨rfl, .inl ⟨by rw [untouched.collector]; rfl, rfl⟩⟩
  rw [← untouched.collector]
  simp only [Session.step, fed]

theorem Untouched.step {session : Session} (untouched : Untouched session) (step : Step) :
    Untouched (session.step covers step).1 := by
  cases step with
  | feed line => rwa [untouched.step_feed]
  | freeze =>
    refine ⟨untouched.collector, ?_⟩
    intro store member
    rcases List.mem_append.mp member with held | new
    · exact untouched.frozen store held
    · rw [List.mem_singleton.mp new, untouched.collector]
      rfl
  | ask => rwa [Session.fst_step_ask]

theorem Untouched.run {session : Session} (untouched : Untouched session) (steps : List Step) :
    Untouched (session.run covers steps).1 := by
  induction steps generalizing session with
  | nil => exact untouched
  | cons step rest ih => exact ih (untouched.step covers step)

/-- Where nothing has been collected nothing is allowed, and nothing is compared. -/
theorem Untouched.answer_access {session : Session} (untouched : Untouched session)
    {frozen : Option Nat} {operation : Operation} {topic : String} {user : Option String}
    {answer : Answer}
    (answered : session.answer covers frozen (.access operation topic user) = .ok answer) :
    answer = .decision ⟨false, []⟩ := by
  have denied : ∀ principal,
      ({} : RuleStore).decision covers operation topic principal = ⟨false, []⟩ := by
    intro principal
    cases principal <;> rfl
  -- Whichever store is asked, the collector's or a frozen one, it is empty.
  cases frozen with
  | none =>
    simp only [Session.answer, Collector.answer, Except.mapError, decision_eq, Except.ok.injEq]
      at answered
    rw [← answered, untouched.collector, ← denied (.ofUser user)]
    rfl
  | some index =>
    cases held : session.frozen[index]? with
    | none => simp [Session.answer, held] at answered
    | some store =>
      simp only [Session.answer, held, Except.ok.injEq] at answered
      rw [← answered, untouched.frozen store (List.mem_of_getElem? held), ← denied (.ofUser user)]
      rfl

end Session

/-- **Rejected lines.** A line that is rejected leaves a session as it was, with all that can be
asked in it. Whether a line is taken over, and with which problem it is rejected, is the same after
every run with a collector that is not sealed. A sealed collector rejects every line as immutable
after every run, and never holds a rule or allows anything. Feeding lines to a collector that is not
sealed ends as feeding those that are taken over. -/
theorem rejection_exact (covers : Matcher) :
    (∀ (session : Session) (line : String) (problem : Problem) (after : Collector),
      (session.step covers (.feed line)).2 = .fed (.error problem) after →
      (session.step covers (.feed line)).1 = session ∧ after = session.collector) ∧
    (∀ (session : Session) (steps : List Step) (line : String),
      session.collector.isSealed = false → ∃ after,
        ((session.run covers steps).1.step covers (.feed line)).2 = .fed (verdict line) after) ∧
    (∀ (line : String) (problem : Problem), verdict line = .error problem →
      ∃ fault, Directive.ofLine line = .error fault ∧
        problem = .rejected (fault.message line) (some line) none) ∧
    (∀ steps : List Step,
      let session := (Session.run covers { collector := .sealedEmpty } steps).1
      session.collector = .sealedEmpty ∧ (∀ store ∈ session.frozen, store = {}) ∧
      (∀ line, session.step covers (.feed line) =
        (session, .fed (.error sealedProblem) .sealedEmpty)) ∧
      ∀ frozen operation topic user answer,
        session.answer covers frozen (.access operation topic user) = .ok answer →
        answer = .decision ⟨false, []⟩) ∧
    sealedProblem.kind = .immutable ∧
    ∀ (session : Session) (lines : List String), session.collector.isSealed = false →
      (session.run covers (lines.map .feed)).1 =
        (session.run covers ((lines.filter accepts).map .feed)).1 := by
  refine ⟨?_, ?_, ?_, ?_, rfl, ?_⟩
  · intro session line problem after rejected
    exact Session.step_rejected covers rejected
  · intro session steps line unsealed
    exact Session.step_feed covers ((Session.isSealed_run covers session steps).trans unsealed) line
  · intro line problem rejected
    exact rejected_of_verdict rejected
  · intro steps session
    have start : Session.Untouched { collector := .sealedEmpty } := ⟨rfl, by simp⟩
    have untouched := start.run covers steps
    exact ⟨untouched.collector, untouched.frozen, untouched.step_feed covers,
      fun _ _ _ _ _ answered => untouched.answer_access covers answered⟩
  · intro session lines unsealed
    have left : (lines.map Step.feed).filter Session.keeps = (lines.filter accepts).map .feed :=
      List.filter_map
    rw [Session.run_filter_keeps covers unsealed, left]

/-- A rule with a permission that there is none of, in the section of a user. -/
theorem rejection_exact_bad_permission :
    let session := (Session.run Topic.covers {} [.feed "user bob", .feed "topic a"]).1
    let line := "topic some a b"
    let problem := Problem.rejected "invalid permission token" (some line) none
    (session.step Topic.covers (.feed line)).2 = .fed (.error problem) session.collector ∧
    (session.step Topic.covers (.feed line)).1 = session ∧
    (session.run Topic.covers ([line, "topic b"].map .feed)).1 =
      (session.run Topic.covers (["topic b"].map .feed)).1 := by
  intro session line problem
  obtain ⟨unchanged, settled, _, _, _, without⟩ := rejection_exact Topic.covers
  have unsealed : session.collector.isSealed = false := rfl
  have judged : verdict line = .error problem := by
    have read : Directive.ofLine "topic some a b" = .error .badPermission := by rfl
    simp only [line, verdict, read]
    rfl
  obtain ⟨after, reply⟩ := settled session [] line unsealed
  rw [judged] at reply
  obtain ⟨same, rfl⟩ := unchanged session line problem after reply
  have left : [line, "topic b"].filter accepts = ["topic b"] := by decide +kernel
  refine ⟨reply, same, ?_⟩
  rw [without session [line, "topic b"] unsealed, left]

end TopicAccess.Collector
