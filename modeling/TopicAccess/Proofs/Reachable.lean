import TopicAccess.Proofs.WellFormed

/-!
# Stores that can be reached

Whatever a collector is fed, it holds what lines have stated. What is known of such a rule depends
on its line alone (`Directive.statedBy_of_ofLine`), and what is known of the names is kept by every
directive. So both hold of a collector and of all that has been frozen, at any point of a session
(`Collector.Session.WellFormed.run`). The main result is `Collector.reached_wellFormed`.
-/
namespace TopicAccess

open Text

/-- A rule as a line states it. Its filter does not begin with a blank, and has no blank at all
where the line has two words. It passes the check of rules that come from elsewhere. -/
structure Rule.StatedBy (line : String) (rule : Rule) : Prop where
  begins : StartsWord rule.filter.toList
  solid : (words line.toList).length = 2 → IsWord rule.filter.toList
  checked : Rule.make rule.filter rule.permission = .ok rule

theorem Rule.make_of_startsWord {rule : Rule} (begins : StartsWord rule.filter.toList) :
    Rule.make rule.filter rule.permission = .ok rule := by
  obtain ⟨first, found, _⟩ := begins
  have nonempty : rule.filter ≠ "" := by
    intro empty
    simp [empty] at found
  simp [Rule.make, nonempty]

/-- Where a line has two words, the second one is the filter. -/
theorem Written.isWord_filter {form : Form} {line : List Char} {rule : Rule}
    (written : Written form line (.grant rule)) (two : (words line).length = 2) :
    IsWord rule.filter.toList := by
  have fits := written.fits
  rw [two] at fits
  cases written with
  | bareTopic known apart isFilter blank => simpa using isFilter
  -- A line with a permission in it has more than two words.
  | permittedTopic => exact absurd fits (Nat.lt_irrefl 2)

theorem Directive.statedBy_of_ofLine {line : String} {rule : Rule}
    (read : Directive.ofLine line = .ok (.grant rule)) : rule.StatedBy line := by
  obtain ⟨form, written⟩ := (Directive.ofChars_eq_ok_iff _ _).mp read
  exact ⟨written.startsWord, written.isWord_filter, Rule.make_of_startsWord written.startsWord⟩

/-- A rule that one of the lines states. -/
def Rule.AmongLines (lines : List String) (rule : Rule) : Prop :=
  ∃ line ∈ lines, Directive.ofLine line = .ok (.grant rule)

theorem Directive.fits_of_mem_lines {lines : List String} {line : String} (member : line ∈ lines)
    {directive : Directive} (read : Directive.ofLine line = .ok directive) :
    directive.Fits (Rule.AmongLines lines) where
  rule rule same := ⟨line, member, same ▸ read⟩
  name name same := by
    obtain ⟨form, written⟩ := (Directive.ofChars_eq_ok_iff _ _).mp (same ▸ read)
    exact written.isWord

/-- A word is not taken for an anonymous client. -/
theorem Principal.ofUser_of_isWord {name : String} (isWord : IsWord name.toList) :
    Principal.ofUser (some name) = .named name := by
  have nonempty : name ≠ "" := fun empty => isWord.nonempty (by simp [empty])
  rw [Principal.ofUser, if_neg nonempty]

namespace RuleStore

/-- Where every name has a rule, there are at least as many rules as names. -/
theorem length_le_ruleCount {users : List (String × List Rule)}
    (nonempty : ∀ entry ∈ users, entry.2 ≠ []) : users.length ≤ ruleCount users := by
  induction users with
  | nil => exact Nat.le_refl 0
  | cons entry rest ih =>
    have here := List.length_pos_iff.mpr (nonempty entry List.mem_cons_self)
    have later := ih fun other member => nonempty other (List.mem_cons_of_mem entry member)
    simp only [ruleCount, List.foldr_cons, List.length_cons] at later ⊢
    omega

section WellFormed

variable {admits : Rule → Prop} {store : RuleStore} (formed : store.WellFormed admits)

include formed

theorem WellFormed.admits_of_mem {principal : Principal} {rule : Rule}
    (member : rule ∈ store.rulesOf principal) : admits rule := by
  cases principal with
  | anonymous => exact formed.anonymous rule member
  | named name =>
    simp only [rulesOf, rulesUnder, rulesUnder?] at member
    cases found : store.users.lookup name with
    | none => simp [found] at member
    | some rules =>
      rw [found, Option.getD_some] at member
      obtain ⟨before, after, split, _⟩ := List.lookup_eq_some_iff.mp found
      exact formed.users (name, rules) (by simp [split]) rule member

theorem WellFormed.userNames_length_le : store.userNames.length ≤ store.userRuleCount := by
  rw [userNames, List.length_map]
  exact length_le_ruleCount formed.nonempty

/-- Every rule that is held under a name can be reached by a question about that name. -/
theorem WellFormed.rulesOf_ofUser_eq {entry : String × List Rule} (member : entry ∈ store.users) :
    store.rulesOf (.ofUser (some entry.1)) = entry.2 := by
  rw [Principal.ofUser_of_isWord (formed.isWord entry member)]
  exact formed.rulesUnder_eq member

end WellFormed

end RuleStore

namespace Collector

/-- A session in which the collector and all that has been frozen are well formed. -/
structure Session.WellFormed (admits : Rule → Prop) (session : Session) : Prop where
  collector : session.collector.WellFormed admits
  frozen : ∀ store ∈ session.frozen, store.WellFormed admits

namespace Session

variable {admits : Rule → Prop} {session : Session}

/-- A step adds what its line says, if it feeds one, and freezes what is held already. -/
theorem WellFormed.step (formed : session.WellFormed admits) (covers : Matcher) {step : Step}
    (fits : ∀ line directive, step = .feed line → Directive.ofLine line = .ok directive →
      directive.Fits admits) : (session.step covers step).1.WellFormed admits := by
  cases step with
  | feed line =>
    rcases fed : session.collector.feed line with ⟨after, outcome⟩
    cases outcome with
    -- A line that is rejected leaves the collector as it is, sealed or not.
    | error problem =>
      obtain ⟨rfl, _⟩ := (feed_eq_error_iff _ _ _ _).mp fed
      simpa [Session.step, fed] using formed
    | ok notice =>
      obtain ⟨_, directive, read, rfl, _⟩ := (feed_eq_ok_iff _ _ _ _).mp fed
      have applied := formed.collector.apply (fits line directive rfl read)
      simp only [Session.step, fed]
      exact ⟨applied, formed.frozen⟩
  | freeze =>
    refine ⟨formed.collector, ?_⟩
    -- What is frozen now is what the collector holds.
    intro store member
    rcases List.mem_append.mp member with old | new
    · exact formed.frozen store old
    · rw [List.mem_singleton.mp new]
      exact formed.collector.store
  | ask => simpa using formed

theorem WellFormed.run (formed : session.WellFormed admits) (covers : Matcher)
    {steps : List Step} (fits : ∀ line ∈ fedLines steps, ∀ directive,
      Directive.ofLine line = .ok directive → directive.Fits admits) :
    (session.run covers steps).1.WellFormed admits := by
  induction steps generalizing session with
  | nil => exact formed
  | cons step rest ih =>
    rw [fst_run_cons]
    apply ih
    · apply formed.step covers
      rintro line directive rfl read
      exact fits line (by simp [fedLines]) directive read
    · intro line member
      exact fits line (by
        obtain ⟨other, found, feeds⟩ := List.mem_filterMap.mp member
        exact List.mem_filterMap.mpr ⟨other, List.mem_cons_of_mem _ found, feeds⟩)

/-- A collector that has just been made holds nothing, sealed or not. -/
theorem WellFormed.fresh (admits : Rule → Prop) (isSealed : Bool) :
    WellFormed admits { collector := { isSealed } } where
  collector := ⟨(Collector.WellFormed.empty admits).store, by rintro name ⟨⟩⟩
  frozen := by simp

end Session

/-- **Well-formed stores.** At any point of a session with a new collector, sealed or not, whatever
it has been fed and whatever was rejected, this is so of what the collector holds and of all that
has been frozen. No name is listed twice. Each name is a word, so it is not taken for an anonymous
client, and it has rules, which are those that decide for it. Each rule has been stated by a line
that was fed, and every line states only rules of which the filter begins with a character that is
not blank, is a word where the line has two words, and passes the check for empty filters. There
are at least as many rules of users as names. -/
theorem reached_wellFormed (covers : Matcher) (isSealed : Bool) (steps : List Step)
    (store : RuleStore)
    (held : store ∈ (Session.run covers { collector := { isSealed } } steps).1.collector.store ::
      (Session.run covers { collector := { isSealed } } steps).1.frozen) :
    store.userNames.Nodup ∧
    (∀ entry ∈ store.users, IsWord entry.1.toList ∧ entry.2 ≠ [] ∧
      store.rulesUnder entry.1 = entry.2 ∧
      Principal.ofUser (some entry.1) = .named entry.1 ∧
      ∀ covers operation topic, store.decision covers operation topic (.ofUser (some entry.1)) =
        Decision.search covers operation topic entry.2) ∧
    (∀ principal, ∀ rule ∈ store.rulesOf principal, StartsWord rule.filter.toList ∧
      ∃ line ∈ fedLines steps, Directive.ofLine line = .ok (.grant rule)) ∧
    (∀ line rule, Directive.ofLine line = .ok (.grant rule) → rule.StatedBy line) ∧
    store.userNames.length ≤ store.userRuleCount := by
  have reached := (Session.WellFormed.fresh (Rule.AmongLines (fedLines steps)) isSealed).run
    covers fun line member directive read => Directive.fits_of_mem_lines member read
  have formed : store.WellFormed (Rule.AmongLines (fedLines steps)) := by
    rcases List.mem_cons.mp held with rfl | frozen
    · exact reached.collector.store
    · exact reached.frozen store frozen
  refine ⟨formed.distinct, ?_, ?_, fun _ _ => Directive.statedBy_of_ofLine,
    formed.userNames_length_le⟩
  · intro entry member
    have isWord := formed.isWord entry member
    refine ⟨isWord, formed.nonempty entry member, formed.rulesUnder_eq member,
      Principal.ofUser_of_isWord isWord, ?_⟩
    intro covers operation topic
    rw [RuleStore.decision_eq, formed.rulesOf_ofUser_eq member]
  · intro principal rule member
    obtain ⟨line, fed, read⟩ := formed.admits_of_mem member
    exact ⟨(Directive.statedBy_of_ofLine read).begins, line, fed, read⟩

/-- What was frozen before the last line holds a filter with blanks in it and one that ends in a
blank, and the names of two users of whom only one has a rule. -/
theorem reached_wellFormed_frozen :
    let steps : List Step := [.feed "user alice", .feed "user bob", .feed "topic write  b c ",
      .feed "topic read", .freeze, .feed "topic d"]
    let store : RuleStore := ⟨[], [("bob", [⟨"b c ", .write⟩, ⟨"read", .readWrite⟩])]⟩
    store ∈ (Session.run Topic.covers { collector := { isSealed := false } }
        steps).1.collector.store ::
      (Session.run Topic.covers { collector := { isSealed := false } } steps).1.frozen ∧
    IsWord "bob".toList ∧ IsWord "read".toList ∧ store.userNames.length ≤ store.userRuleCount := by
  intro steps store
  have held : store ∈ (Session.run Topic.covers { collector := { isSealed := false } }
        steps).1.collector.store ::
      (Session.run Topic.covers { collector := { isSealed := false } } steps).1.frozen := by
    decide +kernel
  obtain ⟨_, users, _, stated, count⟩ :=
    reached_wellFormed Topic.covers false steps store held
  have read : Directive.ofLine "topic read" = .ok (.grant ⟨"read", .readWrite⟩) := rfl
  exact ⟨held, (users ("bob", _) List.mem_cons_self).1, (stated _ _ read).solid rfl, count⟩

end Collector
end TopicAccess
