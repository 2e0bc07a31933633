import TopicAccess.Proofs.Notices
import TopicAccess.Proofs.Records

/-!
# What the log tells of a load

A log recounts a store when the rules of each principal, the names of the users and the sections
that the rules stand in can be read from its records (`Log.Recounts`). Notices in whose order each
rule follows the section that it belongs to make such a log (`Log.recounts_of_sectioned`).

The main result, `RuleText.load_recounted`, says what the log of a load tells, whatever comes of the
load.
-/
namespace TopicAccess

open Directive (rulesFor namesFrom lastUser)

namespace Notice

/-! ### The fields of notices -/

/-- Only notices about sections have a user. -/
theorem get?_user (notice : Notice) :
    notice.event.fields.get? "user" = notice.section?.map Json.str := by
  cases notice with
  | ruleAdded principal rule => cases principal <;> rfl
  | _ => rfl

/-- No notice names a request. -/
theorem get?_requestId (notice : Notice) : notice.event.fields.get? "request_id" = none := by
  cases notice with
  | ruleAdded principal rule => cases principal <;> rfl
  | _ => rfl

end Notice

namespace Log

/-! ### Reading the log -/

/-- Whether a record is that of a rule added for a principal. Without a user the rule is one for
anonymous clients. -/
def adds (principal : Principal) (record : Json.Fields) : Bool :=
  holds "event" "Authorization added" record && match principal with
    | .anonymous => (record.get? "user").isNone
    | .named name => holds "user" name record

/-- The topic and the permission of a record. -/
def ruleFields (record : Json.Fields) : Option Json × Option Json :=
  (record.get? "topic", record.get? "permission")

/-- The number and the message of the record of a line that is skipped. -/
def skipFields (record : Json.Fields) : Option Json × Option Json :=
  (record.get? "line_number", record.get? "error")

/-- The record that all lines have been read counts the rules of a store. -/
structure Counts (record : Json.Fields) (store : RuleStore) : Prop where
  event : holds "event" "ACL rules loaded" record = true
  anonymous : record.get? "global_rules" = some (.nat store.anonymous.length)
  users : record.get? "users" = some (.nat store.userNames.length)
  userRules : record.get? "user_rules" = some (.nat store.userRuleCount)

/-- The user of the section that is recorded to be entered last. -/
def lastEntered (log : List Json.Fields) : Option Json :=
  ((named "Entering user section" log).getLast?.map (·.get? "user")).join

/-- A log recounts a store: the rules of each principal are those recorded to be added for it, the
names are those of the users that rules were added for, and each rule was added for the user whose
section was entered last. -/
structure Recounts (log : List Json.Fields) (store : RuleStore) : Prop where
  rules : ∀ principal, (log.filter (adds principal)).map ruleFields =
    (store.rulesOf principal).map fun rule =>
      (some (.str rule.filter), some (.str rule.permission.name))
  names : ((named "Authorization added" log).filterMap fun record =>
    (record.get? "user").bind Json.str?).eraseDups = store.userNames
  sections : ∀ before record after, log = before ++ record :: after →
    holds "event" "Authorization added" record = true → record.get? "user" = lastEntered before

/-- Records of other events behind it do not change what a log recounts. -/
theorem Recounts.append {log : List Json.Fields} {store : RuleStore} (recounts : Recounts log store)
    {more : List Json.Fields}
    (others : ∀ record ∈ more, holds "event" "Authorization added" record = false) :
    Recounts (log ++ more) store := by
  have none : more.filter (holds "event" "Authorization added") = [] := by
    rw [List.filter_eq_nil_iff]
    intro record member
    simp [others record member]
  constructor
  case rules =>
    intro principal
    have none' : more.filter (adds principal) = [] := by
      rw [List.filter_eq_nil_iff]
      intro record member
      simp [adds, others record member]
    rw [List.filter_append, none', List.append_nil]
    exact recounts.rules principal
  case names =>
    rw [named, List.filter_append, none, List.append_nil]
    exact recounts.names
  case sections =>
    intro before record after split adds
    rcases List.append_eq_append_iff.mp split with ⟨between, rfl, found⟩ | ⟨behind, rfl, found⟩
    -- The record of a rule that is added is not among those behind.
    · have member : record ∈ more := by simp [found]
      cases (others record member).symm.trans adds
    · cases behind with
      | nil =>
        have member : record ∈ more := by
          rw [List.nil_append] at found
          simp [← found]
        cases (others record member).symm.trans adds
      | cons first later =>
        obtain ⟨rfl, _⟩ := List.cons.inj found
        exact recounts.sections before record later rfl adds

/-- The records of notices in a context. -/
def recordsIn (context : Context) (notices : List Notice) : List Json.Fields :=
  notices.map fun notice => notice.event.record context

section Recorded

variable {context : Context}

/-- What is read from the records of some kind is what the notices of this kind tell. -/
theorem map_read_recordsIn {α β : Type} {kind : Json.Fields → Bool} {tell : Notice → Option α}
    {read : Json.Fields → β} {meaning : α → β}
    (kinds : ∀ notice : Notice, kind (notice.event.record context) = (tell notice).isSome)
    (reads : ∀ notice told, tell notice = some told →
      read (notice.event.record context) = meaning told) (notices : List Notice) :
    ((recordsIn context notices).filter kind).map read =
      (notices.filterMap tell).map meaning := by
  induction notices with
  | nil => rfl
  | cons notice rest ih =>
    rw [recordsIn, List.map_cons, List.filter_cons, kinds, filterMap_cons_toList, List.map_append,
      ← ih, recordsIn]
    cases found : tell notice with
    | none => simp
    | some told => simp [reads notice told found]

theorem holds_skipped (notice : Notice) :
    holds "event" "Skipping invalid ACL line" (notice.event.record context) =
      notice.skipped?.isSome := by
  rw [holds_event_record]
  cases notice <;> rfl

theorem map_skipFields (notices : List Notice) :
    (named "Skipping invalid ACL line" (recordsIn context notices)).map skipFields =
      (notices.filterMap Notice.skipped?).map fun skipped =>
        (some (.nat skipped.1), some (.ofLoose skipped.2)) := by
  apply map_read_recordsIn holds_skipped
  intro notice skipped found
  have number : (notice.event.record context).get? "line_number" = _ :=
    Event.get?_record_of_own _ _ (by decide)
  have error : (notice.event.record context).get? "error" = _ :=
    Event.get?_record_of_own _ _ (by decide)
  rw [skipFields, number, error]
  cases notice with
  | lineSkipped number line message =>
    cases found
    rfl
  | _ => cases found

theorem holds_closing (notice : Notice) :
    holds "event" "ACL rules loaded" (notice.event.record context) = notice.isClosing := by
  rw [holds_event_record]
  cases notice <;> rfl

theorem named_closing_eq_nil {notices : List Notice}
    (opened : ∀ notice ∈ notices, notice.isClosing = false) :
    named "ACL rules loaded" (recordsIn context notices) = [] := by
  rw [named, recordsIn, List.filter_eq_nil_iff]
  intro record member
  obtain ⟨notice, found, rfl⟩ := List.mem_map.mp member
  rw [holds_closing, opened notice found]
  exact Bool.false_ne_true

theorem counts_record_loadedNotice (store : RuleStore) :
    Counts ((RuleText.loadedNotice store).event.record context) store where
  event := by rw [holds_closing]; rfl
  anonymous := Event.get?_record_of_own _ _ (by decide)
  users := by
    rw [RuleStore.userNames, List.length_map]
    exact Event.get?_record_of_own _ _ (by decide)
  userRules := Event.get?_record_of_own _ _ (by decide)

theorem holds_added (notice : Notice) :
    holds "event" "Authorization added" (notice.event.record context) =
      notice.added?.isSome := by
  rw [holds_event_record]
  cases notice <;> rfl

theorem holds_entered (notice : Notice) :
    holds "event" "Entering user section" (notice.event.record context) =
      (notice.directive?.bind Directive.user?).isSome := by
  rw [holds_event_record]
  cases notice <;> rfl

variable (nobody : shown? context.user = none)

include nobody

/-- Without a user in the context, a record has the user of its notice. -/
theorem get?_user_notice (notice : Notice) :
    (notice.event.record context).get? "user" = notice.section?.map Json.str := by
  rw [Event.get?_record_user, nobody, Notice.get?_user]
  rfl

theorem adds_record (principal : Principal) (notice : Notice) :
    adds principal (notice.event.record context) =
      (notice.added?.filter (·.1 = principal)).isSome := by
  have user := get?_user_notice nobody notice
  rw [adds.eq_def, holds_added]
  -- The user of the record tells whether the rule is one for a user at all, and for which one.
  cases notice with
  | ruleAdded owner rule =>
    cases owner <;> cases principal <;>
      simp [holds, user, Notice.added?, Notice.section?, Principal.user?, Option.filter,
        beq_eq_decide, apply_ite Option.isSome]
  | _ => rfl

theorem map_ruleFields (principal : Principal) (notices : List Notice) :
    ((recordsIn context notices).filter (adds principal)).map ruleFields =
      ((notices.filterMap Notice.added?).filter (·.1 = principal)).map fun added =>
        (some (.str added.2.filter), some (.str added.2.permission.name)) := by
  rw [List.filter_filterMap]
  apply map_read_recordsIn (adds_record nobody principal)
  intro notice added found
  have topic : (notice.event.record context).get? "topic" = _ :=
    Event.get?_record_of_own _ _ (by decide)
  have permission : (notice.event.record context).get? "permission" = _ :=
    Event.get?_record_of_own _ _ (by decide)
  rw [ruleFields, topic, permission]
  cases notice with
  | ruleAdded owner rule =>
    obtain ⟨rfl, _⟩ : (owner, rule) = added ∧ _ := by simpa [Notice.added?] using found
    cases owner <;> rfl
  | _ => cases found

theorem users_added (notices : List Notice) :
    ((named "Authorization added" (recordsIn context notices)).filterMap fun record =>
      (record.get? "user").bind Json.str?) =
      (notices.filterMap Notice.added?).filterMap (·.1.user?) := by
  have users : ((named "Authorization added" (recordsIn context notices)).map fun record =>
      (record.get? "user").bind Json.str?) =
      (notices.filterMap Notice.added?).map fun added => added.1.user? := by
    apply map_read_recordsIn holds_added
    intro notice added found
    rw [get?_user_notice nobody notice]
    cases notice with
    | ruleAdded owner rule =>
      cases found
      cases owner <;> rfl
    | _ => cases found
  simpa only [List.filterMap_map, Function.id_comp] using congrArg (List.filterMap id) users

theorem map_entered (notices : List Notice) :
    (named "Entering user section" (recordsIn context notices)).map (·.get? "user") =
      ((notices.filterMap Notice.directive?).filterMap Directive.user?).map (some ∘ Json.str) := by
  rw [List.filterMap_filterMap]
  apply map_read_recordsIn holds_entered
  intro notice user found
  rw [get?_user_notice nobody]
  cases notice <;> simp_all [Notice.directive?, Directive.user?, Notice.section?]

theorem lastEntered_recordsIn (notices : List Notice) : lastEntered (recordsIn context notices) =
    (lastUser (notices.filterMap Notice.directive?)).map Json.str := by
  have entered := congrArg List.getLast? (map_entered nobody notices)
  rw [List.getLast?_map, List.getLast?_map] at entered
  rw [lastEntered, entered, lastUser]
  cases ((notices.filterMap Notice.directive?).filterMap Directive.user?).getLast? <;> rfl

/-- Notices that begin with anonymous clients recount the rules of the directives that they tell. -/
theorem recounts_of_sectioned {notices : List Notice}
    (sectioned : Notice.Sectioned .anonymous notices) : Recounts (recordsIn context notices)
      (Collector.empty.applyAll (notices.filterMap Notice.directive?)).store := by
  have collected := Collector.Collected.empty.applyAll (notices.filterMap Notice.directive?)
  rw [List.nil_append] at collected
  constructor
  -- What the store holds and what is recorded are both read off the directives.
  case rules =>
    intro principal
    rw [map_ruleFields nobody, sectioned.added_eq, collected.rules, rulesFor, List.map_map]
    rfl
  case names => rw [users_added nobody, sectioned.added_eq, collected.names, namesFrom]
  case sections =>
    intro before record after split adds
    -- The records before that of a notice are those of the notices before it.
    obtain ⟨earlier, rest, same, rfl, behind⟩ := List.map_eq_append_iff.mp split
    obtain ⟨notice, later, rfl, rfl, rfl⟩ := List.map_eq_cons_iff.mp behind
    rw [holds_added, Option.isSome_iff_exists] at adds
    obtain ⟨added, found⟩ := adds
    rw [same] at sectioned
    rw [get?_user_notice nobody, sectioned.section?_eq found]
    exact (lastEntered_recordsIn nobody earlier).symm

end Recorded

end Log

namespace RuleText

/-! ### Loads -/

/-- The notices of lines that load recount the rules of the load. -/
theorem recounts_noticesFrom {strict : Bool} {lines : List String} {store : RuleStore}
    {context : Log.Context} (nobody : Log.shown? context.user = none)
    (loaded : (load strict lines).outcome = .ok store) :
    Log.Recounts (Log.recordsIn context (noticesFrom 1 .empty lines)) store := by
  have sectioned : Notice.Sectioned .anonymous (noticesFrom 1 .empty lines) :=
    sectioned_noticesFrom 1 .empty lines
  have recounts := Log.recounts_of_sectioned nobody sectioned
  rwa [directives_noticesFrom, store_of_load_ok loaded] at recounts

/-- Whatever comes of the load of a file, its notices recount rules, and these are the rules of the
load if it succeeds. -/
theorem exists_recounts_load (strict : Bool) (lines : List String) {context : Log.Context}
    (nobody : Log.shown? context.user = none) (path : Text.Loose) : ∃ store,
      Log.Recounts (Log.recordsIn context (.fileRead path :: (load strict lines).notices)) store ∧
      ∀ loaded, (load strict lines).outcome = .ok loaded → store = loaded := by
  obtain ⟨before, after, rest, split, notices, closing, complete⟩ :=
    exists_notices_load strict lines
  have sectioned : Notice.Sectioned .anonymous (.fileRead path :: noticesFrom 1 .empty before) :=
    ⟨by simp [Notice.added?], sectioned_noticesFrom 1 .empty before⟩
  have others : ∀ record ∈ Log.recordsIn context rest,
      Log.holds "event" "Authorization added" record = false := by
    intro record member
    obtain ⟨notice, found, rfl⟩ := List.mem_map.mp member
    rw [Log.holds_added, Notice.added?_of_isClosing (closing notice found)]
    rfl
  have recounts := (Log.recounts_of_sectioned nobody sectioned).append others
  have told : (Notice.fileRead path :: noticesFrom 1 .empty before).filterMap Notice.directive? =
      directives before := directives_noticesFrom 1 .empty before
  refine ⟨(Collector.empty.applyAll (directives before)).store, ?_, ?_⟩
  · rw [told] at recounts
    rw [notices, ← List.cons_append]
    simpa [Log.recordsIn] using recounts
  · intro loaded came
    obtain rfl := complete loaded came
    rw [List.append_nil] at split
    rw [← split, store_of_load_ok came]

/-- **The log of a load.** In a context without a user, a log that keeps all events recounts the
rules of a load that succeeds, and it ends with the only record that all lines have been read, which
counts them. A load that fails has no such record; what it leaves recounts the rules of the lines
before the one that is rejected. A lenient load has a record for each line that it reports, with the
number and the message of the report. -/
theorem load_recounted (strict : Bool) (lines : List String) {threshold : Log.Threshold}
    (keeps : threshold.keeps .debug = true) {context : Log.Context}
    (nobody : Log.shown? context.user = none) :
    let loading := load strict lines
    let log := Log.records threshold context (loading.notices.map (·.event))
    (∀ store, loading.outcome = .ok store → Log.Recounts log store ∧
      ∃ body closing, log = body ++ [closing] ∧ Log.Counts closing store ∧
        Log.named "ACL rules loaded" body = []) ∧
    (∀ problem, loading.outcome = .error problem →
      Log.named "ACL rules loaded" log = [] ∧
      ∃ before line after store, lines = before ++ line :: after ∧ Rejected line ∧
        (load strict before).outcome = .ok store ∧ Log.Recounts log store) ∧
    (strict = false → (Log.named "Skipping invalid ACL line" log).map Log.skipFields =
      loading.reported.map fun problem =>
        (problem.lineNumber?.map Json.int, some (.ofLoose problem.message))) := by
  intro loading log
  have kept : log = Log.recordsIn context loading.notices := by
    simp [log, Log.records_of_keeps_debug keeps, Log.recordsIn]
  rw [kept]
  refine ⟨?succeeds, ?fails, ?skips⟩
  case succeeds =>
    intro store loaded
    let body := Log.recordsIn context (noticesFrom 1 .empty lines)
    let closing := (loadedNotice store).event.record context
    have split : Log.recordsIn context loading.notices = body ++ [closing] := by
      rw [notices_load_of_ok loaded]
      exact List.map_append
    have others : ∀ record ∈ [closing], Log.holds "event" "Authorization added" record = false := by
      rintro record (_ | ⟨_, ⟨⟩⟩)
      exact Log.holds_added (loadedNotice store)
    rw [split]
    exact ⟨(recounts_noticesFrom nobody loaded).append others, body, closing, rfl,
      Log.counts_record_loadedNotice store,
      Log.named_closing_eq_nil (isClosing_of_mem_noticesFrom 1 .empty lines)⟩
  case fails =>
    intro problem failed
    obtain ⟨before, line, after, split, rejected, accepted, notices⟩ :=
      notices_load_of_error failed
    obtain ⟨store, loaded⟩ := exists_store_of_accepted accepted
    rw [notices]
    exact ⟨Log.named_closing_eq_nil (isClosing_of_mem_noticesFrom 1 .empty before),
      before, line, after, store, split, rejected, loaded, recounts_noticesFrom nobody loaded⟩
  case skips =>
    rintro rfl
    have loaded := loadFrom_lenient 1 (rfl : Collector.empty.isSealed = false) lines
    have reported : loading.reported = reportsFrom 1 lines := reported_loadFrom 1 rfl lines
    -- That all lines have been read is no line that is skipped.
    have skipped : loading.notices.filterMap Notice.skipped? =
        (noticesFrom 1 .empty lines).filterMap Notice.skipped? := by
      rw [notices_load_of_ok loaded, List.filterMap_append]
      exact List.append_nil _
    rw [Log.map_skipFields, skipped, skipped_noticesFrom, reported]

/-- The records of a user who has two sections stand apart in the log, and a line between them is
skipped. -/
theorem load_recounted_two_sections :
    let lines := ["topic read a/#", "user ann", "topic b", "nonsense", "user bob", "topic write c",
      "user ann", "topic read d"]
    let store : RuleStore :=
      { anonymous := [⟨"a/#", .read⟩]
        users := [("ann", [⟨"b", .readWrite⟩, ⟨"d", .read⟩]), ("bob", [⟨"c", .write⟩])] }
    let log := Log.records .everything { requestId := some "r" }
      ((load false lines).notices.map (·.event))
    Log.Recounts log store ∧
      (log.filter (Log.adds (.named "ann"))).map Log.ruleFields =
        [(some (.str "b"), some (.str "readwrite")), (some (.str "d"), some (.str "read"))] ∧
      (Log.named "Skipping invalid ACL line" log).map Log.skipFields =
        [(some (.nat 4), some (.str "invalid line definition found nonsense"))] := by
  intro lines store log
  have keeps : Log.Threshold.everything.keeps .debug = true := rfl
  have nobody : Log.shown? (Log.Context.user { requestId := some "r" }) = none := rfl
  obtain ⟨succeeds, _, skips⟩ := load_recounted false lines keeps nobody
  have recounts := (succeeds store rfl).1
  exact ⟨recounts, recounts.rules (.named "ann"), skips rfl⟩

end RuleText
end TopicAccess
