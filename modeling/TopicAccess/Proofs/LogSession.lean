import Mathlib.Data.List.Induction
import TopicAccess.Log.Session
import TopicAccess.Proofs.Lines
import TopicAccess.Proofs.Records

/-!
# What a log remembers

In a session the context is set and cleared between events. `Context.after_eq` says what it is after
any steps: the request identifier that was set last since the context was cleared last, and the last
user that is not empty. An empty identifier counts as one that was set, an empty user does not.

Not every event fits a log (`Event.Fits`). The main result, `logged_exact`, says what comes of an
event that does, anywhere in a session, and what its record has of the event and of the steps before
it (`RecordedAfter`).
-/
namespace TopicAccess.Log

/-! ### The steps that count -/

/-- The request identifier that a step sets: the one that is given, or a fresh one. -/
def Step.requestId? : Step → Option String
  | .setRequestId given fresh => some (given.getD fresh)
  | _ => none

/-- The user that a step sets. An empty one sets nothing. -/
def Step.user? : Step → Option String
  | .setUser (some name) => if name = "" then none else some name
  | _ => none

def Step.clears : Step → Bool
  | .clear => true
  | _ => false

/-- The steps since the context was cleared last, the latest first. -/
def sinceCleared (steps : List Step) : List Step :=
  steps.reverse.takeWhile (!·.clears)

def latestRequestId? (steps : List Step) : Option String :=
  (sinceCleared steps).findSome? Step.requestId?

def latestUser? (steps : List Step) : Option String :=
  (sinceCleared steps).findSome? Step.user?

theorem findSome?_sinceCleared_concat {α : Type} (set? : Step → Option α) (steps : List Step)
    (step : Step) : (sinceCleared (steps ++ [step])).findSome? set? =
      if step.clears then none else (set? step).or ((sinceCleared steps).findSome? set?) := by
  cases clears : step.clears
  · cases found : set? step <;> simp [sinceCleared, clears, found]
  · simp [sinceCleared, clears]

namespace Context

/-- The context after a step. To log an event leaves it as it is, whatever comes of the event. -/
def next (context : Context) : Step → Context
  | .setRequestId given fresh => context.setRequestId given fresh
  | .setUser user => context.setUser user
  | .clear => .empty
  | .log _ => context

def after (context : Context) (steps : List Step) : Context :=
  steps.foldl next context

/-- What a step does to a context. -/
theorem next_eq (context : Context) (step : Step) : context.next step =
    if step.clears then .empty
    else { requestId := step.requestId?.or context.requestId,
           user := step.user?.or context.user } := by
  cases step with
  | setUser user =>
    cases user with
    | none => rfl
    | some name =>
      by_cases empty : name = "" <;>
        simp [next, setUser, Step.clears, Step.requestId?, Step.user?, empty]
  | _ => rfl

/-- **What is remembered.** -/
theorem after_eq (steps : List Step) : Context.empty.after steps =
    { requestId := latestRequestId? steps, user := latestUser? steps } := by
  induction steps using List.reverseRecOn with
  | nil => rfl
  | append_singleton steps step ih =>
    rw [after, List.foldl_concat, ← after, ih, next_eq]
    simp only [latestRequestId?, latestUser?, findSome?_sinceCleared_concat]
    cases step.clears <;> rfl

end Context

/-! ### Events that fit -/

/-- The fields that are set by the log, or that ask something of it. -/
def reservedFields : List String :=
  ["event", "level", "logger", "timestamp", "positional_args", "exc_info", "stack_info"]

/-- The fields by which an event gives again what is given by place. -/
def placedFields : List String := ["self", "method_name"]

/-- An event fits a log when it has no reserved field and gives nothing again. If it is kept, no
field of it says that something without a logger made it, and its fields can be written. -/
structure Event.Fits (limits : Json.Limits) (threshold : Threshold) (event : Event) : Prop where
  free : ∀ field ∈ event.fields, field.1 ∉ reservedFields
  unplaced : ∀ field ∈ event.fields, field.1 ∉ placedFields
  unowned : threshold.keeps event.severity = true →
    ∀ owner, event.fields.get? "_record" = some owner → owner = .null
  written : threshold.keeps event.severity = true →
    (Json.obj event.fields).writeFault? limits = none

section Written

variable {digits depth : Nat} {fields : Json.Fields}

/-- To set a member to a text is nothing that a writer fails at. -/
theorem membersFault?_insert_str (written : Json.membersFault? digits depth fields = none)
    (name text : String) :
    Json.membersFault? digits depth (fields.insert name (.str text)) = none := by
  rw [Json.Fields.insert]
  induction fields with
  | nil => rfl
  | cons member rest ih =>
    obtain ⟨held, old⟩ := member
    rw [Json.membersFault?, Option.or_eq_none_iff] at written
    by_cases found : held = name
    · simp [Json.setMember, found, Json.membersFault?, Json.faultWithin?, written.2]
    · simp [Json.setMember, found, Json.membersFault?, written.1, ih written.2]

theorem membersFault?_insertText (written : Json.membersFault? digits depth fields = none)
    (name : String) (text : Option String) :
    Json.membersFault? digits depth (insertText fields name text) = none := by
  unfold insertText
  split
  · exact written
  · split
    · exact written
    · exact membersFault?_insert_str written _ _

/-- What the log sets can be written, so a record can be written if the event's own fields can. -/
theorem writeFault?_record {limits : Json.Limits} {event : Event}
    (written : (Json.obj event.fields).writeFault? limits = none) (context : Context) :
    (Json.obj (event.record context)).writeFault? limits = none := by
  unfold Json.writeFault? Json.faultWithin? at written ⊢
  cases room : limits.depth with
  | zero => simp [room] at written
  | succ depth =>
    simp only [room] at written ⊢
    refine membersFault?_insertText (membersFault?_insertText ?_ _ _) _ _
    have named := membersFault?_insert_str (membersFault?_insert_str (membersFault?_insert_str
      written "event" event.name) "logger" event.loggerName) "level" event.severity.name
    split
    · exact membersFault?_insert_str named _ _
    · exact named

end Written

namespace Event.Fits

variable {limits : Json.Limits} {threshold : Threshold} {event : Event}
  (fits : event.Fits limits threshold)
include fits

theorem get?_reserved {name : String} (reserved : name ∈ reservedFields) :
    event.fields.get? name = none := by
  apply List.lookup_eq_none_iff.mpr
  intro field member
  have differs : name ≠ field.1 := fun same => fits.free field member (same ▸ reserved)
  simpa using differs

theorem settle_eq : event.settle = .ok event := by
  -- Nothing fills the places in the name, and no field asks something of the log.
  have noFilling : event.fields.get? fillingField = none := fits.get?_reserved (by decide)
  have kept : (event.fields.filter fun field => !requestFields.contains field.1) =
      event.fields := by
    rw [List.filter_eq_self]
    intro field member
    have plain := fits.free field member
    simp only [reservedFields, List.mem_cons, List.not_mem_nil, or_false, not_or] at plain
    simp [requestFields, plain]
  simp only [Event.settle, noFilling, Option.getD_none, kept]
  rfl

theorem fieldsFault?_eq_none : event.fieldsFault? = none := by
  simp only [Event.fieldsFault?, Arguments.repeated?, Option.or_eq_none_iff,
    Option.map_eq_none_iff, List.find?_eq_none, List.contains_iff_mem, List.mem_cons,
    List.not_mem_nil, or_false, not_or]
  have unplaced : ∀ field ∈ event.fields, field.1 ≠ "self" ∧ field.1 ≠ "method_name" := by
    simpa [placedFields] using fits.unplaced
  refine ⟨fun field member => ⟨(unplaced field member).1, ?_⟩,
    fun field member => (unplaced field member).2⟩
  exact fun same => fits.free field member (same ▸ by decide)

theorem ownerFault?_eq_none (kept : threshold.keeps event.severity = true) :
    event.ownerFault? = none := by
  unfold Event.ownerFault?
  split
  · rfl
  · rfl
  next owner present held => exact absurd (fits.unowned kept owner held) present

/-- An event that fits is recorded if the log keeps events of its severity. -/
theorem logged_eq (context : Context) :
    logged limits threshold context event = .ok (records threshold context [event]) := by
  rw [logged, fits.fieldsFault?_eq_none]
  cases kept : threshold.keeps event.severity with
  | false => simp [records, kept]
  | true =>
    have written := writeFault?_record (fits.written kept) context
    simp [fits.ownerFault?_eq_none kept, fits.settle_eq, written, records, kept]

end Event.Fits

/-! ### Sessions -/

variable {limits : Json.Limits} {threshold : Threshold} {context : Context}

theorem step_eq_ok {step : Step} {after : Context} {reply : Reply}
    (taken : Log.step limits threshold context step = .ok (after, reply)) :
    after = context.next step := by
  cases step with
  | log event =>
    simp only [Log.step] at taken
    cases found : logged limits threshold context event <;>
      simp_all [Except.map, Context.next]
  | _ => cases taken; rfl

theorem run_cons_eq_ok_iff {step : Step} {rest : List Step} {replies : List Reply} :
    run limits threshold context (step :: rest) = .ok replies ↔ ∃ reply others,
      Log.step limits threshold context step = .ok (context.next step, reply) ∧
      run limits threshold (context.next step) rest = .ok others ∧ replies = reply :: others := by
  rw [run]
  cases taken : Log.step limits threshold context step with
  | error fault => simp
  | ok result =>
    obtain ⟨after, reply⟩ := result
    obtain rfl := step_eq_ok taken
    cases later : run limits threshold (context.next step) rest with
    | error fault => simp [later, Except.map]
    | ok others => simp [later, Except.map, eq_comm]

/-- The reply to an event is what is kept of it in the context of the moment. -/
theorem reply_run {before after : List Step} {event : Event} {replies : List Reply}
    (ran : run limits threshold context (before ++ .log event :: after) = .ok replies) :
    ∃ records, logged limits threshold (context.after before) event = .ok records ∧
      replies[before.length]? = some (.kept records) := by
  -- Each step before the event gives one reply, and leaves the context that the others begin with.
  induction before generalizing context replies with
  | nil =>
    obtain ⟨reply, others, taken, _, rfl⟩ := run_cons_eq_ok_iff.mp ran
    cases found : logged limits threshold context event with
    | error fault => simp [Log.step, found, Except.map] at taken
    | ok records =>
      simp only [Log.step, found, Except.map, Except.ok.injEq, Prod.mk.injEq] at taken
      exact ⟨records, found, by simp [← taken.2]⟩
  | cons step before ih =>
    obtain ⟨reply, others, _, later, rfl⟩ := run_cons_eq_ok_iff.mp ran
    exact ih later

theorem exists_step_iff (step : Step) :
    (∃ reply, Log.step limits threshold context step = .ok (context.next step, reply)) ↔
      ∀ event, step = .log event →
        ∃ records, logged limits threshold context event = .ok records := by
  cases step with
  | log event =>
    simp only [Step.log.injEq, forall_eq']
    cases found : logged limits threshold context event <;>
      simp [Log.step, found, Except.map, Context.next]
  | _ => simp [Log.step, Context.next]

/-- A session comes to its end when no event in it fails in the context of its moment. -/
theorem exists_run_iff (steps : List Step) :
    (∃ replies, run limits threshold context steps = .ok replies) ↔
      ∀ earlier event later, steps = earlier ++ .log event :: later →
        ∃ records, logged limits threshold (context.after earlier) event = .ok records := by
  induction steps generalizing context with
  | nil => simp [run]
  | cons step rest ih =>
    have both : (∃ replies, run limits threshold context (step :: rest) = .ok replies) ↔
        (∃ reply, Log.step limits threshold context step = .ok (context.next step, reply)) ∧
        ∃ others, run limits threshold (context.next step) rest = .ok others := by
      simp only [run_cons_eq_ok_iff]
      constructor
      · rintro ⟨_, reply, others, taken, later, _⟩
        exact ⟨⟨reply, taken⟩, others, later⟩
      · rintro ⟨⟨reply, taken⟩, others, later⟩
        exact ⟨_, reply, others, taken, later, rfl⟩
    rw [both, exists_step_iff, ih]
    constructor
    -- An event is the first step, or it stands behind the first step.
    · rintro ⟨here, there⟩ earlier event later whole
      cases earlier with
      | nil => exact here event (List.cons.inj whole).1
      | cons first earlier =>
        obtain ⟨rfl, behind⟩ := List.cons.inj whole
        exact there earlier event later behind
    · intro every
      refine ⟨?_, fun earlier event later behind => ?_⟩
      · rintro event rfl
        exact every [] event rest rfl
      · exact every (step :: earlier) event later (congrArg (step :: ·) behind)

/-- A session in which all events fit comes to its end. -/
theorem exists_run_of_fits {steps : List Step}
    (fit : ∀ event, .log event ∈ steps → event.Fits limits threshold) :
    ∃ replies, run limits threshold context steps = .ok replies := by
  rw [exists_run_iff]
  rintro earlier event later rfl
  exact ⟨_, (fit event (by simp)).logged_eq _⟩

/-! ### Records -/

theorem serviceOf?_eq_none {logger : String} (whole : '.' ∉ logger.toList) :
    serviceOf? logger = none := by
  rw [serviceOf?, Text.splitAt_of_not_mem whole]

theorem serviceOf?_eq_some {logger : String} {part rest : List Char}
    (split : logger.toList = part ++ '.' :: rest) (free : '.' ∉ part) :
    serviceOf? logger = some (String.ofList part) := by
  obtain ⟨next, others, found⟩ := List.exists_cons_of_ne_nil (Text.splitAt_ne_nil '.' rest)
  rw [serviceOf?, split, Text.splitAt_append free, found]

/-- What a record has of its event and of the steps before it. -/
structure RecordedAfter (before : List Step) (event : Event) (record : Json.Fields) : Prop where
  name : record.get? "event" = some (.str event.name)
  severity : record.get? "level" = some (.str event.severity.name)
  logger : record.get? "logger" = some (.str event.loggerName)
  requestId : ∀ id, latestRequestId? before = some id → id ≠ "" →
    record.get? "request_id" = some (.str id)
  noRequestId : latestRequestId? before = none ∨ latestRequestId? before = some "" →
    record.get? "request_id" = event.fields.get? "request_id"
  user : ∀ name, latestUser? before = some name → record.get? "user" = some (.str name)
  noUser : latestUser? before = none → record.get? "user" = event.fields.get? "user"
  service : ∀ part rest, event.logger.toList = part ++ '.' :: rest → '.' ∉ part →
    record.get? "service" = some (.str (String.ofList part))
  noService : '.' ∉ event.logger.toList → record.get? "service" = event.fields.get? "service"
  own : ∀ name ∉ setFields, record.get? name = event.fields.get? name

theorem ne_empty_of_latestUser? {steps : List Step} {name : String}
    (latest : latestUser? steps = some name) : name ≠ "" := by
  obtain ⟨step, _, sets⟩ := List.exists_of_findSome?_eq_some latest
  cases step with
  | setUser user =>
    cases user with
    | none => cases sets
    | some user =>
      by_cases empty : user = "" <;> simp [Step.user?, empty] at sets
      exact sets ▸ empty
  | _ => cases sets

theorem recordedAfter_record (before : List Step) (event : Event) :
    RecordedAfter before event (event.record (Context.empty.after before)) where
  name := event.get?_record_event _
  severity := event.get?_record_level _
  logger := event.get?_record_logger _
  requestId id latest nonempty := by
    simp [Context.after_eq, latest, shown?, nonempty]
  noRequestId absent := by
    -- An identifier that is empty is set, but it is not shown.
    rcases absent with latest | latest <;> simp [Context.after_eq, latest, shown?]
  user name latest := by
    simp [Context.after_eq, latest, shown?, ne_empty_of_latestUser? latest]
  noUser latest := by
    simp [Context.after_eq, latest, shown?]
  service part rest split free := by
    -- A logger whose name has a point is not one without a name.
    have named : event.loggerName = event.logger := by
      rw [Event.loggerName, if_neg]
      rintro none
      simp [none] at split
    simp [named, serviceOf?_eq_some split free]
  noService whole := by
    have unserved : serviceOf? event.loggerName = none := by
      unfold Event.loggerName
      split
      · rfl
      · exact serviceOf?_eq_none whole
    simp [unserved]
  own name other := event.get?_record_of_own _ other

/-- **What comes of an event.** An event that fits, anywhere in a session, is recorded if the log
keeps events of its severity, and not if it does not. The record has the request identifier that was
set last since the context was cleared last unless it is empty, the last user since then that is not
empty, and the part of the logger's name before its first point; each of these is the event's own
field where there is none. All other fields are the event's own. A session comes to its end when no
event in it fails, and then this is the reply to the event. -/
theorem logged_exact (limits : Json.Limits) (threshold : Threshold) (before after : List Step)
    (event : Event) (fits : event.Fits limits threshold) :
    let outcome := logged limits threshold (Context.empty.after before) event
    let session := before ++ .log event :: after
    (∃ records, outcome = .ok records ∧
      (threshold.rank ≤ event.severity.rank →
        ∃ record, records = [record] ∧ RecordedAfter before event record) ∧
      (event.severity.rank < threshold.rank → records = [])) ∧
    ((∃ replies, run limits threshold .empty session = .ok replies) ↔
      ∀ earlier other later, session = earlier ++ .log other :: later →
        ∃ records, logged limits threshold (Context.empty.after earlier) other = .ok records) ∧
    ∀ replies, run limits threshold .empty session = .ok replies →
      ∃ records, outcome = .ok records ∧ replies[before.length]? = some (.kept records) := by
  intro outcome session
  refine ⟨⟨_, fits.logged_eq _, fun serious => ?_, fun minor => ?_⟩, exists_run_iff session,
    fun replies ran => reply_run ran⟩
  · have kept : threshold.keeps event.severity = true := by simpa [Threshold.keeps] using serious
    exact ⟨_, by simp [records, kept], recordedAfter_record before event⟩
  · have dropped : threshold.keeps event.severity = false := by
      simpa [Threshold.keeps] using minor
    simp [records, dropped]

/-- An empty identifier takes the place of the one before it, and an empty user does not. -/
theorem logged_exact_empty_texts :
    let limits : Json.Limits := ⟨10, 100⟩
    let before : List Step := [.setRequestId (some "r") "f", .setUser (some "bob"),
      .setRequestId (some "") "f", .setUser (some "")]
    let event : Event := ⟨"acl.x", .info, "e", [("request_id", .str "own"), ("user", .str "own"),
      ("_record", .null), ("size", .arr [.int 12])]⟩
    event.Fits limits ⟨2⟩ ∧ ∃ replies record,
      run limits ⟨2⟩ .empty (before ++ [.log event]) = .ok replies ∧
      replies[4]? = some (.kept [record]) ∧ record.get? "request_id" = some (.str "own") ∧
      record.get? "user" = some (.str "bob") ∧ record.get? "service" = some (.str "acl") ∧
      record.get? "size" = some (.arr [.int 12]) := by
  intro limits before event
  have fits : event.Fits limits ⟨2⟩ := by
    constructor
    case free => simp [event, reservedFields]
    case unplaced => simp [event, placedFields]
    case unowned =>
      rintro _ owner ⟨⟩
      rfl
    case written => exact fun _ => rfl
  obtain ⟨⟨records, logged, emitted, _⟩, _, ended⟩ := logged_exact limits ⟨2⟩ before [] event fits
  obtain ⟨record, rfl, recorded⟩ := emitted (by decide)
  obtain ⟨replies, ran⟩ :
      ∃ replies, run limits ⟨2⟩ .empty (before ++ [.log event]) = .ok replies := by
    apply exists_run_of_fits
    intro other member
    obtain rfl : other = event := by simpa [before] using member
    exact fits
  obtain ⟨kept, logged', reply⟩ := ended replies ran
  obtain rfl : [record] = kept := Except.ok.inj (logged.symm.trans logged')
  exact ⟨fits, replies, record, ran, reply, recorded.noRequestId (.inr rfl), recorded.user _ rfl,
    recorded.service ['a', 'c', 'l'] ['x'] (by decide) (by decide), recorded.own _ (by decide)⟩

/-- The reserved fields are not all that an event may not have: with some others it fails, and so it
does with a value that cannot be written, however serious it is. -/
theorem logged_unfit_fields :
    let limits : Json.Limits := ⟨10, 2⟩
    (∀ field ∈ [("self", .int 5), ("method_name", .int 5), ("_record", .int 5), ("n", .int 100)],
      field.1 ∉ reservedFields ∧
      ∃ fault, run limits ⟨2⟩ .empty [.log ⟨"a.b", .info, "e", [field]⟩] = .error fault) ∧
    ¬∀ (limits : Json.Limits) (threshold : Threshold) (event : Event),
      (∀ field ∈ event.fields, field.1 ∉ reservedFields) →
      threshold.rank ≤ event.severity.rank →
      ∃ record, run limits threshold .empty [.log event] = .ok [.kept [record]] := by
  intro limits
  constructor
  · intro field member
    simp only [List.mem_cons, List.not_mem_nil, or_false] at member
    rcases member with rfl | rfl | rfl | rfl <;> exact ⟨by decide, _, rfl⟩
  -- The field is for the log's own use, and a number in it has no logger to name.
  · intro every
    obtain ⟨record, ran⟩ := every limits ⟨2⟩ ⟨"a.b", .info, "e", [("_record", .int 5)]⟩
      (by simp [reservedFields]) (by decide)
    cases ran

end TopicAccess.Log
