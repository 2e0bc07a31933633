import Mathlib.Tactic.Common
import TopicAccess.Log.Event

/-!
# Reading records

A record is made of an event's own fields, and of some that the log sets: what has happened and how
serious it is, where it was logged, and what the context holds. `Log.Event.get?_record_user` and its
neighbours say which of the two a field of a record is. A field that the log does not set is the
event's own (`Log.Event.get?_record_of_own`).
-/
namespace TopicAccess

/-! ### Members -/

theorem Json.lookup_setMember (name other : String) (value : Json)
    (members : List (String × Json)) : (setMember name value members).lookup other =
      if other = name then some value else members.lookup other := by
  induction members with
  | nil =>
    by_cases same : other = name
    · simp [setMember, same]
    · have differs : (other == name) = false := by simpa using same
      simp [setMember, List.lookup_cons, same, differs]
  | cons member rest ih =>
    obtain ⟨held, old⟩ := member
    by_cases here : other = held
    -- The first member is the one that is looked up, whether it is set or stays.
    · subst here
      by_cases found : other = name <;> simp [setMember, found]
    · have differs : (other == held) = false := by simpa using here
      by_cases found : held = name
      · subst found
        simp [setMember, List.lookup_cons, here, differs]
      · simp [setMember, List.lookup_cons, found, differs, ih]

@[simp] theorem Json.Fields.get?_insert (fields : Json.Fields) (name other : String)
    (value : Json) : (fields.insert name value).get? other =
      if other = name then some value else fields.get? other :=
  lookup_setMember name other value fields

namespace Log

/-- A text that is recorded when it is there and not empty. -/
def shown? : Option String → Option String
  | none => none
  | some text => if text = "" then none else some text

@[simp] theorem get?_insertText (fields : Json.Fields) (name other : String)
    (text : Option String) : (insertText fields name text).get? other =
      if other = name then ((shown? text).map Json.str).or (fields.get? other)
      else fields.get? other := by
  cases text with
  | none => simp [insertText, shown?]
  | some text =>
    by_cases empty : text = ""
    · simp [insertText, shown?, empty]
    · by_cases same : other = name <;> simp [insertText, shown?, empty, same]

/-! ### Records -/

/-- The fields that the log sets. -/
def setFields : List String := ["event", "logger", "level", "service", "request_id", "user"]

namespace Event

variable (event : Event) (context : Context)

/-- The fields of an event after its service has been set, if its logger has one. -/
theorem record_eq : ∃ served : Json.Fields, event.record context =
    insertText (insertText served "request_id" context.requestId) "user" context.user ∧
    ∀ name, name ≠ "service" → served.get? name =
      (((event.fields.insert "event" (.str event.name)).insert "logger"
        (.str event.loggerName)).insert "level" (.str event.severity.name)).get? name := by
  refine ⟨_, rfl, ?_⟩
  intro name other
  split
  -- The service is another field than the one that is looked up.
  · rw [Json.Fields.get?_insert, if_neg other]
  · rfl

@[simp] theorem get?_record_event :
    (event.record context).get? "event" = some (.str event.name) := by
  obtain ⟨served, same, others⟩ := event.record_eq context
  simp [same, others]

@[simp] theorem get?_record_level :
    (event.record context).get? "level" = some (.str event.severity.name) := by
  obtain ⟨served, same, others⟩ := event.record_eq context
  simp [same, others]

@[simp] theorem get?_record_logger :
    (event.record context).get? "logger" = some (.str event.loggerName) := by
  obtain ⟨served, same, others⟩ := event.record_eq context
  simp [same, others]

@[simp] theorem get?_record_service : (event.record context).get? "service" =
    ((serviceOf? event.loggerName).map Json.str).or (event.fields.get? "service") := by
  unfold record
  cases serviceOf? event.loggerName <;> simp

@[simp] theorem get?_record_requestId : (event.record context).get? "request_id" =
    ((shown? context.requestId).map Json.str).or (event.fields.get? "request_id") := by
  obtain ⟨served, same, others⟩ := event.record_eq context
  simp [same, others]

@[simp] theorem get?_record_user : (event.record context).get? "user" =
    ((shown? context.user).map Json.str).or (event.fields.get? "user") := by
  obtain ⟨served, same, others⟩ := event.record_eq context
  simp [same, others]

theorem get?_record_of_own {name : String} (own : name ∉ setFields) :
    (event.record context).get? name = event.fields.get? name := by
  obtain ⟨served, same, others⟩ := event.record_eq context
  simp only [setFields, List.mem_cons, List.not_mem_nil, or_false, not_or] at own
  obtain ⟨noEvent, noLogger, noLevel, noService, noRequest, noUser⟩ := own
  simp [same, others name noService, noEvent, noLogger, noLevel, noRequest, noUser]

end Event

theorem mem_records_iff (threshold : Threshold) (context : Context) (events : List Event)
    (record : Json.Fields) : record ∈ records threshold context events ↔
      ∃ event ∈ events, threshold.keeps event.severity = true ∧
        event.record context = record := by
  simp [records, and_assoc]

/-- Of one event there is no other record than its own. -/
theorem eq_record_of_mem {threshold : Threshold} {context : Context} {event : Event}
    {record : Json.Fields} (member : record ∈ records threshold context [event]) :
    record = event.record context := by
  obtain ⟨other, found, _, rfl⟩ := (mem_records_iff _ _ _ _).mp member
  rw [List.mem_singleton.mp found]

/-- A log that keeps the least serious events keeps all. -/
theorem records_of_keeps_debug {threshold : Threshold} (keeps : threshold.keeps .debug = true)
    (context : Context) (events : List Event) :
    records threshold context events = events.map (·.record context) := by
  have all : ∀ event ∈ events, threshold.keeps event.severity = true := by
    intro event _
    simp only [Threshold.keeps, decide_eq_true_eq] at keeps ⊢
    refine Nat.le_trans keeps ?_
    cases event.severity <;> decide
  rw [records, List.filter_eq_self.mpr all]

/-! ### Logs -/

/-- Whether a field of a record is a given text. -/
def holds (field text : String) (record : Json.Fields) : Bool :=
  match record.get? field with
  | some (.str held) => held == text
  | _ => false

theorem holds_iff (field text : String) (record : Json.Fields) :
    holds field text record = true ↔ record.get? field = some (.str text) := by
  unfold holds
  split
  next held found => simp [found]
  next other =>
    simp only [Bool.false_eq_true, false_iff]
    exact fun found => other text found

/-- The records of the events of a name. -/
def named (name : String) (log : List Json.Fields) : List Json.Fields :=
  log.filter (holds "event" name)

@[simp] theorem holds_event_record (event : Event) (context : Context) (name : String) :
    holds "event" name (event.record context) = (event.name == name) := by
  simp [holds]

end Log
end TopicAccess
