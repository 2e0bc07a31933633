import TopicAccess.Proofs.Collection
import TopicAccess.Proofs.Lines
import TopicAccess.RuleFile

/-!
# What loading takes over

A line of rule text says at most one directive, and the rules that a load gives are those that the
directives of its lines make of an empty collector: `loadFrom_lenient` for lenient loading, and
`collected_of_load_ok` for any load that succeeds. The lines of a file hold no line ends, so what
such a line has to say is what stands behind its indentation (`content?_eq_some_iff`).
-/
namespace TopicAccess

theorem toOption_eq_some_iff {ε α : Type} (result : Except ε α) (value : α) :
    result.toOption = some value ↔ result = .ok value := by
  cases result <;> simp [Except.toOption]

namespace RuleText

open Directive (rulesFor ownerAfter)

/-! ### What a line has to say -/

/-- A line that is neither blank nor a comment, and the text behind its indentation. -/
structure Says (line content : List Char) : Prop where
  indented : ∃ indent, line = indent ++ content ∧ ∀ c ∈ indent, Text.isIndent c = true
  begins : ∃ first, content.head? = some first ∧ Text.isIndent first = false ∧ first ≠ '#'

theorem withoutEnd_of_forall {line : List Char} (ends : ∀ c ∈ line, Text.isLineEnd c = false) :
    withoutEnd line = line := by
  have kept : line.reverse.dropWhile Text.isLineEnd = line.reverse := by
    cases reversed : line.reverse with
    | nil => rfl
    | cons c rest =>
      have last : c ∈ line := List.mem_reverse.mp (by rw [reversed]; exact List.mem_cons_self)
      exact List.dropWhile_cons_of_neg (by simp [ends c last])
  rw [withoutEnd, Text.dropTail, kept, List.reverse_reverse]

theorem content?_eq_some_iff_withoutEnd (line content : List Char) :
    content? line = some content ↔ Says (withoutEnd line) content := by
  unfold content?
  constructor
  -- What `dropWhile` leaves begins with a character that is no indentation.
  · intro said
    have divided := List.takeWhile_append_dropWhile (p := Text.isIndent) (l := withoutEnd line)
    have solid := List.head?_dropWhile_not Text.isIndent (withoutEnd line)
    split at said
    · cases said
    next first rest found =>
      split at said
      · cases said
      next differs =>
        cases said
        rw [found] at divided solid
        exact ⟨⟨_, divided.symm, List.all_eq_true.mp List.all_takeWhile⟩,
          first, rfl, by simpa using solid, differs⟩
  · rintro ⟨⟨indent, divided, blank⟩, first, begins, solid, differs⟩
    obtain ⟨rest, rfl⟩ := List.head?_eq_some_iff.mp begins
    rw [divided, List.dropWhile_append_of_pos blank, List.dropWhile_cons_of_neg (by simp [solid])]
    exact if_neg differs

theorem content?_eq_some_iff {line : List Char} (ends : ∀ c ∈ line, Text.isLineEnd c = false)
    (content : List Char) : content? line = some content ↔ Says line content := by
  rw [content?_eq_some_iff_withoutEnd, withoutEnd_of_forall ends]

/-- What a line of rule text says, if it is taken over. -/
def directive? (line : String) : Option Directive :=
  (content? line.toList).bind fun content => (Directive.ofLine (String.ofList content)).toOption

/-- The directives of the lines that are taken over. -/
def directives (lines : List String) : List Directive :=
  lines.filterMap directive?

theorem directives_append (before after : List String) :
    directives (before ++ after) = directives before ++ directives after :=
  List.filterMap_append

theorem directive?_eq_some_iff (line : String) (directive : Directive) :
    directive? line = some directive ↔ ∃ content, content? line.toList = some content ∧
      Directive.ofLine (String.ofList content) = .ok directive := by
  simp only [directive?, Option.bind_eq_some_iff, toOption_eq_some_iff]

/-- A line that can be read behind its indentation, and in which no line ends, is taken over. -/
theorem directive?_of_ofLine {line content : String} {indent : List Char}
    (endless : ∀ c ∈ line.toList, Text.isLineEnd c = false)
    (split : line.toList = indent ++ content.toList) (blank : ∀ c ∈ indent, Text.isIndent c = true)
    {directive : Directive} (read : Directive.ofLine content = .ok directive) :
    directive? line = some directive := by
  obtain ⟨form, written⟩ := (Directive.ofChars_eq_ok_iff _ _).mp read
  have spoken : Says line.toList content.toList := ⟨⟨indent, split, blank⟩, written.begins⟩
  have said := (content?_eq_some_iff endless content.toList).mpr spoken
  exact (directive?_eq_some_iff _ _).mpr ⟨content.toList, said, by rwa [String.ofList_toList]⟩

/-- A rule belongs to a principal when some line states it and the lines before that line leave the
reader in the section of the principal. -/
theorem mem_rulesFor_directives_iff (principal owner : Principal) (lines : List String)
    (rule : Rule) : rule ∈ rulesFor principal owner (directives lines) ↔
      ∃ before line after, lines = before ++ line :: after ∧
        directive? line = some (.grant rule) ∧ ownerAfter owner (directives before) = principal := by
  rw [Directive.mem_rulesFor_iff]
  constructor
  · rintro ⟨said, later, split, owned⟩
    obtain ⟨before, rest, rfl, rfl, split'⟩ := List.filterMap_eq_append_iff.mp split
    obtain ⟨silent, line, after, rfl, nothing, states, _⟩ := List.filterMap_eq_cons_iff.mp split'
    refine ⟨before ++ silent, line, after, by simp, states, ?_⟩
    have none : directives silent = [] := List.filterMap_eq_nil_iff.mpr nothing
    rw [directives_append, none, List.append_nil]
    exact owned
  · rintro ⟨before, line, after, rfl, states, owned⟩
    refine ⟨directives before, directives after, ?_, owned⟩
    rw [directives_append]
    simp [directives, states]

/-- What a rejected line has to say, and why it is no directive. -/
def rejection? (line : String) : Option (String × LineFault) :=
  (content? line.toList).bind fun content =>
    match Directive.ofLine (String.ofList content) with
    | .ok _ => none
    | .error fault => some (String.ofList content, fault)

theorem rejection?_eq_some_iff (line content : String) (fault : LineFault) :
    rejection? line = some (content, fault) ↔
      content? line.toList = some content.toList ∧ Directive.ofLine content = .error fault := by
  rw [rejection?, Option.bind_eq_some_iff]
  constructor
  · rintro ⟨chars, stands, found⟩
    split at found
    · cases found
    next read =>
      cases found
      exact ⟨by simpa using stands, read⟩
  · rintro ⟨stands, read⟩
    exact ⟨content.toList, stands, by simp [read]⟩

/-- A rejected line is not taken over. -/
theorem directive?_of_rejection? {line content : String} {fault : LineFault}
    (rejected : rejection? line = some (content, fault)) : directive? line = none := by
  obtain ⟨said, read⟩ := (rejection?_eq_some_iff line content fault).mp rejected
  simp [directive?, said, read, Except.toOption]

/-! ### One line of a load -/

@[simp] theorem Loading.outcome_noting (notice : Notice) (later : Loading) :
    (later.noting notice).outcome = later.outcome := rfl

@[simp] theorem Loading.reported_noting (notice : Notice) (later : Loading) :
    (later.noting notice).reported = later.reported := rfl

@[simp] theorem Loading.outcome_reporting (problem : Problem) (later : Loading) :
    (later.reporting problem).outcome = later.outcome := rfl

@[simp] theorem Loading.reported_reporting (problem : Problem) (later : Loading) :
    (later.reporting problem).reported = problem :: later.reported := rfl

section Line

variable {collector : Collector} (unsealed : collector.isSealed = false) (strict : Bool)
  (number : Nat) {line : String} (rest : List String)

include unsealed

/-- A line that is not rejected is not reported, and what it says goes to the collector. -/
theorem loadFrom_accepted (accepted : rejection? line = none) :
    let here := loadFrom strict number collector (line :: rest)
    let later := loadFrom strict (number + 1) (collector.applyAll (directive? line).toList) rest
    here.outcome = later.outcome ∧ here.reported = later.reported := by
  cases said : content? line.toList with
  | none => simp [loadFrom, said, directive?, Collector.applyAll]
  | some content =>
    cases read : Directive.ofLine (String.ofList content) with
    | error fault => simp [rejection?, said, read] at accepted
    | ok directive =>
      have fed := (collector.feed_eq_ok_iff (String.ofList content) _ _).mpr
        ⟨unsealed, directive, read, rfl, rfl⟩
      simp [loadFrom, said, fed, directive?, read, Except.toOption, Collector.applyAll]

/-- A rejected line is reported with its number. Strict loading fails with that report, and lenient
loading goes on as if the line were not there. -/
theorem loadFrom_rejected {content : String} {fault : LineFault}
    (rejected : rejection? line = some (content, fault)) :
    let problem := (fault.problem content).atLine number
    let here := loadFrom strict number collector (line :: rest)
    let later := loadFrom false (number + 1) collector rest
    if strict then here.outcome = .error problem ∧ here.reported = [problem]
    else here.outcome = later.outcome ∧ here.reported = problem :: later.reported := by
  obtain ⟨said, read⟩ := (rejection?_eq_some_iff line content fault).mp rejected
  have fed := (collector.feed_eq_error_iff content _ _).mpr
    ⟨rfl, .inr ⟨unsealed, fault, read, rfl⟩⟩
  cases strict <;> simp [loadFrom, said, fed]

end Line

/-! ### Loading -/

theorem directives_cons (line : String) (rest : List String) :
    directives (line :: rest) = (directive? line).toList ++ directives rest := by
  cases said : directive? line <;> simp [directives, said]

/-- Lenient loading always gives the rules of the lines that are taken over. -/
theorem loadFrom_lenient (number : Nat) {collector : Collector}
    (unsealed : collector.isSealed = false) (lines : List String) :
    (loadFrom false number collector lines).outcome =
      .ok (collector.applyAll (directives lines)).store := by
  induction lines generalizing number collector with
  | nil => rfl
  | cons line rest ih =>
    rw [directives_cons, Collector.applyAll_append]
    cases judged : rejection? line with
    | none =>
      rw [(loadFrom_accepted unsealed false number rest judged).1]
      exact ih (number + 1) (by simpa using unsealed)
    -- A line that is rejected leaves the collector as it is and says no directive.
    | some rejection =>
      rw [(loadFrom_rejected unsealed false number rest judged).1, directive?_of_rejection? judged]
      exact ih (number + 1) unsealed

/-- Strict loading succeeds with the rules of lenient loading, if it succeeds. -/
theorem loadFrom_strict (number : Nat) (collector : Collector) (lines : List String)
    {store : RuleStore} (loaded : (loadFrom true number collector lines).outcome = .ok store) :
    (loadFrom false number collector lines).outcome = .ok store := by
  induction lines generalizing number collector with
  | nil => exact loaded
  | cons line rest ih =>
    unfold loadFrom at loaded ⊢
    -- The two loads go the same way until a line is rejected, and strict loading fails there.
    split at loaded
    next silent => simpa [silent] using ih _ _ loaded
    next content said =>
      split at loaded
      next after notice fed => simpa [fed] using ih _ _ loaded
      next after problem fed => cases loaded

/-- Whatever load succeeds gives what the lines that are taken over make of an empty collector. -/
theorem store_of_load_ok {strict : Bool} {lines : List String} {store : RuleStore}
    (loaded : (load strict lines).outcome = .ok store) :
    (Collector.empty.applyAll (directives lines)).store = store := by
  have lenient : (load false lines).outcome = .ok store := by
    cases strict with
    | true => exact loadFrom_strict 1 .empty lines loaded
    | false => exact loaded
  exact Except.ok.inj ((loadFrom_lenient 1 rfl lines).symm.trans lenient)

/-- Whatever load succeeds gives the rules of the lines that are taken over. -/
theorem collected_of_load_ok {strict : Bool} {lines : List String} {store : RuleStore}
    (loaded : (load strict lines).outcome = .ok store) :
    ∃ collector, Collector.Collected (directives lines) collector ∧ collector.store = store :=
  ⟨_, Collector.Collected.empty.applyAll (directives lines), store_of_load_ok loaded⟩

end RuleText
end TopicAccess
