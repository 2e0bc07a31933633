import Mathlib.Data.List.DropRight
import TopicAccess.Proofs.Loading

/-!
# Which lines are reported

Lenient loading reports every line that is rejected, in the order of the lines, and goes on as if
the line were not there. Strict loading reports the first of them and fails with it. Both are read
off what one line does to a load (`loadFrom_accepted`, `loadFrom_rejected`). The main result,
`load_agrees`, compares the two ways to load.
-/
namespace TopicAccess.RuleText

/-! ### What a line has to say, whatever ends it -/

/-- A line without its end: nothing but line ends is left out, and none is left at the end. -/
structure Ended (line body : List Char) : Prop where
  ended : ∃ ending, line = body ++ ending ∧ ∀ c ∈ ending, Text.isLineEnd c = true
  last : ∀ c, body.getLast? = some c → Text.isLineEnd c = false

theorem withoutEnd_eq_iff (line body : List Char) : withoutEnd line = body ↔ Ended line body := by
  have same : withoutEnd line = line.rdropWhile Text.isLineEnd := rfl
  rw [same]
  constructor
  · rintro rfl
    refine ⟨⟨_, List.rdropWhile_append_rtakeWhile.symm, fun c => List.mem_rtakeWhile_imp⟩, ?_⟩
    intro c found
    have nonempty : line.rdropWhile Text.isLineEnd ≠ [] := by
      intro empty
      simp [empty] at found
    rw [List.getLast?_eq_some_getLast nonempty, Option.some.injEq] at found
    simpa [found] using List.rdropWhile_last_not Text.isLineEnd line nonempty
  · rintro ⟨⟨ending, rfl, ends⟩, last⟩
    have kept : body.rdropWhile Text.isLineEnd = body := by
      apply List.rdropWhile_eq_self_iff.mpr
      intro nonempty
      simp [last _ (List.getLast?_eq_some_getLast nonempty)]
    have dropped : ∀ c ∈ ending.reverse, Text.isLineEnd c = true := fun c found =>
      ends c (List.mem_reverse.mp found)
    rw [List.rdropWhile, List.reverse_append, List.dropWhile_append_of_pos dropped]
    exact kept

/-- A line that is neither blank nor a comment, and the text between its indentation and its end. -/
def Tells (line content : List Char) : Prop :=
  ∃ body, Ended line body ∧ Says body content

theorem content?_eq_some_iff_tells (line content : List Char) :
    content? line = some content ↔ Tells line content := by
  rw [content?_eq_some_iff_withoutEnd]
  constructor
  · intro said
    exact ⟨_, (withoutEnd_eq_iff _ _).mp rfl, said⟩
  · rintro ⟨body, ended, said⟩
    rwa [(withoutEnd_eq_iff _ _).mpr ended]

/-! ### Rejected lines -/

/-- A line that has something to say, which is no directive. -/
def Rejected (line : String) : Prop :=
  ∃ content fault, Tells line.toList content.toList ∧ Directive.ofLine content = .error fault

theorem rejection?_eq_some_iff_tells (line content : String) (fault : LineFault) :
    rejection? line = some (content, fault) ↔
      Tells line.toList content.toList ∧ Directive.ofLine content = .error fault := by
  rw [rejection?_eq_some_iff, content?_eq_some_iff_tells]

theorem rejected_iff (line : String) : Rejected line ↔ (rejection? line).isSome = true := by
  simp only [Rejected, ← rejection?_eq_some_iff_tells, Option.isSome_iff_exists, Prod.exists]

instance : DecidablePred Rejected := fun line => decidable_of_iff _ (rejected_iff line).symm

/-- What is taken over is not rejected. -/
theorem not_rejected_of_directive? {line : String} {directive : Directive}
    (said : directive? line = some directive) : ¬Rejected line := by
  rw [rejected_iff]
  intro rejected
  obtain ⟨⟨content, fault⟩, rejected⟩ := Option.isSome_iff_exists.mp rejected
  cases (directive?_of_rejection? rejected).symm.trans said

/-- Without the lines that are rejected, the same directives are taken over. -/
theorem directives_filter_not_rejected (lines : List String) :
    directives (lines.filter fun line => ¬Rejected line) = directives lines := by
  induction lines with
  | nil => rfl
  | cons line rest ih =>
    cases judged : rejection? line with
    | none =>
      have kept : ¬Rejected line := by simp [rejected_iff, judged]
      simp only [List.filter_cons, kept, not_false_eq_true, decide_true, if_true, directives_cons, ih]
    | some rejection =>
      have dropped : Rejected line := by simp [rejected_iff, judged]
      simp only [List.filter_cons, dropped, not_true_eq_false, decide_false, Bool.false_eq_true,
        if_false, directives_cons, directive?_of_rejection? judged, Option.toList_none,
        List.nil_append, ih]

/-! ### All lines of a load -/

/-- The reports of the lines that are rejected, the first line having a given number. -/
def reportsFrom (number : Nat) : List String → List Problem
  | [] => []
  | line :: rest =>
    match rejection? line with
    | some (content, fault) => (fault.problem content).atLine number :: reportsFrom (number + 1) rest
    | none => reportsFrom (number + 1) rest

theorem reported_loadFrom (number : Nat) {collector : Collector}
    (unsealed : collector.isSealed = false) (lines : List String) :
    (loadFrom false number collector lines).reported = reportsFrom number lines := by
  induction lines generalizing number collector with
  | nil => rfl
  | cons line rest ih =>
    unfold reportsFrom
    cases judged : rejection? line with
    | none =>
      rw [(loadFrom_accepted unsealed false number rest judged).2]
      exact ih (number + 1) (by simpa using unsealed)
    | some rejection =>
      rw [(loadFrom_rejected unsealed false number rest judged).2, ih (number + 1) unsealed]

/-- A report tells of one rejected line, and gives its number. -/
theorem mem_reportsFrom_iff (number : Nat) (lines : List String) (problem : Problem) :
    problem ∈ reportsFrom number lines ↔ ∃ (i : Nat) (line content : String) (fault : LineFault),
      lines[i]? = some line ∧ rejection? line = some (content, fault) ∧
      problem = .rejected (fault.message content) (some content) (some (i + number : Nat)) := by
  induction lines generalizing number with
  | nil => simp [reportsFrom]
  | cons first rest ih =>
    have later : (∃ (i : Nat) (line content : String) (fault : LineFault),
        (first :: rest)[i + 1]? = some line ∧ rejection? line = some (content, fault) ∧
        problem = .rejected (fault.message content) (some content) (some (i + 1 + number : Nat))) ↔
        problem ∈ reportsFrom (number + 1) rest := by
      simp only [ih, List.getElem?_cons_succ, Nat.add_assoc, Nat.add_comm 1]
    unfold reportsFrom
    constructor
    · intro member
      cases judged : rejection? first with
      | none =>
        rw [judged] at member
        obtain ⟨i, found⟩ := later.mpr member
        exact ⟨i + 1, found⟩
      | some rejection =>
        rw [judged] at member
        rcases List.mem_cons.mp member with rfl | member
        · exact ⟨0, first, rejection.1, rejection.2, rfl, judged, by rw [Nat.zero_add]; rfl⟩
        · obtain ⟨i, found⟩ := later.mpr member
          exact ⟨i + 1, found⟩
    · rintro ⟨i, line, content, fault, found, rejected, same⟩
      cases i with
      | zero =>
        obtain rfl : first = line := by simpa using found
        simp [rejected, same, LineFault.problem, Problem.atLine]
      | succ i =>
        have member := later.mp ⟨i, line, content, fault, found, rejected, same⟩
        cases rejection? first with
        | none => exact member
        | some rejection => exact List.mem_cons_of_mem _ member

/-- The reports are in the order of the lines. -/
theorem pairwise_reportsFrom (number : Nat) (lines : List String) :
    (reportsFrom number lines).Pairwise fun earlier later => ∃ m n,
      earlier.lineNumber? = some m ∧ later.lineNumber? = some n ∧ m < n := by
  induction lines generalizing number with
  | nil => exact .nil
  | cons line rest ih =>
    unfold reportsFrom
    cases judged : rejection? line with
    | none => exact ih (number + 1)
    | some rejection =>
      refine .cons ?_ (ih (number + 1))
      intro later member
      obtain ⟨i, _, _, _, _, _, rfl⟩ := (mem_reportsFrom_iff _ _ _).mp member
      exact ⟨_, _, rfl, rfl, by omega⟩

theorem length_reportsFrom (number : Nat) (lines : List String) :
    (reportsFrom number lines).length = lines.countP fun line => Rejected line := by
  induction lines generalizing number with
  | nil => rfl
  | cons line rest ih =>
    unfold reportsFrom
    cases judged : rejection? line <;> simp [rejected_iff, judged, ih]

theorem reportsFrom_eq_nil_iff (number : Nat) (lines : List String) :
    reportsFrom number lines = [] ↔ ∀ line ∈ lines, ¬Rejected line := by
  rw [← List.length_eq_zero_iff, length_reportsFrom, List.countP_eq_zero]
  simp

/-- What a strict load comes to where a lenient load of the same lines comes to something. -/
structure Agrees (lenient strict : Loading) : Prop where
  clean : lenient.reported = [] → strict.outcome = lenient.outcome ∧ strict.reported = []
  failed : ∀ first rest, lenient.reported = first :: rest →
    strict.outcome = .error first ∧ strict.reported = [first]

theorem loadFrom_agrees (number : Nat) {collector : Collector}
    (unsealed : collector.isSealed = false) (lines : List String) :
    Agrees (loadFrom false number collector lines) (loadFrom true number collector lines) := by
  induction lines generalizing number collector with
  | nil => exact ⟨fun _ => ⟨rfl, rfl⟩, fun _ _ reported => by cases reported⟩
  | cons line rest ih =>
    cases judged : rejection? line with
    | none =>
      have lenient := loadFrom_accepted unsealed false number rest judged
      have strict := loadFrom_accepted unsealed true number rest judged
      have unsealed' : (collector.applyAll (directive? line).toList).isSealed = false := by
        simpa using unsealed
      have later := ih (number + 1) unsealed'
      constructor
      · rw [lenient.1, lenient.2, strict.1, strict.2]
        exact later.clean
      · rw [lenient.2, strict.1, strict.2]
        exact later.failed
    -- At a rejected line the strict load ends, with what the lenient load reports first.
    | some rejection =>
      have lenient := loadFrom_rejected unsealed false number rest judged
      have strict := loadFrom_rejected unsealed true number rest judged
      constructor
      · rw [lenient.2]
        intro reported
        cases reported
      · rw [lenient.2]
        intro first later reported
        cases reported
        exact strict

/-- **Strict and lenient loading.** Lenient loading reports each line that is rejected once, by its
number among all lines and with what the line has to say, in the order of the lines. Without such a
line strict loading gives the same rules and reports nothing; otherwise it fails with the first of
these reports, which is the only one that it gives. Lenient loading always gives the rules that
strict loading gives without the rejected lines. -/
theorem load_agrees (lines : List String) :
    let lenient := load false lines
    (∀ problem, problem ∈ lenient.reported ↔
      ∃ (i : Nat) (line content : String) (fault : LineFault), lines[i]? = some line ∧
        Tells line.toList content.toList ∧ Directive.ofLine content = .error fault ∧
        problem = .rejected (fault.message content) (some content) (some (i + 1 : Nat))) ∧
    lenient.reported.length = (lines.countP fun line => Rejected line) ∧
    (lenient.reported.Pairwise fun earlier later => ∃ m n,
      earlier.lineNumber? = some m ∧ later.lineNumber? = some n ∧ m < n) ∧
    (∀ problem ∈ lenient.reported, ∃ content number, problem.line? = some content ∧
      problem.lineNumber? = some number ∧ problem.code = Problem.rejectedCode ∧
      problem.details = [("line", .str content), ("line_number", .int number)]) ∧
    Agrees lenient (load true lines) ∧
    ∃ store, lenient.outcome = .ok store ∧
      (load true (lines.filter fun line => ¬Rejected line)).outcome = .ok store := by
  intro lenient
  have fresh : Collector.empty.isSealed = false := rfl
  have reported : lenient.reported = reportsFrom 1 lines := reported_loadFrom 1 fresh lines
  have told : ∀ problem, problem ∈ lenient.reported ↔
      ∃ (i : Nat) (line content : String) (fault : LineFault), lines[i]? = some line ∧
        Tells line.toList content.toList ∧ Directive.ofLine content = .error fault ∧
        problem = .rejected (fault.message content) (some content) (some (i + 1 : Nat)) := by
    intro problem
    simp only [reported, mem_reportsFrom_iff, rejection?_eq_some_iff_tells, and_assoc]
  refine ⟨told, ?_, ?_, ?_, loadFrom_agrees 1 fresh lines, ?_⟩
  · rw [reported, length_reportsFrom]
  · rw [reported]
    exact pairwise_reportsFrom 1 lines
  · intro problem member
    obtain ⟨i, line, content, fault, _, _, _, rfl⟩ := (told problem).mp member
    exact ⟨content, _, rfl, rfl, rfl, rfl⟩
  · refine ⟨_, loadFrom_lenient 1 fresh lines, ?_⟩
    -- What is left has no report, so strict loading gives what lenient loading gives.
    have clean : (load false (lines.filter fun line => ¬Rejected line)).reported = [] := by
      have none : ∀ problem, problem ∉ reportsFrom 1 (lines.filter fun line => ¬Rejected line) := by
        intro problem member
        obtain ⟨i, line, content, fault, found, rejected, _⟩ := (mem_reportsFrom_iff _ _ _).mp member
        have kept := List.of_mem_filter (List.mem_of_getElem? found)
        simp [rejected_iff, rejected] at kept
      rw [load, reported_loadFrom 1 fresh]
      exact List.eq_nil_iff_forall_not_mem.mpr none
    have strict := ((loadFrom_agrees 1 fresh _).clean clean).1
    rw [load, strict, loadFrom_lenient 1 fresh, directives_filter_not_rejected]

/-- Of two lines that are rejected the first counts for strict loading, under the number that it has
among all lines. -/
theorem load_agrees_two_rejected :
    let lines := ["topic a", "# topic b", "\tnonsense\r\n", "topic some b c"]
    let unknown := LineFault.unknown.message "nonsense"
    let first := Problem.rejected unknown (some "nonsense") (some 3)
    let second := Problem.rejected "invalid permission token" (some "topic some b c") (some 4)
    (load false lines).reported = [first, second] ∧
    first.details = [("line", .str "nonsense"), ("line_number", .int 3)] ∧
    (load true lines).outcome = .error first ∧ (load true lines).reported = [first] := by
  intro lines unknown first second
  have reported : (load false lines).reported = [first, second] := rfl
  obtain ⟨_, _, _, details, agrees, _⟩ := load_agrees lines
  obtain ⟨content, number, same, same', _, listed⟩ :=
    details first (by rw [reported]; exact List.mem_cons_self)
  cases same
  cases same'
  exact ⟨reported, listed, agrees.failed first [second] reported⟩

end TopicAccess.RuleText
