import Mathlib.Data.List.Forall2
import TopicAccess.Proofs.Reporting

/-!
# The layout of rule text

What a line has to say does not depend on its indentation nor on the line ends behind it
(`content?_frame`), and a blank line or a comment has nothing to say (`Skipped.content?_eq_none`).
`Relaid` relates two texts that differ in no more than this, and counts the lines that have been
inserted before each line. The main result, `load_relaid`, compares the loads of two such texts.
-/
namespace TopicAccess.RuleText

/-! ### One line -/

theorem isLineEnd_of_isIndent {c : Char} (blank : Text.isIndent c = true) :
    Text.isLineEnd c = false := by
  simp only [Text.isIndent, Bool.or_eq_true, beq_iff_eq] at blank
  rcases blank with ((rfl | rfl) | rfl) | rfl <;> rfl

/-- Line ends behind a line are left out with those that it has already. -/
theorem withoutEnd_append_ending (line : List Char) {ending : List Char}
    (ends : ∀ c ∈ ending, Text.isLineEnd c = true) :
    withoutEnd (line ++ ending) = withoutEnd line := by
  obtain ⟨⟨own, split, ends'⟩, last⟩ := (withoutEnd_eq_iff line _).mp rfl
  refine (withoutEnd_eq_iff _ _).mpr ⟨⟨own ++ ending, ?_, ?_⟩, last⟩
  · rw [← List.append_assoc, ← split]
  · exact List.forall_mem_append.mpr ⟨ends', ends⟩

/-- What does not end with a line end stays in front of what is left of the rest. -/
theorem withoutEnd_append {front : List Char}
    (last : ∀ c, front.getLast? = some c → Text.isLineEnd c = false) (rest : List Char) :
    withoutEnd (front ++ rest) = front ++ withoutEnd rest := by
  obtain ⟨⟨ending, split, ends⟩, last'⟩ := (withoutEnd_eq_iff rest _).mp rfl
  refine (withoutEnd_eq_iff _ _).mpr ⟨⟨ending, ?_, ends⟩, ?_⟩
  · rw [List.append_assoc, ← split]
  · intro c found
    rw [List.getLast?_append] at found
    cases own : (withoutEnd rest).getLast? with
    | none => exact last c (by simpa [own] using found)
    | some d =>
      obtain rfl : d = c := by simpa [own] using found
      exact last' d own

/-- Indentation before a line and line ends behind it make no difference to what it has to say. -/
theorem content?_frame {indent ending : List Char} (blank : ∀ c ∈ indent, Text.isIndent c = true)
    (ends : ∀ c ∈ ending, Text.isLineEnd c = true) (line : List Char) :
    content? (indent ++ line ++ ending) = content? line := by
  have last : ∀ c, indent.getLast? = some c → Text.isLineEnd c = false := fun c found =>
    isLineEnd_of_isIndent (blank c (List.mem_of_getLast? found))
  unfold content?
  rw [withoutEnd_append_ending _ ends, withoutEnd_append last,
    List.dropWhile_append_of_pos blank]

/-- A blank line, with whatever line ends, or a comment. -/
inductive Skipped : List Char → Prop
  | blank (indent ending : List Char) (blank : ∀ c ∈ indent, Text.isIndent c = true)
      (ends : ∀ c ∈ ending, Text.isLineEnd c = true) : Skipped (indent ++ ending)
  | comment (indent text : List Char) (blank : ∀ c ∈ indent, Text.isIndent c = true) :
      Skipped (indent ++ '#' :: text)

theorem Skipped.content?_eq_none {line : List Char} (skipped : Skipped line) :
    content? line = none := by
  cases skipped with
  | blank indent ending blank ends =>
    have framed := content?_frame blank ends []
    rw [List.append_nil] at framed
    rw [framed]
    rfl
  | comment indent text blank =>
    have framed : content? (indent ++ '#' :: text ++ []) = content? ('#' :: text) :=
      content?_frame blank (by simp) _
    have last : ∀ c, ['#'].getLast? = some c → Text.isLineEnd c = false := by simp [Text.isLineEnd]
    have kept : withoutEnd ('#' :: text) = '#' :: withoutEnd text := withoutEnd_append last text
    rw [List.append_nil] at framed
    rw [framed, content?, kept, List.dropWhile_cons_of_neg (by decide)]
    exact if_pos rfl

/-! ### All lines -/

/-- Two texts that differ in their layout only, and for each line of the first one the number of
lines that are inserted before it. Blank lines and comments are inserted anywhere, and any line is
indented and ended in another way. -/
inductive Relaid : List String → List String → List Nat → Prop
  | nil : Relaid [] [] []
  | insert {lines edited : List String} {inserted : List Nat} {line : String}
      (skipped : Skipped line.toList) (later : Relaid lines edited inserted) :
      Relaid lines (line :: edited) (inserted.map (· + 1))
  | keep {lines edited : List String} {inserted : List Nat} {line line' : String}
      (indent ending : List Char) (blank : ∀ c ∈ indent, Text.isIndent c = true)
      (ends : ∀ c ∈ ending, Text.isLineEnd c = true)
      (framed : line'.toList = indent ++ line.toList ++ ending)
      (later : Relaid lines edited inserted) :
      Relaid (line :: lines) (line' :: edited) (0 :: inserted)

/-- Two reports of one line whose numbers differ by the lines that are inserted before it, where the
two texts begin with lines of given numbers. -/
inductive Moved (number number' : Nat) (inserted : List Nat) : Problem → Problem → Prop
  | intro {message line : String} (place count : Nat) {n n' : Nat}
      (counted : inserted[place]? = some count) (old : n = place + number)
      (new : n' = place + count + number') :
      Moved number number' inserted (.rejected message (some line) (some n))
        (.rejected message (some line) (some n'))

theorem Moved.insert {number number' : Nat} {inserted : List Nat} {problem problem' : Problem}
    (moved : Moved number (number' + 1) inserted problem problem') :
    Moved number number' (inserted.map (· + 1)) problem problem' := by
  cases moved with
  | intro place count counted old new =>
    have counted' : (inserted.map (· + 1))[place]? = some (count + 1) := by
      rw [List.getElem?_map, counted, Option.map_some]
    exact .intro place (count + 1) counted' old (by omega)

theorem Moved.keep {number number' : Nat} {inserted : List Nat} {problem problem' : Problem}
    (moved : Moved (number + 1) (number' + 1) inserted problem problem') :
    Moved number number' (0 :: inserted) problem problem' := by
  cases moved with
  | intro place count counted old new =>
    exact .intro (place + 1) count counted (by omega) (by omega)

section Relaid

variable {lines edited : List String} {inserted : List Nat} (relaid : Relaid lines edited inserted)

include relaid

theorem Relaid.directives_eq : directives edited = directives lines := by
  induction relaid with
  | nil => rfl
  | @insert _ _ _ line skipped _ ih =>
    have silent : directive? line = none := by
      rw [directive?, skipped.content?_eq_none, Option.bind_none]
    rw [directives_cons, silent, ih, Option.toList_none, List.nil_append]
  | @keep _ _ _ line line' _ _ blank ends framed _ ih =>
    have same : directive? line' = directive? line := by
      rw [directive?, directive?, framed, content?_frame blank ends]
    rw [directives_cons, directives_cons, same, ih]

/-- The same lines are reported, and each report is moved by the lines inserted before its line. -/
theorem Relaid.reportsFrom_moved (number number' : Nat) :
    List.Forall₂ (Moved number number' inserted) (reportsFrom number lines)
      (reportsFrom number' edited) := by
  -- An inserted line moves all later lines of the second text, so the numbers are general.
  induction relaid generalizing number number' with
  | nil => exact .nil
  | @insert _ _ _ line skipped _ ih =>
    have silent : rejection? line = none := by
      rw [rejection?, skipped.content?_eq_none, Option.bind_none]
    have later := (ih number (number' + 1)).imp fun _ _ => Moved.insert
    simpa only [reportsFrom, silent] using later
  | @keep _ _ _ line line' _ _ blank ends framed _ ih =>
    have same : rejection? line' = rejection? line := by
      rw [rejection?, rejection?, framed, content?_frame blank ends]
    have later := (ih (number + 1) (number' + 1)).imp fun _ _ => Moved.keep
    rw [reportsFrom, reportsFrom, same]
    cases rejection? line with
    | none => exact later
    | some rejection => exact .cons (.intro 0 0 rfl (by omega) (by omega)) later

end Relaid

/-! ### Loading -/

/-- Strict loading succeeds where lenient loading has nothing to report, with the same store. -/
theorem load_strict_eq_ok_iff (lines : List String) (store : RuleStore) :
    (load true lines).outcome = .ok store ↔
      (load false lines).reported = [] ∧ (load false lines).outcome = .ok store := by
  have agrees : Agrees (load false lines) (load true lines) := loadFrom_agrees 1 rfl lines
  cases reported : (load false lines).reported with
  | nil => simp [(agrees.clean reported).1]
  | cons first rest => simp [(agrees.failed first rest reported).1]

/-- **Layout.** Where two texts differ in blank lines and comments, and in the indentation and the
ends of lines, lenient loading gives the same store, and it reports the same lines with the same
messages, each with a number that differs by the lines inserted before it. Strict loading of one of
them succeeds, and gives the same store, when that of the other does. -/
theorem load_relaid (lines edited : List String) (inserted : List Nat)
    (relaid : Relaid lines edited inserted) :
    (∃ store, (load false lines).outcome = .ok store ∧ (load false edited).outcome = .ok store) ∧
    List.Forall₂ (Moved 1 1 inserted) (load false lines).reported (load false edited).reported ∧
    ∀ store, (load true lines).outcome = .ok store ↔ (load true edited).outcome = .ok store := by
  have fresh : Collector.empty.isSealed = false := rfl
  have gives := loadFrom_lenient 1 fresh lines
  have same : (load false edited).outcome = (load false lines).outcome := by
    rw [load, load, loadFrom_lenient 1 fresh, gives, relaid.directives_eq]
  have moved : List.Forall₂ (Moved 1 1 inserted) (load false lines).reported
      (load false edited).reported := by
    rw [load, load, reported_loadFrom 1 fresh, reported_loadFrom 1 fresh]
    exact relaid.reportsFrom_moved 1 1
  refine ⟨⟨_, gives, same.trans gives⟩, moved, fun store => ?_⟩
  -- There are as many reports for one text as for the other.
  rw [load_strict_eq_ok_iff, load_strict_eq_ok_iff, same, ← List.length_eq_zero_iff,
    moved.length_eq, List.length_eq_zero_iff]

/-- A comment, a blank line and an indented comment are inserted, one line is indented and two have
other ends. The line that is rejected has two of the inserted lines before it. -/
theorem load_relaid_numbers :
    let lines := ["topic a", "nonsense", "  topic b\r"]
    let edited :=
      ["# topic b", "topic a\r\n", " \r", "\tnonsense", "\x0b#", "  topic b\r\r"]
    let message := LineFault.unknown.message "nonsense"
    Relaid lines edited [1, 2, 3] ∧
    (load false lines).reported = [.rejected message (some "nonsense") (some 2)] ∧
    (load false edited).reported = [.rejected message (some "nonsense") (some 4)] ∧
    (∃ store, (load false lines).outcome = .ok store ∧ (load false edited).outcome = .ok store) ∧
    ¬∃ store, (load true edited).outcome = .ok store := by
  intro lines edited message
  have indented : Skipped "\x0b#".toList := .comment ['\x0b'] [] (by simp [Text.isIndent])
  have blank : Skipped " \r".toList :=
    .blank [' '] ['\r'] (by simp [Text.isIndent]) (by simp [Text.isLineEnd])
  have plain : Skipped "# topic b".toList := .comment [] " topic b".toList (by simp)
  have relaid : Relaid lines edited [1, 2, 3] :=
    .insert plain <| .keep [] ['\r', '\n'] (by simp) (by simp [Text.isLineEnd]) rfl <|
    .insert blank <| .keep ['\t'] [] (by simp [Text.isIndent]) (by simp) rfl <|
    .insert indented <| .keep [] ['\r'] (by simp) (by simp [Text.isLineEnd]) rfl .nil
  obtain ⟨same, moved, strict⟩ := load_relaid lines edited [1, 2, 3] relaid
  have reported : (load false lines).reported =
      [.rejected message (some "nonsense") (some 2)] := rfl
  have reported' : (load false edited).reported =
      [.rejected message (some "nonsense") (some 4)] := by
    rw [reported] at moved
    obtain ⟨problem, rest, here, later, found⟩ := List.forall₂_cons_left_iff.mp moved
    rw [found, List.forall₂_nil_left_iff.mp later]
    generalize numbered : (2 : Int) = number at here
    cases here with
    | intro place count counted old new =>
      obtain rfl : place = 1 := by omega
      cases counted
      rw [new]
      rfl
  refine ⟨relaid, reported, reported', same, ?_⟩
  rintro ⟨store, loaded⟩
  cases (strict store).mpr loaded

end TopicAccess.RuleText
