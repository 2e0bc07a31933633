import Mathlib.Data.List.Basic
import Mathlib.Tactic.Common
import TopicAccess.Text.Blank
import TopicAccess.Text.Newline

/-!
# Texts and their lines

A line holds no character that ends a line (`isLineEnd_of_mem_lines`), and lines without such a
character are found again in the text that is made of them, whether line feeds stand between them
(`lines_intercalate`) or behind each of them (`lines_flatMap`).
-/
namespace TopicAccess.Text

/-- What no character of a text has can be decided by looking at the text alone. -/
theorem forall_of_any {p : Char → Bool} {text : List Char} (none : text.any p = false) :
    ∀ c ∈ text, p c = false := by
  simpa using none

/-! ### The pieces of a text -/

section Pieces

variable {Symbol : Type} [DecidableEq Symbol]

theorem not_mem_of_mem_splitAt {separator : Symbol} {text piece : List Symbol}
    (member : piece ∈ splitAt separator text) : separator ∉ piece ∧ piece ⊆ text := by
  induction text generalizing piece with
  | nil =>
    rw [splitAt, List.mem_singleton] at member
    simp [member]
  | cons c rest ih =>
    by_cases same : c = separator
    · rw [same, splitAt_separator] at member
      rcases List.mem_cons.mp member with rfl | later
      · simp
      · exact ⟨(ih later).1, List.subset_cons_of_subset _ (ih later).2⟩
    · obtain ⟨first, pieces, found⟩ := List.exists_cons_of_ne_nil (splitAt_ne_nil separator rest)
      simp only [splitAt, same, if_false, found] at member
      rcases List.mem_cons.mp member with rfl | later
      · have here : first ∈ splitAt separator rest := by rw [found]; exact List.mem_cons_self
        obtain ⟨free, within⟩ := ih here
        refine ⟨?_, List.cons_subset_cons c within⟩
        simp only [List.mem_cons, not_or]
        exact ⟨Ne.symm same, free⟩
      · obtain ⟨free, within⟩ := ih (by rw [found]; exact List.mem_cons_of_mem _ later)
        exact ⟨free, List.subset_cons_of_subset _ within⟩

/-- A text in which the separator does not occur is one piece. -/
theorem splitAt_of_not_mem {separator : Symbol} {text : List Symbol} (free : separator ∉ text) :
    splitAt separator text = [text] := by
  induction text with
  | nil => rfl
  | cons c rest ih =>
    simp only [List.mem_cons, not_or] at free
    rw [splitAt, if_neg (Ne.symm free.1), ih free.2]

theorem splitAt_eq_singleton_iff {separator : Symbol} {text piece : List Symbol} :
    splitAt separator text = [piece] ↔ text = piece ∧ separator ∉ piece := by
  constructor
  · intro single
    have joined := intercalate_splitAt separator text
    rw [single, List.intercalate_singleton] at joined
    exact ⟨joined.symm, (not_mem_of_mem_splitAt (single ▸ List.mem_singleton_self piece)).1⟩
  · rintro ⟨rfl, free⟩
    exact splitAt_of_not_mem free

theorem splitAt_append {separator : Symbol} {piece : List Symbol} (free : separator ∉ piece)
    (rest : List Symbol) :
    splitAt separator (piece ++ separator :: rest) = piece :: splitAt separator rest := by
  induction piece with
  | nil => exact splitAt_separator separator rest
  | cons c piece ih =>
    simp only [List.mem_cons, not_or] at free
    rw [List.cons_append, splitAt, if_neg (Ne.symm free.1), ih free.2]

/-- Pieces that are joined by the separator are found again. -/
theorem splitAt_intercalate {separator : Symbol} {pieces : List (List Symbol)}
    (nonempty : pieces ≠ []) (free : ∀ piece ∈ pieces, separator ∉ piece) :
    splitAt separator ([separator].intercalate pieces) = pieces := by
  induction pieces with
  | nil => exact absurd rfl nonempty
  | cons piece rest ih =>
    have here := free piece List.mem_cons_self
    by_cases last : rest = []
    · rw [last, List.intercalate_singleton, splitAt_of_not_mem here]
    -- Behind the first piece stands the separator, and behind it what the others are joined to.
    · have later := fun other member => free other (List.mem_cons_of_mem piece member)
      rw [List.intercalate_cons_of_ne_nil last, List.append_assoc, List.singleton_append,
        splitAt_append here, ih last later]

omit [DecidableEq Symbol] in
/-- Joining brings in no character but the separator. -/
theorem mem_intercalate_iff {c separator : Symbol} (differs : c ≠ separator)
    (pieces : List (List Symbol)) :
    c ∈ [separator].intercalate pieces ↔ ∃ piece ∈ pieces, c ∈ piece := by
  induction pieces with
  | nil => simp
  | cons piece rest ih =>
    by_cases last : rest = []
    · simp [last]
    · rw [List.intercalate_cons_of_ne_nil last]
      simp [ih, differs]

omit [DecidableEq Symbol] in
/-- To end every piece with the separator is to join the pieces and an empty one behind them. -/
theorem flatMap_eq_intercalate (separator : Symbol) (pieces : List (List Symbol)) :
    pieces.flatMap (fun piece => piece ++ [separator]) =
      [separator].intercalate (pieces ++ [[]]) := by
  induction pieces with
  | nil => rfl
  | cons piece rest ih =>
    rw [List.flatMap_cons, ih, List.cons_append, List.intercalate_cons_of_ne_nil (by simp)]

end Pieces

/-! ### The lines of a text -/

theorem return_not_mem_unifyNewlines (text : List Char) : '\r' ∉ unifyNewlines text := by
  fun_induction unifyNewlines text with
  | case1 => simp
  | case2 rest ih => simpa using ih
  | case3 rest _ ih => simpa using ih
  | case4 c rest _ differs ih =>
    simp only [List.mem_cons, not_or]
    exact ⟨fun same => differs same.symm, ih⟩

/-- A line holds no character that ends a line. -/
theorem isLineEnd_of_mem_lines {text line : List Char} (member : line ∈ lines text) :
    ∀ c ∈ line, isLineEnd c = false := by
  intro c found
  obtain ⟨free, within⟩ := not_mem_of_mem_splitAt member
  have feed : c ≠ '\n' := fun same => free (same ▸ found)
  have carriage : c ≠ '\r' := fun same =>
    return_not_mem_unifyNewlines text (same ▸ within found)
  simp [isLineEnd, feed, carriage]

theorem unifyNewlines_of_not_mem {text : List Char} (free : '\r' ∉ text) :
    unifyNewlines text = text := by
  fun_induction unifyNewlines text with
  | case1 => rfl
  | case2 rest ih => simp at free
  | case3 rest _ ih => simp at free
  | case4 c rest _ differs ih =>
    rw [ih (fun member => free (List.mem_cons_of_mem _ member))]

/-- Lines that are joined by line feeds are read as they were written. -/
theorem lines_intercalate {pieces : List (List Char)} (nonempty : pieces ≠ [])
    (endless : ∀ piece ∈ pieces, ∀ c ∈ piece, isLineEnd c = false) :
    lines (['\n'].intercalate pieces) = pieces := by
  have free : ∀ piece ∈ pieces, '\n' ∉ piece ∧ '\r' ∉ piece := by
    intro piece member
    exact ⟨fun held => absurd (endless piece member _ held) (by decide),
      fun held => absurd (endless piece member _ held) (by decide)⟩
  have noReturn : '\r' ∉ ['\n'].intercalate pieces :=
    (mem_intercalate_iff (by decide) pieces).not.mpr (by simpa using fun piece member =>
      (free piece member).2)
  rw [lines, unifyNewlines_of_not_mem noReturn,
    splitAt_intercalate nonempty fun piece member => (free piece member).1]

/-- Lines that are ended by line feeds are read as they were written, with an empty line behind
them. -/
theorem lines_flatMap {pieces : List (List Char)}
    (endless : ∀ piece ∈ pieces, ∀ c ∈ piece, isLineEnd c = false) :
    lines (pieces.flatMap fun piece => piece ++ ['\n']) = pieces ++ [[]] := by
  rw [flatMap_eq_intercalate]
  apply lines_intercalate (by simp)
  intro piece member
  rcases List.mem_append.mp member with written | last
  · exact endless piece written
  · rw [List.mem_singleton.mp last]
    simp

end TopicAccess.Text
