import TopicAccess.Proofs.Lines
import TopicAccess.Proofs.Wildcards

/-!
# Wildcards and their neighbours

Whether a filter is well formed is decided from its levels. The main result, `isWellFormed_exact`,
says it of the characters next to each wildcard, without a division into levels: `#` begins a level
and is the last character of all, and `+` begins a level and ends it.

A character other than the separator joins the last piece of what stands before it with the first
piece of what stands behind it, and leaves the other pieces as they are (`splitAt_eq_around_iff`).
So it is a piece by itself when those two are empty, and `last_piece_eq_nil_iff` and
`first_piece_eq_nil_iff` say what stands next to it then.
-/
namespace TopicAccess

namespace Text

variable {separator c : Char} {text before after left right piece : List Char}
  {earlier later pieces : List (List Char)}

/-! ### The piece of a character -/

/-- What holds no separator joins the first piece of what follows. -/
theorem splitAt_free_append (free : separator ∉ piece)
    (split : splitAt separator text = right :: later) :
    splitAt separator (piece ++ text) = (piece ++ right) :: later := by
  induction piece with
  | nil => exact split
  | cons d piece ih =>
    simp only [List.mem_cons, not_or] at free
    simp only [List.cons_append, splitAt, if_neg (Ne.symm free.1), ih free.2]

/-- A piece with others behind it is ended by a separator, and the others are those of the rest. -/
theorem splitAt_eq_cons_iff (more : pieces ≠ []) : splitAt separator text = piece :: pieces ↔
    separator ∉ piece ∧ ∃ rest, text = piece ++ separator :: rest ∧
      splitAt separator rest = pieces := by
  constructor
  · intro split
    have free : ∀ other ∈ piece :: pieces, separator ∉ other := fun other member =>
      (not_mem_of_mem_splitAt (split ▸ member)).1
    have joined := intercalate_splitAt separator text
    rw [split, List.intercalate_cons_of_ne_nil more, List.append_assoc,
      List.singleton_append] at joined
    exact ⟨free piece List.mem_cons_self, _, joined.symm, splitAt_intercalate more
      fun other member => free other (List.mem_cons_of_mem piece member)⟩
  · rintro ⟨free, rest, rfl, rfl⟩
    exact splitAt_append free rest

/-- A character that is no separator stands in one piece, between the last piece of what is before
it and the first piece of what is behind it. -/
theorem splitAt_eq_around_iff (differs : c ≠ separator) :
    splitAt separator text = earlier ++ (left ++ c :: right) :: later ↔
      ∃ before after, text = before ++ c :: after ∧
        splitAt separator before = earlier ++ [left] ∧
        splitAt separator after = right :: later := by
  -- By induction on the pieces that end before the character.
  induction earlier generalizing text with
  | nil =>
    constructor
    · intro split
      -- The first piece ends with the text, or at a separator behind the character.
      by_cases last : later = []
      · subst last
        obtain ⟨rfl, free⟩ := splitAt_eq_singleton_iff.mp split
        simp only [List.mem_append, List.mem_cons, not_or] at free
        exact ⟨left, right, rfl, splitAt_of_not_mem free.1, splitAt_of_not_mem free.2.2⟩
      · obtain ⟨free, rest, rfl, behind⟩ := (splitAt_eq_cons_iff last).mp split
        simp only [List.mem_append, List.mem_cons, not_or] at free
        refine ⟨left, right ++ separator :: rest, by simp, splitAt_of_not_mem free.1, ?_⟩
        rw [splitAt_append free.2.2, behind]
    · rintro ⟨before, after, rfl, ahead, behind⟩
      obtain ⟨rfl, free⟩ := splitAt_eq_singleton_iff.mp ahead
      have alone : separator ∉ [c] := by simpa using Ne.symm differs
      have joined : splitAt separator (c :: after) = (c :: right) :: later :=
        splitAt_free_append alone behind
      exact splitAt_free_append free joined
  -- A first piece that ends before the character is ended before it on both sides.
  | cons first earlier ih =>
    rw [List.cons_append, splitAt_eq_cons_iff (by simp)]
    simp only [List.cons_append, splitAt_eq_cons_iff (show earlier ++ [left] ≠ [] by simp)]
    constructor
    · rintro ⟨free, rest, rfl, split⟩
      obtain ⟨before, after, rfl, ahead, behind⟩ := ih.mp split
      exact ⟨first ++ separator :: before, after, by simp, ⟨free, before, rfl, ahead⟩, behind⟩
    · rintro ⟨_, after, rfl, ⟨free, before, rfl, ahead⟩, behind⟩
      exact ⟨free, before ++ c :: after, by simp, ih.mpr ⟨before, after, rfl, ahead, behind⟩⟩

/-! ### Empty pieces at either end -/

/-- The first piece is empty when the text is, or when a separator begins it. -/
theorem first_piece_eq_nil_iff (split : splitAt separator text = piece :: later) :
    piece = [] ↔ text = [] ∨ text.head? = some separator := by
  by_cases last : later = []
  · subst last
    obtain ⟨rfl, free⟩ := splitAt_eq_singleton_iff.mp split
    have other : text.head? ≠ some separator := fun found => free (List.mem_of_head? found)
    simp [other]
  · obtain ⟨free, rest, rfl, _⟩ := (splitAt_eq_cons_iff last).mp split
    cases piece with
    | nil => simp
    | cons c piece =>
      simp only [List.mem_cons, not_or] at free
      simp [Ne.symm free.1]

/-- The last piece is empty when the text is, or when a separator ends it. -/
theorem last_piece_eq_nil_iff (split : splitAt separator text = earlier ++ [piece]) :
    piece = [] ↔ text = [] ∨ text.getLast? = some separator := by
  induction earlier generalizing text with
  | nil =>
    obtain ⟨rfl, free⟩ := splitAt_eq_singleton_iff.mp split
    have other : text.getLast? ≠ some separator := fun found => free (List.mem_of_getLast? found)
    simp [other]
  | cons first earlier ih =>
    obtain ⟨_, rest, rfl, later⟩ := (splitAt_eq_cons_iff (by simp)).mp split
    rw [ih later]
    -- What ends the rest ends the whole text, and without a rest the separator does.
    cases rest with
    | nil => simp
    | cons c rest => simp

/-- A character is a piece by itself wherever it occurs, with a property of the pieces behind it,
when at each of its places a separator stands on either side, or nothing does. -/
theorem forall_piece_iff (differs : c ≠ separator) (behind : List (List Char) → Prop) :
    (∀ earlier piece later, splitAt separator text = earlier ++ piece :: later → c ∈ piece →
        piece = [c] ∧ behind later) ↔
      ∀ before after, text = before ++ c :: after →
        (before = [] ∨ before.getLast? = some separator) ∧
        (after = [] ∨ after.head? = some separator) ∧ behind (splitAt separator after).tail := by
  constructor
  · rintro every before after rfl
    obtain ⟨earlier, left, ahead⟩ : ∃ earlier left, splitAt separator before = earlier ++ [left] :=
      ⟨_, _, (List.dropLast_concat_getLast (splitAt_ne_nil separator before)).symm⟩
    obtain ⟨right, later, split⟩ := List.exists_cons_of_ne_nil (splitAt_ne_nil separator after)
    obtain ⟨alone, rest⟩ := every _ _ _
      ((splitAt_eq_around_iff differs).mpr ⟨before, after, rfl, ahead, split⟩) (by simp)
    obtain ⟨rfl, rfl⟩ : left = [] ∧ right = [] := by
      simpa [List.append_eq_cons_iff] using alone
    rw [split]
    exact ⟨(last_piece_eq_nil_iff ahead).mp rfl, (first_piece_eq_nil_iff split).mp rfl, rest⟩
  · intro every earlier piece later split held
    obtain ⟨left, right, rfl⟩ := List.append_of_mem held
    obtain ⟨before, after, rfl, ahead, next⟩ := (splitAt_eq_around_iff differs).mp split
    obtain ⟨begins, ends, rest⟩ := every before after rfl
    obtain rfl := (last_piece_eq_nil_iff ahead).mpr begins
    obtain rfl := (first_piece_eq_nil_iff next).mpr ends
    rw [next] at rest
    exact ⟨rfl, rest⟩

/-- A text whose first piece is empty and the only one is empty. -/
theorem first_piece_and_tail_eq_nil_iff :
    (text = [] ∨ text.head? = some separator) ∧ (splitAt separator text).tail = [] ↔
      text = [] := by
  constructor
  · rintro ⟨begins, alone⟩
    obtain ⟨piece, later, split⟩ := List.exists_cons_of_ne_nil (splitAt_ne_nil separator text)
    rw [split, List.tail_cons] at alone
    rw [alone] at split
    rw [(splitAt_eq_singleton_iff.mp split).1]
    exact (first_piece_eq_nil_iff split).mpr begins
  · rintro rfl
    exact ⟨.inl rfl, rfl⟩

end Text

namespace Topic

/-! ### Positions -/

/-- The character at a position begins a level: no character stands before it, or a slash does. -/
def BeginsLevel (text : List Char) (position : Nat) : Prop :=
  position = 0 ∨ text[position - 1]? = some '/'

/-- The character at a position ends a level: no character stands behind it, or a slash does. -/
def EndsLevel (text : List Char) (position : Nat) : Prop :=
  position + 1 = text.length ∨ text[position + 1]? = some '/'

theorem beginsLevel_iff (before after : List Char) (c : Char) :
    BeginsLevel (before ++ c :: after) before.length ↔
      before = [] ∨ before.getLast? = some '/' := by
  rw [BeginsLevel, List.length_eq_zero_iff]
  by_cases none : before = []
  · simp [none]
  -- Behind a first character the one before a position is the last of what stands before it.
  · have place : before.length - 1 < before.length := by
      have := List.length_pos_of_ne_nil none
      omega
    rw [List.getElem?_append_left place, List.getLast?_eq_getElem?]

theorem endsLevel_iff (before after : List Char) (c : Char) :
    EndsLevel (before ++ c :: after) before.length ↔
      after = [] ∨ after.head? = some '/' := by
  unfold EndsLevel
  cases after <;> simp

/-- What holds at every place of a character holds however the text is cut there. -/
theorem forall_position_iff (text : List Char) (c : Char) (p : Nat → Prop) :
    (∀ position, text[position]? = some c → p position) ↔
      ∀ before after, text = before ++ c :: after → p before.length := by
  constructor
  · rintro every before after rfl
    exact every before.length (by simp)
  · intro every position found
    obtain ⟨inside, rfl⟩ := List.getElem?_eq_some_iff.mp found
    have cut := every (text.take position) (text.drop (position + 1)) (by simp)
    rwa [List.length_take_of_le (Nat.le_of_lt inside)] at cut

theorem wellPlaced_iff_forall_level (levels : List (List Char)) : wellPlaced levels = true ↔
    (∀ earlier level later, levels = earlier ++ level :: later → '#' ∈ level →
      level = ['#'] ∧ later = []) ∧
    (∀ earlier level later, levels = earlier ++ level :: later → '+' ∈ level →
      level = ['+'] ∧ True) := by
  rw [wellPlaced_iff]
  constructor
  · intro placed
    exact ⟨fun earlier level later split => (placed earlier level later split).multi,
      fun earlier level later split held =>
        ⟨(placed earlier level later split).single held, trivial⟩⟩
  · rintro ⟨multi, single⟩ earlier level later split
    exact ⟨multi earlier level later split, fun held => (single earlier level later split held).1⟩

/-- **Where wildcards may stand, by their neighbours.** A filter is well formed exactly when it is
not empty, every `#` in it is its last character and the first one or right behind a slash, and
every `+` is the first character or right behind a slash, and the last one or right before a slash.
Slashes may stand anywhere. -/
theorem isWellFormed_exact (filter : String) :
    let text := filter.toList
    isWellFormed filter = true ↔ filter ≠ "" ∧
      (∀ i, text[i]? = some '#' → i + 1 = text.length ∧ BeginsLevel text i) ∧
      (∀ i, text[i]? = some '+' → BeginsLevel text i ∧ EndsLevel text i) := by
  intro text
  have multi : (∀ i, text[i]? = some '#' → i + 1 = text.length ∧ BeginsLevel text i) ↔
      ∀ before after, text = before ++ '#' :: after →
        (before = [] ∨ before.getLast? = some '/') ∧ (after = [] ∨ after.head? = some '/') ∧
          (Text.splitAt '/' after).tail = [] := by
    rw [forall_position_iff]
    refine forall₂_congr fun before after => forall_congr' fun cut => ?_
    rw [Text.first_piece_and_tail_eq_nil_iff, cut, beginsLevel_iff, and_comm]
    simp
  have single : (∀ i, text[i]? = some '+' → BeginsLevel text i ∧ EndsLevel text i) ↔
      ∀ before after, text = before ++ '+' :: after →
        (before = [] ∨ before.getLast? = some '/') ∧ (after = [] ∨ after.head? = some '/') ∧
          True := by
    rw [forall_position_iff]
    refine forall₂_congr fun before after => forall_congr' fun cut => ?_
    rw [cut, beginsLevel_iff, endsLevel_iff, and_true]
  rw [isWellFormed, Bool.and_eq_true, bne_iff_ne, wellPlaced_iff_forall_level, levels,
    Text.forall_piece_iff (by decide) (· = []), Text.forall_piece_iff (by decide) fun _ => True,
    ← multi, ← single]

-- Levels may be empty, at either end and in between; a wildcard may not touch another one.
example : isWellFormed "//+//a/" = true ∧ isWellFormed "/" = true ∧ isWellFormed "+#" = false := by
  decide

end Topic

end TopicAccess
