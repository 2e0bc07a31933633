/-!
# Splitting text at a character

Every occurrence of the separator ends a piece, so a text with `n` separators has `n + 1` pieces,
some of them possibly empty.
-/
namespace TopicAccess.Text

variable {Symbol : Type} [DecidableEq Symbol]

/-- The pieces of a text between the occurrences of a separator. -/
def splitAt (separator : Symbol) : List Symbol → List (List Symbol)
  | [] => [[]]
  | c :: rest =>
    if c = separator then [] :: splitAt separator rest
    else match splitAt separator rest with
      | piece :: pieces => (c :: piece) :: pieces
      | [] => [[c]]

theorem splitAt_ne_nil (separator : Symbol) (text : List Symbol) : splitAt separator text ≠ [] := by
  cases text with
  | nil => simp [splitAt]
  | cons c rest =>
    simp only [splitAt]
    split
    · simp
    · split <;> simp

theorem splitAt_separator (separator : Symbol) (rest : List Symbol) :
    splitAt separator (separator :: rest) = [] :: splitAt separator rest := by
  simp [splitAt]

/-- Nothing is lost: the pieces with the separator between them are the text. -/
theorem intercalate_splitAt (separator : Symbol) (text : List Symbol) :
    [separator].intercalate (splitAt separator text) = text := by
  induction text with
  | nil => simp [splitAt, List.intercalate]
  | cons c rest ih =>
    obtain ⟨piece, pieces, split⟩ := List.exists_cons_of_ne_nil (splitAt_ne_nil separator rest)
    rw [split] at ih
    by_cases same : c = separator
    · subst same
      rw [splitAt_separator, split]
      cases pieces <;> simp_all [List.intercalate]
    · simp only [splitAt, same, if_false, split]
      cases pieces <;> simp_all [List.intercalate]

end TopicAccess.Text
