import TopicAccess.Text.Word

/-!
# Words and the blanks between them

A text that does not begin with a blank is a word, then blanks, then a word, and so on. The two
equations `wordsFrom_gap` and `wordsFrom_word` read the words off such a division, offsets included,
and the two splitting lemmas say that every text can be divided so.
-/
namespace TopicAccess.Text

/-- A run of blanks, possibly empty. -/
def IsGap (text : List Char) : Prop := ∀ c ∈ text, isBlank c = true

/-- A run of blanks that divides two words. -/
structure IsSeparator (text : List Char) : Prop where
  nonempty : text ≠ []
  blank : IsGap text

/-- At least one character, and no blank. -/
structure IsWord (text : List Char) : Prop where
  nonempty : text ≠ []
  solid : ∀ c ∈ text, isBlank c = false

/-- A word may end before this text: it is empty or begins with a blank. -/
def EndsWord (text : List Char) : Prop := ∀ c, text.head? = some c → isBlank c = true

/-- A word begins this text. -/
def StartsWord (text : List Char) : Prop := ∃ c, text.head? = some c ∧ isBlank c = false

theorem IsGap.endsWord {gap : List Char} (blank : IsGap gap) : EndsWord gap := fun c found =>
  blank c (List.mem_of_head? found)

theorem IsSeparator.endsWord_append {gap : List Char} (separates : IsSeparator gap)
    (rest : List Char) : EndsWord (gap ++ rest) := by
  obtain ⟨c, tail, rfl⟩ := List.exists_cons_of_ne_nil separates.nonempty
  intro first found
  cases found
  exact separates.blank c List.mem_cons_self

theorem IsWord.startsWord_append {word : List Char} (isWord : IsWord word) (rest : List Char) :
    StartsWord (word ++ rest) := by
  obtain ⟨c, tail, rfl⟩ := List.exists_cons_of_ne_nil isWord.nonempty
  exact ⟨c, rfl, isWord.solid c List.mem_cons_self⟩

theorem not_startsWord_iff (text : List Char) : ¬StartsWord text ↔ EndsWord text := by
  simp only [StartsWord, EndsWord, not_exists, not_and, Bool.not_eq_false]

/-! ### Reading words off -/

/-- The words of a text do not begin before the text does. -/
theorem le_offset {offset : Nat} {text : List Char} {word : Word}
    (member : word ∈ wordsFrom offset text) : offset ≤ word.offset := by
  induction text generalizing offset word with
  | nil => simp [wordsFrom] at member
  | cons c rest ih =>
    simp only [wordsFrom] at member
    split at member
    · exact Nat.le_of_succ_le (ih member)
    -- The character joins the word behind it, or it is a word by itself.
    · split at member
      next first others later =>
        have bound : ∀ other ∈ others, offset ≤ other.offset := fun other found =>
          Nat.le_of_succ_le (ih (by rw [later]; exact List.mem_cons_of_mem _ found))
        split at member
        · rcases List.mem_cons.mp member with rfl | found
          · exact Nat.le_refl _
          · exact bound word found
        · rcases List.mem_cons.mp member with rfl | found
          · exact Nat.le_refl _
          · rcases List.mem_cons.mp found with rfl | found
            · exact Nat.le_of_succ_le (ih (by rw [later]; exact List.mem_cons_self))
            · exact bound word found
      next => simp_all

/-- Where a word may end, no word begins. -/
theorem lt_offset_of_endsWord {offset : Nat} {text : List Char} (ends : EndsWord text) {word : Word}
    (member : word ∈ wordsFrom offset text) : offset < word.offset := by
  cases text with
  | nil => simp [wordsFrom] at member
  | cons c rest =>
    simp only [wordsFrom, ends c rfl, if_true] at member
    exact le_offset member

/-- Blanks only move the words that follow them. -/
theorem wordsFrom_gap {gap : List Char} (blank : IsGap gap) (offset : Nat) (rest : List Char) :
    wordsFrom offset (gap ++ rest) = wordsFrom (offset + gap.length) rest := by
  induction gap generalizing offset with
  | nil => rfl
  | cons c gap ih =>
    have tail : IsGap gap := fun d found => blank d (List.mem_cons_of_mem _ found)
    simp only [List.cons_append, wordsFrom, blank c List.mem_cons_self, if_true, ih tail,
      List.length_cons]
    congr 1
    omega

theorem wordsFrom_of_isGap {gap : List Char} (blank : IsGap gap) (offset : Nat) :
    wordsFrom offset gap = [] := by
  simpa [wordsFrom] using wordsFrom_gap blank offset []

/-- A word that may end where it does is read as a whole, at the offset where it begins. -/
theorem wordsFrom_word {word rest : List Char} (isWord : IsWord word) (ends : EndsWord rest)
    (offset : Nat) : wordsFrom offset (word ++ rest) =
      ⟨offset, word⟩ :: wordsFrom (offset + word.length) rest := by
  induction word generalizing offset with
  | nil => exact absurd rfl isWord.nonempty
  | cons c word ih =>
    have solid : isBlank c = false := isWord.solid c List.mem_cons_self
    -- The last character of the word begins it, and every other one joins what is there already.
    cases word with
    | nil =>
      -- What follows does not begin right behind the character, so nothing joins it.
      simp only [List.cons_append, List.nil_append, wordsFrom, solid, Bool.false_eq_true, if_false,
        List.length_singleton]
      split
      next next others later =>
        have apart : offset + 1 < next.offset :=
          lt_offset_of_endsWord ends (by rw [later]; exact List.mem_cons_self)
        rw [if_neg (by omega), later]
      · simp_all
    | cons d word =>
      have tail : IsWord (d :: word) :=
        ⟨by simp, fun e found => isWord.solid e (List.mem_cons_of_mem _ found)⟩
      rw [List.cons_append, wordsFrom, ih tail]
      simp only [solid, Bool.false_eq_true, if_false, if_true, List.length_cons]
      congr 2
      omega

/-- A word between blanks is read as a whole, at the offset where the blanks before it end. -/
theorem wordsFrom_separator {gap word rest : List Char} (separates : IsSeparator gap)
    (isWord : IsWord word) (ends : EndsWord rest) (offset : Nat) :
    wordsFrom offset (gap ++ (word ++ rest)) = ⟨offset + gap.length, word⟩ ::
      wordsFrom (offset + gap.length + word.length) rest := by
  rw [wordsFrom_gap separates.blank, wordsFrom_word isWord ends]

/-! ### Dividing texts -/

/-- Every text is a run of blanks and then nothing or the beginning of a word. -/
theorem exists_gap_split (text : List Char) : ∃ gap rest, text = gap ++ rest ∧ IsGap gap ∧
    (rest = [] ∨ StartsWord rest) := by
  induction text with
  | nil => exact ⟨[], [], rfl, by simp [IsGap], .inl rfl⟩
  | cons c text ih =>
    cases first : isBlank c with
    | false => exact ⟨[], c :: text, rfl, by simp [IsGap], .inr ⟨c, rfl, first⟩⟩
    | true =>
      obtain ⟨gap, rest, rfl, blank, next⟩ := ih
      refine ⟨c :: gap, rest, rfl, ?_, next⟩
      intro d found
      rcases List.mem_cons.mp found with rfl | found
      · exact first
      · exact blank d found

/-- A text that begins with a word is that word and what may follow it. -/
theorem exists_word_split {text : List Char} (starts : StartsWord text) : ∃ word rest,
    text = word ++ rest ∧ IsWord word ∧ EndsWord rest := by
  induction text with
  | nil => simp [StartsWord] at starts
  | cons c text ih =>
    have first : isBlank c = false := by simpa [StartsWord] using starts
    -- The word goes on while what follows is not blank.
    by_cases more : StartsWord text
    · obtain ⟨word, rest, rfl, isWord, ends⟩ := ih more
      refine ⟨c :: word, rest, rfl, ⟨by simp, ?_⟩, ends⟩
      intro d found
      rcases List.mem_cons.mp found with rfl | found
      · exact first
      · exact isWord.solid d found
    · refine ⟨[c], text, rfl, ⟨by simp, ?_⟩, (not_startsWord_iff text).mp more⟩
      intro d found
      rw [List.mem_singleton.mp found]
      exact first

/-- What may follow a word is blank, or it is a separator, one more word and what may follow that
one. -/
theorem EndsWord.cases {text : List Char} (ends : EndsWord text) : IsGap text ∨
    ∃ gap word rest, text = gap ++ (word ++ rest) ∧ IsSeparator gap ∧ IsWord word ∧
      EndsWord rest := by
  obtain ⟨gap, tail, rfl, blank, rfl | starts⟩ := exists_gap_split text
  · rw [List.append_nil]
    exact .inl blank
  · obtain ⟨word, rest, rfl, isWord, more⟩ := exists_word_split starts
    refine .inr ⟨gap, word, rest, rfl, ⟨?_, blank⟩, isWord, more⟩
    -- Without blanks between them the two words would be one.
    rintro rfl
    exact (not_startsWord_iff _).mpr ends starts

end TopicAccess.Text
