import Mathlib.Data.List.Basic
import Mathlib.Tactic.Common
import TopicAccess.Proofs.Acceptance

/-!
# Lines divided into words

The words of a line are given with their offsets. `DividesFrom` says, of the characters between
given offsets, when a list of words divides a line: the words stand where their offsets say, blanks
and nothing else stand between them, and nothing else stands behind the last one.

The words that are read from a line divide it, and no other words do (`dividesFrom_zero_iff`). The
link between the two is `Divided`, which builds a text up from words and blanks: a text is read as
it was built (`Divided.wordsFrom_eq`), and every list of words that divides a line tells how to
build it (`DividesFrom.divided`). The main result, `Directive.wordsOf_exact`, is about the lines of
rule text.
-/
namespace TopicAccess

namespace Text

/-- The offset right behind a word. -/
def Word.ending (word : Word) : Nat := word.offset + word.text.length

/-- The characters of a line from one offset up to another. -/
def between (line : List Char) (start stop : Nat) : List Char :=
  (line.drop start).take (stop - start)

/-! ### Building texts from words -/

/-- A text whose first character has the given offset is built from words: each begins where the
blanks before it end, and there are blanks between any two of them. -/
inductive Divided : Nat → List Char → List Word → Prop
  | last {word gap : List Char} (offset : Nat) (isWord : IsWord word) (blank : IsGap gap) :
      Divided offset (word ++ gap) [⟨offset, word⟩]
  | more {offset : Nat} {word gap rest : List Char} {words : List Word} (isWord : IsWord word)
      (apart : IsSeparator gap) (later : Divided (offset + word.length + gap.length) rest words) :
      Divided offset (word ++ (gap ++ rest)) (⟨offset, word⟩ :: words)

/-- What is built is read. -/
theorem Divided.wordsFrom_eq {offset : Nat} {text : List Char} {words : List Word}
    (divided : Divided offset text words) : wordsFrom offset text = words := by
  induction divided with
  | last offset isWord blank =>
    rw [wordsFrom_word isWord blank.endsWord, wordsFrom_of_isGap blank]
  | more isWord apart later ih =>
    rw [wordsFrom_word isWord (apart.endsWord_append _), wordsFrom_gap apart.blank, ih]

/-- A text that begins with a word can be built. -/
theorem exists_divided {text : List Char} (starts : StartsWord text) (offset : Nat) :
    ∃ words, Divided offset text words := by
  obtain ⟨word, rest, split, isWord, ends⟩ := exists_word_split starts
  rcases ends.cases with blank | ⟨gap, next, after, split', apart, isNext, _⟩
  · subst split
    exact ⟨_, .last offset isWord blank⟩
  -- What stands behind the blanks is shorter, since a word stands before it.
  · have shorter : (next ++ after).length < text.length := by
      have := List.length_pos_of_ne_nil isWord.nonempty
      simp only [split, split', List.length_append]
      omega
    obtain ⟨words, later⟩ := exists_divided (isNext.startsWord_append after)
      (offset + word.length + gap.length)
    subst split' split
    exact ⟨_, .more isWord apart later⟩
termination_by text.length
decreasing_by exact shorter

theorem Divided.startsWord {offset : Nat} {text : List Char} {words : List Word}
    (divided : Divided offset text words) : StartsWord text := by
  cases divided with
  | last _ isWord | more isWord => exact isWord.startsWord_append _

theorem divided_wordsFrom {text : List Char} (starts : StartsWord text) (offset : Nat) :
    Divided offset text (wordsFrom offset text) := by
  obtain ⟨words, divided⟩ := exists_divided starts offset
  rwa [divided.wordsFrom_eq]

/-! ### Words at their offsets -/

/-- A list of words divides what stands in a line from an offset on: the first word stands there,
each is a word and is found where it says that it is, blanks stand between any two neighbours, and
nothing but blanks behind the last one. -/
structure DividesFrom (line : List Char) (offset : Nat) (words : List Word) : Prop where
  first : words.head?.map Word.offset = some offset
  isWord : ∀ word ∈ words, IsWord word.text
  slice : ∀ word ∈ words, between line word.offset word.ending = word.text
  apart : words.IsChain fun word next => IsSeparator (between line word.ending next.offset)
  behind : ∀ word, words.getLast? = some word → IsGap (line.drop word.ending)

/-- What stands behind each word, up to the next one or to the end of the line. -/
def gapsBehind (line : List Char) : List Word → List (List Char)
  | [] => []
  | [word] => [line.drop word.ending]
  | word :: next :: words =>
    between line word.ending next.offset :: gapsBehind line (next :: words)

theorem between_append_drop (line : List Char) {start stop : Nat} (ordered : start ≤ stop) :
    between line start stop ++ line.drop stop = line.drop start := by
  have rest : line.drop stop = (line.drop start).drop (stop - start) := by
    rw [List.drop_drop, Nat.add_sub_cancel' ordered]
  rw [rest, between, List.take_append_drop]

theorem lt_of_between_ne_nil {line : List Char} {start stop : Nat}
    (nonempty : between line start stop ≠ []) : start < stop ∧ start < line.length := by
  simp only [between, ne_eq, List.take_eq_nil_iff, List.drop_eq_nil_iff, not_or] at nonempty
  omega

/-- A word that stands where it says is followed by what stands behind its end. -/
theorem word_append_drop {line : List Char} {word : Word}
    (slice : between line word.offset word.ending = word.text) :
    word.text ++ line.drop word.ending = line.drop word.offset := by
  rw [← slice]
  exact between_append_drop line (Nat.le_add_right _ _)

theorem between_of_drop {line text rest : List Char} {offset : Nat}
    (found : line.drop offset = text ++ rest) :
    between line offset (offset + text.length) = text ∧
      line.drop (offset + text.length) = rest := by
  constructor
  · rw [between, found, Nat.add_sub_cancel_left, List.take_left]
  · rw [← List.drop_drop, found, List.drop_left]

/-- The words of a text that is built divide every line that ends in it. -/
theorem Divided.dividesFrom {offset : Nat} {text : List Char} {words : List Word}
    (divided : Divided offset text words) {line : List Char} (ends : line.drop offset = text) :
    DividesFrom line offset words := by
  -- The rest of the text is the end of the same line, so the claim for it is about this line too.
  induction divided with
  | @last word gap offset isWord blank =>
    obtain ⟨here, rest⟩ := between_of_drop ends
    refine ⟨rfl, by simpa using isWord, by simpa [Word.ending] using here, .singleton _, ?_⟩
    intro other found
    obtain rfl : ⟨offset, word⟩ = other := by simpa using found
    rw [Word.ending, rest]
    exact blank
  | @more offset word gap rest words isWord apart later ih =>
    obtain ⟨here, tail⟩ := between_of_drop ends
    obtain ⟨gapHere, rest⟩ := between_of_drop tail
    have behind := ih rest
    obtain ⟨next, others, rfl⟩ : ∃ next others, words = next :: others := by
      cases words with
      | nil => cases behind.first
      | cons next others => exact ⟨next, others, rfl⟩
    have start : next.offset = offset + word.length + gap.length :=
      Option.some.inj behind.first
    refine ⟨rfl, ?_, ?_, ?_, behind.behind⟩
    · simpa using ⟨isWord, by simpa using behind.isWord⟩
    · simpa using ⟨by simpa [Word.ending] using here, by simpa using behind.slice⟩
    · refine .cons_cons ?_ behind.apart
      rw [Word.ending, start, gapHere]
      exact apart

section Neighbours

variable {line : List Char} {offset : Nat} {word next : Word} {words : List Word}

/-- Without its first word, a list of words divides what stands from the next one on. -/
theorem DividesFrom.tail (divides : DividesFrom line offset (word :: next :: words)) :
    DividesFrom line next.offset (next :: words) :=
  ⟨rfl, fun other member => divides.isWord other (List.mem_cons_of_mem word member),
    fun other member => divides.slice other (List.mem_cons_of_mem word member),
    (List.isChain_cons_cons.mp divides.apart).2,
    fun other last => divides.behind other (by simpa using last)⟩

theorem DividesFrom.separates (divides : DividesFrom line offset (word :: next :: words)) :
    IsSeparator (between line word.ending next.offset) :=
  (List.isChain_cons_cons.mp divides.apart).1

/-- What stands from a word on is the word, the blanks behind it, and what stands from the next one
on. -/
theorem DividesFrom.drop_eq (divides : DividesFrom line offset (word :: next :: words)) :
    line.drop offset =
      word.text ++ (between line word.ending next.offset ++ line.drop next.offset) := by
  obtain rfl : word.offset = offset := Option.some.inj divides.first
  have ordered := (lt_of_between_ne_nil divides.separates.nonempty).1
  rw [between_append_drop line (Nat.le_of_lt ordered),
    word_append_drop (divides.slice word List.mem_cons_self)]

/-- The blanks before a word end where it begins. -/
theorem DividesFrom.length_between (divides : DividesFrom line offset (word :: next :: words)) :
    word.ending + (between line word.ending next.offset).length = next.offset := by
  have ordered := (lt_of_between_ne_nil divides.separates.nonempty).1
  -- The next word is not empty, so it begins inside the line.
  have found : between line next.offset next.ending ≠ [] := by
    rw [divides.slice next (by simp)]
    exact (divides.isWord next (by simp)).nonempty
  have inside := (lt_of_between_ne_nil found).2
  rw [between, List.length_take, List.length_drop]
  omega

end Neighbours

/-- Words that divide a line tell how to build it. -/
theorem DividesFrom.divided {line : List Char} {offset : Nat} {words : List Word}
    (divides : DividesFrom line offset words) : Divided offset (line.drop offset) words := by
  induction words generalizing offset with
  | nil => cases divides.first
  | cons word words ih =>
    obtain rfl : word.offset = offset := Option.some.inj divides.first
    have isWord := divides.isWord word List.mem_cons_self
    cases words with
    | nil =>
      rw [← word_append_drop (divides.slice word List.mem_cons_self)]
      exact .last word.offset isWord (divides.behind word rfl)
    | cons next words =>
      have place : word.offset + word.text.length +
          (between line word.ending next.offset).length = next.offset := divides.length_between
      rw [divides.drop_eq]
      refine .more isWord divides.separates ?_
      -- Counted over the word and the blanks, the rest begins at the offset of the next word.
      rw [place]
      exact ih divides.tail

/-- What stands from the first word on is every word with what stands behind it. -/
theorem DividesFrom.joined {line : List Char} {offset : Nat} {words : List Word}
    (divides : DividesFrom line offset words) :
    (List.zipWith (fun word gap => word.text ++ gap) words (gapsBehind line words)).flatten =
      line.drop offset := by
  induction words generalizing offset with
  | nil => cases divides.first
  | cons word words ih =>
    cases words with
    | nil =>
      obtain rfl : word.offset = offset := Option.some.inj divides.first
      simpa [gapsBehind] using word_append_drop (divides.slice word List.mem_cons_self)
    | cons next words =>
      rw [divides.drop_eq, ← ih divides.tail]
      simp [gapsBehind]

/-- **The words of a line.** A list of words divides a line that begins with a word exactly when it
is the list that is read from it. -/
theorem dividesFrom_zero_iff (line : List Char) (words' : List Word) :
    DividesFrom line 0 words' ↔ StartsWord line ∧ words line = words' := by
  constructor
  · intro divides
    have divided := divides.divided
    rw [List.drop_zero] at divided
    exact ⟨divided.startsWord, divided.wordsFrom_eq⟩
  · rintro ⟨starts, rfl⟩
    exact (divided_wordsFrom starts 0).dividesFrom (List.drop_zero)

/-- Blanks at the end of a text change nothing of its words. -/
theorem wordsFrom_append_gap {gap : List Char} (blank : IsGap gap) (offset : Nat)
    (text : List Char) : wordsFrom offset (text ++ gap) = wordsFrom offset text := by
  induction text generalizing offset with
  | nil => exact wordsFrom_of_isGap blank offset
  | cons c text ih => simp only [List.cons_append, wordsFrom, ih]

end Text

namespace Directive

open Text

theorem wordsOf_of_startsWord {line : List Char} (starts : StartsWord line) :
    ∃ keyword operands, words line = keyword :: operands ∧
      wordsOf line = .ok (keyword, operands) := by
  obtain ⟨word, rest, rfl, isWord, ends⟩ := exists_word_split starts
  exact ⟨_, _, wordsFrom_word isWord ends 0, by simpa using wordsOf_word isWord ends⟩

theorem wordsOf_append_gap {gap : List Char} (blank : IsGap gap) (line : List Char) :
    wordsOf (line ++ gap) = wordsOf line := by
  rw [wordsOf, wordsOf, words, wordsFrom_append_gap blank]
  rfl

/-- A line that is empty or begins with a blank is rejected, and the problem names the line. -/
theorem feed_of_not_startsWord {collector : Collector} (unsealed : collector.isSealed = false)
    {line : String} (indented : ¬StartsWord line.toList) : collector.feed line =
      (collector, .error (.rejected ("invalid line definition found " ++ line) (some line)
        none)) := by
  have unreadable : ofLine line = .error .unknown := by
    rw [ofLine, ofChars, wordsOf_endsWord ((not_startsWord_iff _).mp indented)]
  rw [Collector.feed, unsealed, unreadable]
  rfl

/-- **How a line is divided.** The characters that divide words are six blanks of ASCII, and no
other. A line that begins with another character is divided into words: they stand at their offsets
with blanks between them, so that the line is put together from them and what stands behind each; no
other list of words divides the line; and blanks at its end change nothing. A line that is empty or
begins with a blank is rejected as a whole. -/
theorem wordsOf_exact (line : String) :
    let text := line.toList
    (∀ c, isBlank c = true ↔ c ∈ [' ', '\t', '\x0b', '\x0c', '\n', '\r']) ∧
    (∀ c ∈ ['\u00a0', '\u0085', '\u2028', '\x1c'], isBlank c = false) ∧
    (StartsWord text → ∃ keyword operands, wordsOf text = .ok (keyword, operands) ∧
      DividesFrom text 0 (keyword :: operands) ∧
      (List.zipWith (fun word gap => word.text ++ gap) (keyword :: operands)
        (gapsBehind text (keyword :: operands))).flatten = text ∧
      (∀ others, DividesFrom text 0 others → others = keyword :: operands) ∧
      ∀ gap, IsGap gap → wordsOf (text ++ gap) = .ok (keyword, operands)) ∧
    (¬StartsWord text → wordsOf text = .error .unknown ∧
      ∀ collector : Collector, collector.isSealed = false → collector.feed line =
        (collector, .error (.rejected ("invalid line definition found " ++ line) (some line)
          none))) := by
  intro text
  refine ⟨fun c => ?_, by simp [isBlank, isIndent, isLineEnd], fun starts => ?_,
    fun indented => ?_⟩
  · simp [isBlank, isIndent, isLineEnd, or_assoc]
  -- The line begins with a word: what is read divides it, and nothing else does.
  · obtain ⟨keyword, operands, read, found⟩ := wordsOf_of_startsWord starts
    have divides := (dividesFrom_zero_iff text _).mpr ⟨starts, read⟩
    refine ⟨keyword, operands, found, divides, divides.joined, fun others divides' => ?_, ?_⟩
    · rw [← read]
      exact ((dividesFrom_zero_iff text others).mp divides').2.symm
    · intro gap blank
      rw [wordsOf_append_gap blank, found]
  · exact ⟨wordsOf_endsWord ((not_startsWord_iff text).mp indented),
      fun collector unsealed => feed_of_not_startsWord unsealed indented⟩

/-- Blanks of Unicode at the beginning of a word, at its end and as a word. -/
theorem wordsOf_exact_foreign_blanks :
    let line := "\u00a0x\t \u0085\u2028 \x1c \n"
    let read : List Word :=
      [⟨0, ['\u00a0', 'x']⟩, ⟨4, ['\u0085', '\u2028']⟩, ⟨7, ['\x1c']⟩]
    StartsWord line.toList ∧ DividesFrom line.toList 0 read ∧
      ∀ others, DividesFrom line.toList 0 others → others = read := by
  intro line read
  have starts : StartsWord line.toList := ⟨'\u00a0', by decide, by decide⟩
  obtain ⟨keyword, operands, found, divides, _, unique, _⟩ :=
    (wordsOf_exact line).2.2.1 starts
  have same : wordsOf line.toList = .ok (⟨0, ['\u00a0', 'x']⟩,
      [⟨4, ['\u0085', '\u2028']⟩, ⟨7, ['\x1c']⟩]) := by decide
  obtain ⟨rfl, rfl⟩ := Prod.mk.inj (Except.ok.inj (found.symm.trans same))
  exact ⟨starts, divides, unique⟩

end Directive

end TopicAccess
