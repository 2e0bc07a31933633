import Mathlib.Data.List.Chain
import TopicAccess.Proofs.Canonical

/-!
# The ends of lines

Each line of a file may be ended by a line feed, by a carriage return or by both, and the last one
may have no end. Lines that are written so are found again (`RuleFile.linesOf_textIn`), unless a
line feed follows a carriage return and the two are taken for one end. What a line of a file has to
say begins with a word and holds no line end, so it has words, and no line end gets into a store.
The main result is `RuleFile.load_line_ends`.
-/
namespace TopicAccess

namespace Text

/-- What may end a line. -/
inductive LineEnd where
  | feed
  | carriage
  | both
deriving DecidableEq, Repr

def LineEnd.text : LineEnd → List Char
  | feed => ['\n']
  | carriage => ['\r']
  | both => ['\r', '\n']

/-- A text without the end of a line. -/
def IsLine (text : List Char) : Prop :=
  ∀ c ∈ text, isLineEnd c = false

theorem IsLine.feed_not_mem {text : List Char} (isLine : IsLine text) : '\n' ∉ text := fun held =>
  absurd (isLine _ held) (by decide)

theorem IsLine.return_not_mem {text : List Char} (isLine : IsLine text) : '\r' ∉ text := fun held =>
  absurd (isLine _ held) (by decide)

theorem unifyNewlines_cons {c : Char} (differs : c ≠ '\r') (rest : List Char) :
    unifyNewlines (c :: rest) = c :: unifyNewlines rest := by
  simp [unifyNewlines, differs]

theorem unifyNewlines_append {piece : List Char} (free : '\r' ∉ piece) (rest : List Char) :
    unifyNewlines (piece ++ rest) = piece ++ unifyNewlines rest := by
  induction piece with
  | nil => rfl
  | cons c piece ih =>
    simp only [List.mem_cons, not_or] at free
    rw [List.cons_append, unifyNewlines_cons (Ne.symm free.1), ih free.2, List.cons_append]

/-- Every end of a line is read as a line feed. A carriage return must not have a line feed behind
it, since the two would be one end. -/
theorem unifyNewlines_end {ending : LineEnd} {rest : List Char}
    (apart : ending = .carriage → rest.head? ≠ some '\n') :
    unifyNewlines (ending.text ++ rest) = '\n' :: unifyNewlines rest := by
  cases ending with
  | feed => exact unifyNewlines_cons (by decide) rest
  | both => rfl
  | carriage =>
    have alone := apart rfl
    cases rest with
    | nil => rfl
    | cons c rest =>
      have differs : c ≠ '\n' := by simpa using alone
      simp [LineEnd.text, unifyNewlines, differs]

/-- A line is cut off at its end. -/
theorem lines_append_end {line : List Char} (isLine : IsLine line) {ending : LineEnd}
    {rest : List Char} (apart : ending = .carriage → rest.head? ≠ some '\n') :
    lines (line ++ (ending.text ++ rest)) = line :: lines rest := by
  rw [lines, unifyNewlines_append isLine.return_not_mem, unifyNewlines_end apart,
    splitAt_append isLine.feed_not_mem, lines]

theorem lines_of_isLine {line : List Char} (isLine : IsLine line) : lines line = [line] := by
  rw [lines, unifyNewlines_of_not_mem isLine.return_not_mem, splitAt_of_not_mem isLine.feed_not_mem]

end Text

open Text (LineEnd IsLine)

namespace RuleText

/-- A last line with nothing to say makes no difference. -/
theorem loadFrom_concat {line : String} (silent : content? line.toList = none) (strict : Bool)
    (number : Nat) (collector : Collector) (lines : List String) :
    loadFrom strict number collector (lines ++ [line]) =
      loadFrom strict number collector lines := by
  induction lines generalizing number collector with
  | nil => simp [loadFrom, silent]
  | cons first rest ih => simp only [List.cons_append, loadFrom, ih]

end RuleText

namespace RuleFile

/-! ### Texts with ends of lines -/

/-- The lines of a text: lines with an end, and at most one more behind them, without an end. -/
def linesIn (ended : List (String × LineEnd)) (last : Option String) : List String :=
  ended.map (·.1) ++ last.toList

/-- The text that such lines make. -/
def textIn (ended : List (String × LineEnd)) (last : Option String) : List Char :=
  ended.flatMap (fun entry => entry.1.toList ++ entry.2.text) ++ last.elim [] String.toList

/-- Two lines whose ends would be read as one: the second line is empty, so that its line feed
stands right behind the carriage return of the first one. -/
def Merge (line next : String × LineEnd) : Prop :=
  line.2 = .carriage ∧ next.1 = "" ∧ next.2 = .feed

section Ended

variable {ended : List (String × LineEnd)} {last : Option String}
  (areLines : ∀ line ∈ linesIn ended last, IsLine line.toList)

include areLines

/-- A text begins with a line feed only if its first line is empty and ends there. -/
theorem exists_of_head?_textIn (begins : (textIn ended last).head? = some '\n') :
    ∃ rest, ended = ("", .feed) :: rest := by
  cases ended with
  | nil =>
    cases last with
    | none => cases begins
    | some line =>
      have held := List.mem_of_head? begins
      exact absurd held (areLines line (by simp [linesIn])).feed_not_mem
  | cons entry rest =>
    obtain ⟨line, ending⟩ := entry
    have isLine := areLines line (by simp [linesIn])
    cases chars : line.toList with
    -- A line that is not empty begins with a character of its own.
    | cons c chars =>
      have first : c = '\n' := by simpa [textIn, chars] using begins
      exact absurd (by simp [chars, first]) isLine.feed_not_mem
    | nil =>
      obtain rfl : line = "" := by simpa using chars
      -- Of the three ends only one begins with a line feed.
      cases ending with
      | feed => exact ⟨rest, rfl⟩
      | carriage | both => simp [textIn, LineEnd.text] at begins

/-- Lines are found again whatever ends them. A text that stops at an end has an empty line behind
it. -/
theorem linesOf_textIn (apart : ended.IsChain fun line next => ¬Merge line next) :
    linesOf (textIn ended last) = ended.map (·.1) ++ [last.getD ""] := by
  induction ended with
  | nil =>
    cases last with
    | none => rfl
    | some line =>
      have isLine := areLines line (by simp [linesIn])
      have text : textIn [] (some line) = line.toList := rfl
      rw [linesOf, text, Text.lines_of_isLine isLine]
      simp
  | cons entry rest ih =>
    obtain ⟨line, ending⟩ := entry
    have isLine := areLines line (by simp [linesIn])
    have later : ∀ other ∈ linesIn rest last, IsLine other.toList := fun other member =>
      areLines other (List.mem_cons_of_mem _ member)
    have split : textIn ((line, ending) :: rest) last =
        line.toList ++ (ending.text ++ textIn rest last) := by
      simp [textIn]
    -- A line feed behind a carriage return would be that of an empty line.
    have alone : ending = .carriage → (textIn rest last).head? ≠ some '\n' := by
      rintro rfl begins
      obtain ⟨others, rfl⟩ := exists_of_head?_textIn later begins
      exact (List.isChain_cons_cons.mp apart).1 ⟨rfl, rfl, rfl⟩
    have found := ih later apart.tail
    rw [linesOf] at found ⊢
    rw [split, Text.lines_append_end isLine alone, List.map_cons, found]
    simp

end Ended

/-! ### What gets into a store -/

/-- What a line of a file has to say begins with a word and holds no end of a line, so it can be
divided into words. -/
theorem words_of_mem_linesOf {text : List Char} {line : String} (member : line ∈ linesOf text)
    {content : List Char} (said : RuleText.content? line.toList = some content) :
    Text.StartsWord content ∧ IsLine content ∧ ∃ words, Directive.wordsOf content = .ok words := by
  have endless := endless_of_mem_linesOf member
  obtain ⟨⟨indent, split, _⟩, first, begins, solid, _⟩ :=
    (RuleText.content?_eq_some_iff endless content).mp said
  -- What is said is the end of the line, so it holds nothing that the line does not hold.
  have isLine : IsLine content := by
    intro c held
    exact endless c (by rw [split]; exact List.mem_append_right _ held)
  have starts : Text.StartsWord content := by
    refine ⟨first, begins, ?_⟩
    rw [Text.isBlank, solid, isLine first (List.mem_of_head? begins), Bool.or_false]
  refine ⟨starts, isLine, ?_⟩
  obtain ⟨word, rest, rfl, isWord, ends⟩ := Text.exists_word_split starts
  exact ⟨_, Directive.wordsOf_word isWord ends⟩

/-- No end of a line is in a filter or in a name of a store. -/
structure Endless (store : RuleStore) : Prop where
  anonymous : ∀ rule ∈ store.anonymous, IsLine rule.filter.toList
  names : ∀ entry ∈ store.users, IsLine entry.1.toList
  users : ∀ entry ∈ store.users, ∀ rule ∈ entry.2, IsLine rule.filter.toList

theorem endless_of_wellFormed {store : RuleStore} (formed : store.WellFormed Rule.FitsLine) :
    Endless store where
  anonymous rule member := (formed.anonymous rule member).endless
  names entry member := by
    intro c held
    have solid := (formed.isWord entry member).solid c held
    rw [Text.isBlank, Bool.or_eq_false_iff] at solid
    exact solid.2
  users entry member rule held := (formed.users entry member rule held).endless

/-- **Ends of lines.** A file of lines that hold no end of a line, each ended by a line feed, a
carriage return or both and the last one perhaps by nothing, is loaded as the lines are, strictly or
leniently, with the same outcome, the same reports and the same notices behind the one of the file.
No carriage return may be followed by an empty line with a line feed. Whatever a file holds, what is
said in a line of it begins with a word and holds no end of a line, so that it has words, and there
is no end of a line in what is loaded from it. -/
theorem load_line_ends :
    (∀ (strict : Bool) (files : FileTree) (name : Text.Loose) (ended : List (String × LineEnd))
      (last : Option String), (∀ line ∈ linesIn ended last, IsLine line.toList) →
      (ended.IsChain fun line next => ¬Merge line next) → Reads files name (textIn ended last) →
      load strict files name = .ok ((RuleText.load strict (linesIn ended last)).noting
        (.fileRead (FileTree.Path.ofText name).text))) ∧
    (∀ (text : List Char), ∀ line ∈ linesOf text, ∀ content,
      RuleText.content? line.toList = some content →
      Text.StartsWord content ∧ IsLine content ∧ ∃ words, Directive.wordsOf content = .ok words) ∧
    ∀ (strict : Bool) (files : FileTree) (name : Text.Loose) (loading : RuleText.Loading)
      (store : RuleStore), load strict files name = .ok loading → loading.outcome = .ok store →
      Endless store := by
  refine ⟨?_, ?_, ?_⟩
  · intro strict files name ended last areLines apart reads
    have lines : RuleText.load strict (linesOf (textIn ended last)) =
        RuleText.load strict (linesIn ended last) := by
      rw [linesOf_textIn areLines apart, linesIn]
      -- Behind the last end there is an empty line more than in the list.
      cases last with
      | none =>
        rw [Option.toList_none, List.append_nil]
        exact RuleText.loadFrom_concat rfl strict 1 .empty _
      | some line => rfl
    rw [reads.load, lines]
  · intro text line member content said
    exact words_of_mem_linesOf member said
  · intro strict files name loading store loaded succeeded
    obtain ⟨text, _, gave⟩ := exists_reads_of_load_ok loaded succeeded
    exact endless_of_wellFormed (RuleText.wellFormed_of_load_ok gave fits_of_mem_directives)

/-- All three ends and none in one file, an empty line between two of them, and two characters that
end no line. -/
theorem load_line_ends_mixed :
    let ended : List (String × LineEnd) :=
      [("topic a", .carriage), ("", .both), ("user bob", .feed), ("nonsense\u2028", .carriage)]
    let lines := ["topic a", "", "user bob", "nonsense\u2028", "topic read b\x0bc"]
    let files : FileTree := FileTree.writeFile {} (.ofText "rules") (Text.Utf8.encode
      "topic a\r\r\nuser bob\nnonsense\u2028\rtopic read b\x0bc".toList)
    let store : RuleStore := ⟨[⟨"a", .readWrite⟩], [("bob", [⟨"b\x0bc", .read⟩])]⟩
    textIn ended (some "topic read b\x0bc") =
      "topic a\r\r\nuser bob\nnonsense\u2028\rtopic read b\x0bc".toList ∧
    (∀ line ∈ lines, IsLine line.toList) ∧ (ended.IsChain fun line next => ¬Merge line next) ∧
    ∃ loading, load false files "rules" = .ok loading ∧ loading.outcome = .ok store ∧
      loading.reported = (RuleText.load false lines).reported ∧ Endless store := by
  intro ended lines files store
  have written : textIn ended (some "topic read b\x0bc") =
      "topic a\r\r\nuser bob\nnonsense\u2028\rtopic read b\x0bc".toList := by
    decide +kernel
  have apart : ended.IsChain fun line next => ¬Merge line next := by
    simp [ended, Merge]
  have plain : ∀ line ∈ lines, line.toList.any Text.isLineEnd = false := by decide
  have areLines : ∀ line ∈ lines, IsLine line.toList := fun line member =>
    Text.forall_of_any (plain line member)
  have reads : Reads files "rules" (textIn ended (some "topic read b\x0bc")) := by
    rw [written]
    rfl
  obtain ⟨loaded, -, endless⟩ := load_line_ends
  have here := loaded false files "rules" ended (some "topic read b\x0bc") areLines apart reads
  have made : (Collector.empty.applyAll (RuleText.directives lines)).store = store := by
    decide +kernel
  have outcome : (RuleText.load false lines).outcome = .ok store := by
    rw [RuleText.load, RuleText.loadFrom_lenient 1 rfl, made]
  exact ⟨written, areLines, apart, _, here, outcome, rfl,
    endless false files "rules" _ store here outcome⟩

end RuleFile
end TopicAccess
