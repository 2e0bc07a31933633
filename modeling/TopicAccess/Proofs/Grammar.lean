import TopicAccess.Proofs.Keywords
import TopicAccess.Proofs.Words

/-!
# The grammar of rule lines

`Written form line directive` says how a directive may be written, without regard to how a line is
read. The main results are `Directive.ofChars_eq_ok_iff`, by which the reader accepts what can be
written and nothing else, and `Written.unique`, by which a line is written in one way at most.
-/
namespace TopicAccess

open Text

/-- The ways to write a directive: `topic` with a filter alone or with a permission before it,
`user`, and `pattern`. -/
inductive Form where
  | bareTopic
  | permittedTopic
  | user
  | pattern
deriving DecidableEq, Repr

/-- The words of a keyword, up to case. -/
structure Spells (keyword : Keyword) (word : List Char) : Prop where
  isWord : IsWord word
  lower : Text.lower word = keyword.text

/-- A line that begins with a keyword is neither indented nor a comment. -/
theorem Spells.begins {keyword : Keyword} {word : List Char} (known : Spells keyword word)
    (rest : List Char) :
    ∃ first, (word ++ rest).head? = some first ∧ isIndent first = false ∧ first ≠ '#' := by
  obtain ⟨first, tail, rfl⟩ := List.exists_cons_of_ne_nil known.isWord.nonempty
  have solid := known.isWord.solid first List.mem_cons_self
  simp only [isBlank, Bool.or_eq_false_iff] at solid
  refine ⟨first, rfl, solid.1, ?_⟩
  -- A change of case leaves the mark of a comment as it is, and no keyword begins with it.
  rintro rfl
  have lower := (lower_eq_iff keyword.text_plain _).mp known.lower
  cases keyword <;> simp [Keyword.text] at lower

/-- The lines that say a directive. -/
inductive Written : Form → List Char → Directive → Prop
  | bareTopic {keyword gap filter trailing : List Char} (known : Spells .topic keyword)
      (apart : IsSeparator gap) (isFilter : IsWord filter) (blank : IsGap trailing) :
      Written .bareTopic (keyword ++ (gap ++ (filter ++ trailing)))
        (.grant ⟨String.ofList filter, .readWrite⟩)
  | permittedTopic {keyword gap token gap' filter : List Char} {permission : Permission}
      (known : Spells .topic keyword) (apart : IsSeparator gap) (isToken : IsWord token)
      (named : Text.upper token = permission.capitals) (apart' : IsSeparator gap')
      (isFilter : StartsWord filter) :
      Written .permittedTopic (keyword ++ (gap ++ (token ++ (gap' ++ filter))))
        (.grant ⟨String.ofList filter, permission⟩)
  | user {keyword gap name rest : List Char} (known : Spells .user keyword)
      (apart : IsSeparator gap) (isName : IsWord name) (ends : EndsWord rest) :
      Written .user (keyword ++ (gap ++ (name ++ rest))) (.enter (String.ofList name))
  | pattern {keyword rest : List Char} (known : Spells .pattern keyword) (ends : EndsWord rest) :
      Written .pattern (keyword ++ rest) .reserved

theorem Written.begins {form : Form} {line : List Char} {directive : Directive}
    (written : Written form line directive) :
    ∃ first, line.head? = some first ∧ isIndent first = false ∧ first ≠ '#' := by
  cases written with
  | bareTopic known | permittedTopic known | user known | pattern known => exact known.begins _

/-- What tells the ways to write a directive apart: what is said, and in how many words. -/
def Form.Fits : Form → Directive → Nat → Prop
  | bareTopic, .grant _, words => words = 2
  | permittedTopic, .grant _, words => 2 < words
  | user, .enter _, _ => True
  | pattern, .reserved, _ => True
  | _, _, _ => False

theorem Form.Fits.unique {form form' : Form} {directive : Directive} {words : Nat}
    (fits : form.Fits directive words) (fits' : form'.Fits directive words) : form = form' := by
  cases directive <;> cases form <;> cases form' <;> simp only [Fits] at fits fits' <;>
    first | rfl | omega

theorem Written.fits {form : Form} {line : List Char} {directive : Directive}
    (written : Written form line directive) : form.Fits directive (words line).length := by
  cases written with
  | bareTopic known apart isFilter blank =>
    simp [Form.Fits, words, wordsFrom_word known.isWord (apart.endsWord_append _),
      wordsFrom_separator apart isFilter blank.endsWord, wordsFrom_of_isGap blank]
  | permittedTopic known apart isToken named apart' isFilter =>
    obtain ⟨word, rest, rfl, isWord, ends⟩ := exists_word_split isFilter
    simp [Form.Fits, words, wordsFrom_word known.isWord (apart.endsWord_append _),
      wordsFrom_separator apart isToken (apart'.endsWord_append _),
      wordsFrom_separator apart' isWord ends]
  | user | pattern => trivial

namespace Directive

/-! ### Reading lines -/

theorem wordsOf_word {keyword rest : List Char} (isWord : IsWord keyword) (ends : EndsWord rest) :
    wordsOf (keyword ++ rest) = .ok (⟨0, keyword⟩, wordsFrom keyword.length rest) := by
  simp [wordsOf, words, wordsFrom_word isWord ends]

theorem wordsOf_endsWord {line : List Char} (ends : EndsWord line) :
    wordsOf line = .error .unknown := by
  unfold wordsOf
  split
  next first operands found =>
    have later : 0 < first.offset := lt_offset_of_endsWord ends (by
      rw [show wordsFrom 0 line = words line from rfl, found]
      exact List.mem_cons_self)
    rw [if_neg (by omega)]
  · rfl

/-- What a line that begins with a keyword says, given the words after the keyword. -/
def ofOperands (line : List Char) : Keyword → List Word → Except LineFault Directive
  | .topic, operands => (ruleOf line operands).map grant
  | .user, name :: _ => .ok (enter (String.ofList name.text))
  | .user, [] => .error .missingUser
  | .pattern, _ => .ok reserved

theorem ofChars_spells {keyword : Keyword} {word rest : List Char} (known : Spells keyword word)
    (ends : EndsWord rest) : ofChars (word ++ rest) =
      ofOperands (word ++ rest) keyword (wordsFrom word.length rest) := by
  have found := (Keyword.ofWord?_eq_some_iff word keyword).mpr known.lower
  simp only [ofChars, wordsOf_word known.isWord ends, found]
  cases keyword with
  | topic | pattern => rfl
  | user => cases wordsFrom word.length rest <;> rfl

/-- With a permission before it, the filter is the rest of the line from the third word on. -/
theorem ruleOf_permitted {before token gap tail : List Char} {offset : Nat} {others : List Word}
    {filter : Word} {permission : Permission} (named : Text.upper token = permission.capitals)
    (place : filter.offset = (before ++ (token ++ gap)).length) :
    ruleOf (before ++ (token ++ (gap ++ tail))) (⟨offset, token⟩ :: filter :: others) =
      .ok ⟨String.ofList tail, permission⟩ := by
  have split : before ++ (token ++ (gap ++ tail)) = (before ++ (token ++ gap)) ++ tail := by simp
  simp only [ruleOf, (Permission.ofToken?_eq_some_iff token permission).mpr named, place]
  rw [split, List.drop_left]

/-- What can be written is read. -/
theorem ofChars_written {form : Form} {line : List Char} {directive : Directive}
    (written : Written form line directive) : ofChars line = .ok directive := by
  cases written with
  | bareTopic known apart isFilter blank =>
    rw [ofChars_spells known (apart.endsWord_append _),
      wordsFrom_separator apart isFilter blank.endsWord, wordsFrom_of_isGap blank]
    rfl
  | @permittedTopic keyword gap token gap' filter permission known apart isToken named apart'
      isFilter =>
    -- Only the offset of the third word counts: the filter goes on to the end of the line.
    obtain ⟨word, rest, rfl, isWord, ends⟩ := exists_word_split isFilter
    rw [ofChars_spells known (apart.endsWord_append _),
      wordsFrom_separator apart isToken (apart'.endsWord_append _),
      wordsFrom_separator apart' isWord ends]
    rw [ofOperands, ← List.append_assoc keyword, ruleOf_permitted named (by simp; omega)]
    rfl
  | user known apart isName ends =>
    rw [ofChars_spells known (apart.endsWord_append _), wordsFrom_separator apart isName ends,
      ofOperands]
  | pattern known ends => rw [ofChars_spells known ends, ofOperands]

private theorem written_of_ruleOf {keyword rest : List Char} (known : Spells .topic keyword)
    (ends : EndsWord rest) {rule : Rule}
    (read : ruleOf (keyword ++ rest) (wordsFrom keyword.length rest) = .ok rule) :
    ∃ form, Written form (keyword ++ rest) (.grant rule) := by
  -- What counts is whether no word, one word or more of them follow the keyword.
  rcases ends.cases with blank | ⟨gap, operand, rest, rfl, apart, isOperand, more⟩
  · rw [wordsFrom_of_isGap blank] at read
    cases read
  · rw [wordsFrom_separator apart isOperand more] at read
    rcases more.cases with blank | ⟨gap', second, rest, rfl, apart', isSecond, more⟩
    · rw [wordsFrom_of_isGap blank] at read
      cases read
      exact ⟨_, .bareTopic known apart isOperand blank⟩
    · rw [wordsFrom_separator apart' isSecond more] at read
      cases token : Permission.ofToken? operand with
      | none => simp [ruleOf, token] at read
      | some permission =>
        have named := (Permission.ofToken?_eq_some_iff operand permission).mp token
        rw [← List.append_assoc keyword, ruleOf_permitted named (by simp; omega)] at read
        cases read
        exact ⟨_, .permittedTopic known apart isOperand named apart' (isSecond.startsWord_append _)⟩

/-- The reader accepts what can be written, and nothing else. -/
theorem ofChars_eq_ok_iff (line : List Char) (directive : Directive) :
    ofChars line = .ok directive ↔ ∃ form, Written form line directive := by
  refine ⟨fun read => ?_, fun ⟨_, written⟩ => ofChars_written written⟩
  by_cases starts : StartsWord line
  · obtain ⟨word, rest, rfl, isWord, ends⟩ := exists_word_split starts
    cases found : Keyword.ofWord? word with
    | none => simp [ofChars, wordsOf_word isWord ends, found] at read
    | some keyword =>
      have known : Spells keyword word := ⟨isWord, (Keyword.ofWord?_eq_some_iff _ _).mp found⟩
      rw [ofChars_spells known ends] at read
      cases keyword with
      | topic =>
        cases result : ruleOf (word ++ rest) (wordsFrom word.length rest) with
        | error fault => simp [ofOperands, result, Except.map] at read
        | ok rule =>
          have same : grant rule = directive := by
            simpa [ofOperands, result, Except.map] using read
          subst same
          exact written_of_ruleOf known ends result
      | user =>
        rcases ends.cases with blank | ⟨gap, name, rest, rfl, apart, isName, more⟩
        · simp [wordsFrom_of_isGap blank, ofOperands] at read
        · rw [wordsFrom_separator apart isName more] at read
          cases read
          exact ⟨_, .user known apart isName more⟩
      | pattern =>
        cases read
        exact ⟨_, .pattern known ends⟩
  -- No word begins a line that is empty or indented, so no keyword does.
  · rw [ofChars, wordsOf_endsWord ((not_startsWord_iff line).mp starts)] at read
    cases read

end Directive

/-- A line is written in one way at most, and says one directive at most. -/
theorem Written.unique {form form' : Form} {line : List Char} {directive directive' : Directive}
    (written : Written form line directive) (written' : Written form' line directive') :
    form = form' ∧ directive = directive' := by
  have same : directive = directive' := Except.ok.inj
    ((Directive.ofChars_written written).symm.trans (Directive.ofChars_written written'))
  subst same
  exact ⟨written.fits.unique written'.fits, rfl⟩

end TopicAccess
