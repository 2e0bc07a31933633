import TopicAccess.Text.Blank

/-!
# Words of a line

A word is a longest run of characters other than blanks. It is kept with its offset, so that the
rest of the line from a word on can be taken verbatim.
-/
namespace TopicAccess.Text

/-- A word and the number of characters before it. -/
structure Word where
  offset : Nat
  text : List Char
deriving DecidableEq, Repr

/-- The words of a text whose first character has the given offset. A character that is not blank
joins the word that begins right after it, if there is one. -/
def wordsFrom (offset : Nat) : List Char → List Word
  | [] => []
  | c :: rest =>
    if isBlank c then wordsFrom (offset + 1) rest
    else match wordsFrom (offset + 1) rest with
      | word :: others =>
        if word.offset = offset + 1 then ⟨offset, c :: word.text⟩ :: others
        else ⟨offset, [c]⟩ :: word :: others
      | [] => [⟨offset, [c]⟩]

def words (line : List Char) : List Word :=
  wordsFrom 0 line

end TopicAccess.Text
