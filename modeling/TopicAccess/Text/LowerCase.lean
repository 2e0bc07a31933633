import TopicAccess.Text.LowerCase.Table

/-!
# Lower case

The mapping of Unicode to small letters, character by character. That a capital sigma at the end of
a word has a form of its own is left out of account.
-/
namespace TopicAccess.Text

def lowerChar (c : Char) : List Char :=
  match lowerExpansions.lookup c.toNat with
  | some codes => codes.map Char.ofNat
  | none =>
    match lowerRuns.find? (·.covers c.toNat) with
    | some run => [Char.ofNat (run.target c.toNat)]
    | none => [c]

def lower (text : List Char) : List Char :=
  text.flatMap lowerChar

end TopicAccess.Text
