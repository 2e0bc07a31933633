import TopicAccess.Text.UpperCase.Table

/-!
# Upper case

The full mapping of Unicode: a character may become several, and a character outside ASCII may
become an ASCII capital, as the dotless `ı` becomes `I`.
-/
namespace TopicAccess.Text

def upperChar (c : Char) : List Char :=
  match upperExpansions.lookup c.toNat with
  | some codes => codes.map Char.ofNat
  | none =>
    match upperRuns.find? (·.covers c.toNat) with
    | some run => [Char.ofNat (run.target c.toNat)]
    | none => [c]

/-- The upper case of a text, character by character. -/
def upper (text : List Char) : List Char :=
  text.flatMap upperChar

end TopicAccess.Text
