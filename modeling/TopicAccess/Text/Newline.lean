import TopicAccess.Text.Split

/-!
# Lines

A carriage return, with or without a line feed after it, ends a line just as a line feed does. No
other character ends a line.
-/
namespace TopicAccess.Text

def unifyNewlines : List Char → List Char
  | [] => []
  | '\r' :: '\n' :: rest => '\n' :: unifyNewlines rest
  | '\r' :: rest => '\n' :: unifyNewlines rest
  | c :: rest => c :: unifyNewlines rest

/-- The lines of a text without their ends. A final line end is followed by one empty line. -/
def lines (text : List Char) : List (List Char) :=
  splitAt '\n' (unifyNewlines text)

end TopicAccess.Text
