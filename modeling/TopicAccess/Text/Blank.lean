/-!
# Blank characters

Rule text is laid out with ASCII blanks only: a no-break space or a line separator from further up
in Unicode is an ordinary character of a word.
-/
namespace TopicAccess.Text

/-- The characters that end a line of rule text. -/
def isLineEnd (c : Char) : Bool :=
  c == '\n' || c == '\r'

/-- The characters that may indent a line: space, tab, vertical tab and form feed. -/
def isIndent (c : Char) : Bool :=
  c == ' ' || c == '\t' || c == '\x0b' || c == '\x0c'

/-- The six characters that separate the words of a line. -/
def isBlank (c : Char) : Bool :=
  isIndent c || isLineEnd c

/-- The code points of white space in the sense of Unicode, as ranges with both ends included. -/
def whiteSpaceRanges : List (Nat × Nat) := [
  (0x9, 0xD), (0x20, 0x20), (0x85, 0x85), (0xA0, 0xA0), (0x1680, 0x1680), (0x2000, 0x200A),
  (0x2028, 0x2029), (0x202F, 0x202F), (0x205F, 0x205F), (0x3000, 0x3000)]

/-- White space in the sense of Unicode, which settings may be surrounded by. -/
def isWhiteSpace (c : Char) : Bool :=
  whiteSpaceRanges.any fun range => range.1 ≤ c.toNat && c.toNat ≤ range.2

/-- White space, or one of the four information separators of ASCII. -/
def isSpacing (c : Char) : Bool :=
  isWhiteSpace c || (0x1C ≤ c.toNat && c.toNat ≤ 0x1F)

/-- Text without its longest tail of characters that satisfy `p`. -/
def dropTail (p : Char → Bool) (text : List Char) : List Char :=
  (text.reverse.dropWhile p).reverse

/-- Text without the characters that satisfy `p` at either end. -/
def dropEnds (p : Char → Bool) (text : List Char) : List Char :=
  dropTail p (text.dropWhile p)

end TopicAccess.Text
