import TopicAccess.Text.Printable

/-!
# Quoted text

Messages show a path or a name between quotes. Single quotes are the rule; double quotes are taken
when the text holds a single quote and no double one. What has no visible form is written by its
code point, in two, four or eight hexadecimal digits.
-/
namespace TopicAccess.Text

/-- The lower-case hexadecimal digits of a number, padded with zeros to a width. -/
def hexDigits (width : Nat) (code : Nat) : List Char :=
  let digits := Nat.toDigits 16 code
  List.replicate (width - digits.length) '0' ++ digits

def quoteFor (text : List Char) : Char :=
  if text.contains '\'' && !text.contains '"' then '"' else '\''

def codeEscape (c : Char) : List Char :=
  if c.toNat < 0x100 then '\\' :: 'x' :: hexDigits 2 c.toNat
  else if c.toNat < 0x10000 then '\\' :: 'u' :: hexDigits 4 c.toNat
  else '\\' :: 'U' :: hexDigits 8 c.toNat

/-- How one character is written between the given quotes. -/
def quoteChar (quote c : Char) : List Char :=
  if c = quote || c = '\\' then ['\\', c]
  else if c = '\n' then ['\\', 'n']
  else if c = '\r' then ['\\', 'r']
  else if c = '\t' then ['\\', 't']
  else if isPrintable c then [c]
  else codeEscape c

def quoted (text : String) : String :=
  let quote := quoteFor text.toList
  String.ofList (quote :: text.toList.flatMap (quoteChar quote) ++ [quote])

end TopicAccess.Text
