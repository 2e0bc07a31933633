import TopicAccess.Text.Blank
import TopicAccess.Text.Newline

/-!
# Files of variables

A file of variables holds assignments `NAME=value`, comments after a number sign, and blank lines. A
value is plain text up to the end of the line or a comment, or it is quoted, and then it may span
lines and hold escapes. A line that is no assignment is passed over; reading goes on with the next.

A value may refer to variables that have been set before it, in the file or in the environment.
-/
namespace TopicAccess.Settings

/-- Variables with their values in the order of their first mention. One may have no value. -/
abbrev Variables := List (String × Option String)

def Variables.set (known : Variables) (name : String) (value : Option String) : Variables :=
  match known with
  | [] => [(name, value)]
  | (other, old) :: rest =>
    if other = name then (other, value) :: rest
    else (other, old) :: Variables.set rest name value

namespace VariableFile

open Text (isSpacing)

/-- A statement of a file: a name, which a comment has none of, and the value it is given. -/
structure Statement where
  name : Option String
  value : Option (List Char)
deriving DecidableEq, Repr

/-- What has been read, and the text after it. A failure tells where reading stopped. -/
abbrev Reading (Value : Type) := Except (List Char) (Value × List Char)

/-- White space inside a line. -/
def isGap (c : Char) : Bool :=
  isSpacing c && c != '\n'

/-- Text after its leading white space inside the line. -/
def skipGap (text : List Char) : List Char :=
  text.dropWhile isGap

/-- What a letter after a backslash stands for between double quotes. -/
def doubleEscapes : List (Char × Char) := [
  ('\\', '\\'), ('\'', '\''), ('"', '"'), ('a', '\x07'), ('b', '\x08'), ('f', '\x0c'),
  ('n', '\n'), ('r', '\r'), ('t', '\t'), ('v', '\x0b')]

/-- What a character after a backslash stands for between single quotes. -/
def singleEscapes : List (Char × Char) := [('\\', '\\'), ('\'', '\'')]

/-- A text without its escapes. A backslash before any other character stands for itself. -/
def unescape (escapes : List (Char × Char)) : List Char → List Char
  | [] => []
  | '\\' :: c :: rest =>
    match escapes.lookup c with
    | some meaning => meaning :: unescape escapes rest
    | none => '\\' :: unescape escapes (c :: rest)
  | c :: rest => c :: unescape escapes rest

/-- Split a text behind an opening quote at the closing one. A backslash and the character behind
it, whichever that is, are part of the text. -/
def splitAtQuote? (quote : Char) : List Char → Option (List Char × List Char)
  | [] | ['\\'] => none
  | '\\' :: c :: rest =>
    (splitAtQuote? quote rest).map fun (inside, after) => ('\\' :: c :: inside, after)
  | c :: rest =>
    if c = quote then some ([], rest)
    else (splitAtQuote? quote rest).map fun (inside, after) => (c :: inside, after)

/-- A plain value before a comment, which is a number sign after white space. The character read
last is given. -/
def beforeComment (previous : Char) : List Char → List Char
  | [] => []
  | c :: rest =>
    if c = '#' && isSpacing previous then [] else c :: beforeComment c rest

def readValue (text : List Char) : Reading (List Char) :=
  match skipGap text with
  | '"' :: rest =>
    match splitAtQuote? '"' rest with
    | some (inside, after) => .ok (unescape doubleEscapes inside, after)
    | none => .error ('"' :: rest)
  | '\'' :: rest =>
    match splitAtQuote? '\'' rest with
    | some (inside, after) => .ok (unescape singleEscapes inside, after)
    | none => .error ('\'' :: rest)
  | _ =>
    let line := text.takeWhile (· != '\n')
    .ok (Text.dropEnds isSpacing (beforeComment '=' line), text.drop line.length)

def exportWord : List Char := "export".toList

/-- Text without the word that may stand before a name, which white space must follow. -/
def skipExport (text : List Char) : List Char :=
  let rest := text.drop exportWord.length
  if exportWord.isPrefixOf text && (rest.head?.map isGap).getD false then skipGap rest else text

/-- A name, which may stand between single quotes. A comment has none. -/
def readName (text : List Char) : Reading (Option String) :=
  match text with
  | '#' :: _ => .ok (none, text)
  | '\'' :: rest =>
    match rest.takeWhile (· != '\''), rest.dropWhile (· != '\'') with
    | [], _ => .error text
    | _, [] => .error text
    | name, _ :: after => .ok (some (String.ofList name), after)
  | _ =>
    match text.takeWhile fun c => c != '=' && c != '#' && !isSpacing c with
    | [] => .error text
    | name => .ok (some (String.ofList name), text.drop name.length)

/-- The text after a comment, if there is one, and the end of the line. -/
def readEnd (text : List Char) : Reading Unit :=
  let rest := match skipGap text with
    | '#' :: comment => comment.dropWhile (· != '\n')
    | _ => text
  match skipGap rest with
  | [] => .ok ((), [])
  | '\n' :: after => .ok ((), after)
  | _ => .error rest

def readStatement (text : List Char) : Reading Statement :=
  match readName (skipExport text) with
  | .error stop => .error stop
  | .ok (name, rest) =>
    match skipGap rest with
    | '=' :: rest =>
      match readValue rest with
      | .error stop => .error stop
      | .ok (value, rest) => (readEnd rest).map fun ((), after) => (⟨name, some value⟩, after)
    | rest => (readEnd rest).map fun ((), after) => (⟨name, none⟩, after)

def nextLine (text : List Char) : List Char :=
  (text.dropWhile (· != '\n')).drop 1

/-- The statements of a text. Each takes up at least one character. -/
def statements : Nat → List Char → List Statement
  | 0, _ => []
  | fuel + 1, text =>
    match text.dropWhile isSpacing with
    | [] => []
    | text =>
      match readStatement text with
      | .ok (statement, rest) => statement :: statements fuel rest
      | .error stop => statements fuel (nextLine stop)

/-- A reference to a variable: its name, what stands in for a missing one, and the number of
characters that the reference takes up. -/
structure Reference where
  name : List Char
  fallback : List Char
  length : Nat
deriving DecidableEq, Repr

/-- The reference with which a text begins: a name between braces after a dollar sign, behind which
a fallback may stand after a colon and a hyphen. -/
def Reference.ofText? : List Char → Option Reference
  | '$' :: '\x7b' :: text =>
    let name := text.takeWhile fun c => c != '\x7d' && c != ':'
    match text.drop name.length with
    | '\x7d' :: _ => some ⟨name, [], name.length + 3⟩
    | ':' :: '-' :: rest =>
      let fallback := rest.takeWhile (· != '\x7d')
      if fallback.length < rest.length then
        some ⟨name, fallback, name.length + fallback.length + 5⟩
      else none
    | _ => none
  | _ => none

/-- What a reference stands for. A variable without a value stands for nothing. -/
def Reference.value (known : Variables) (reference : Reference) : List Char :=
  match known.lookup (String.ofList reference.name) with
  | some value => (value.getD "").toList
  | none => reference.fallback

/-- A text with its references replaced. The first `skip` characters belong to the reference read
last. -/
def expandFrom (known : Variables) (skip : Nat) : List Char → List Char
  | [] => []
  | c :: rest =>
    match skip with
    | skip + 1 => expandFrom known skip rest
    | 0 =>
      match Reference.ofText? (c :: rest) with
      | some reference =>
        reference.value known ++ expandFrom known (reference.length - 1) rest
      | none => c :: expandFrom known 0 rest

/-- Carry out statements, one after the other. What the file has set counts more than the
environment. -/
def assign (environment : Variables) (known : Variables) : List Statement → Variables
  | [] => known
  | ⟨none, _⟩ :: rest => assign environment known rest
  | ⟨some name, value⟩ :: rest =>
    let value := value.map fun text =>
      String.ofList (expandFrom (known ++ environment) 0 text)
    assign environment (known.set name value) rest

def read (environment : Variables) (text : List Char) : Variables :=
  let text := Text.unifyNewlines text
  assign environment [] (statements (text.length + 1) text)

end VariableFile

end TopicAccess.Settings
