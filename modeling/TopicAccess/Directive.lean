import TopicAccess.Rule
import TopicAccess.Text.Word

/-!
# Directives

A line of rule text is a keyword and its operands, divided by blanks:

* `topic FILTER` grants reading and writing,
* `topic PERMISSION FILTER` grants what it names, and the filter is the rest of the line as it
  stands,
* `user NAME` begins the section of a principal,
* `pattern` is reserved and has no effect.

What a line means, and whether it means anything, depends on the line alone.
-/
namespace TopicAccess

/-- What a line of rule text says. -/
inductive Directive where
  | grant (rule : Rule)
  | enter (user : String)
  | reserved
deriving DecidableEq, Repr

inductive LineFault where
  | unknown
  | missingFilter
  | badPermission
  | missingUser
deriving DecidableEq, Repr

def LineFault.message (line : String) : LineFault → String
  | unknown => "invalid line definition found " ++ line
  | missingFilter => "topic directive requires a topic filter"
  | badPermission => "invalid permission token"
  | missingUser => "user directive requires a principal name"

/-- The first word of a line. -/
inductive Keyword where
  | topic
  | user
  | pattern
deriving DecidableEq, Repr

namespace Keyword

def text : Keyword → List Char
  | topic => ['t', 'o', 'p', 'i', 'c']
  | user => ['u', 's', 'e', 'r']
  | pattern => ['p', 'a', 't', 't', 'e', 'r', 'n']

/-- The keyword that a word is, ASCII capitals counting as small letters. No other character has a
lower case that occurs in a keyword. -/
def ofWord? (word : List Char) : Option Keyword :=
  let small := word.map Char.toLower
  if small = topic.text then some .topic
  else if small = user.text then some .user
  else if small = pattern.text then some .pattern
  else none

end Keyword

namespace Directive

/-- The words of a line whose first word begins the line. Blank lines and indented lines have
none. -/
def wordsOf (line : List Char) : Except LineFault (Text.Word × List Text.Word) :=
  match Text.words line with
  | keyword :: operands => if keyword.offset = 0 then .ok (keyword, operands) else .error .unknown
  | [] => .error .unknown

/-- The rule of a `topic` line. With three or more words the second one is the permission, and the
filter runs from the third word to the end of the line. -/
def ruleOf (line : List Char) : List Text.Word → Except LineFault Rule
  | [] => .error .missingFilter
  | [filter] => .ok ⟨String.ofList filter.text, .readWrite⟩
  | permission :: filter :: _ =>
    match Permission.ofToken? permission.text with
    | some permission => .ok ⟨String.ofList (line.drop filter.offset), permission⟩
    | none => .error .badPermission

def ofChars (line : List Char) : Except LineFault Directive :=
  match wordsOf line with
  | .error fault => .error fault
  | .ok (keyword, operands) =>
    match Keyword.ofWord? keyword.text, operands with
    | some .topic, operands => (ruleOf line operands).map grant
    | some .user, name :: _ => .ok (enter (String.ofList name.text))
    | some .user, [] => .error .missingUser
    | some .pattern, _ => .ok reserved
    | none, _ => .error .unknown

/-- The directive that a line is. -/
def ofLine (line : String) : Except LineFault Directive :=
  ofChars line.toList

end Directive

end TopicAccess
