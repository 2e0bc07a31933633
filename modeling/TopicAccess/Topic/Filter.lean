import TopicAccess.Text.Split

/-!
# Topic filters

A topic and a filter are divided into levels at every slash. In a filter the level `+` stands for
exactly one level and the level `#` for all levels that remain, possibly none. A filter is well
formed when it is not empty, `#` occurs only as the whole of the last level and `+` only as the
whole of a level.
-/
namespace TopicAccess.Topic

def levels (text : String) : List (List Char) :=
  Text.splitAt '/' text.toList

/-- The level that stands for exactly one level. -/
def singleLevel : List Char := ['+']

/-- The level that stands for all levels that remain. -/
def multiLevel : List Char := ['#']

/-- Whether the wildcards stand where they may in a list of filter levels. -/
def wellPlaced : List (List Char) → Bool
  | [] => true
  | level :: rest =>
    (!level.contains '#' || (level == multiLevel && rest.isEmpty)) &&
      (!level.contains '+' || level == singleLevel) && wellPlaced rest

def isWellFormed (filter : String) : Bool :=
  filter != "" && wellPlaced (levels filter)

/-- Compare the levels of a filter with those of a topic, from the left. -/
def levelsMatch : List (List Char) → List (List Char) → Bool
  | [], topic => topic.isEmpty
  | level :: rest, topic =>
    if level = multiLevel then true
    else match topic with
      | [] => false
      | actual :: others => (level == singleLevel || level == actual) && levelsMatch rest others

/-- Whether a topic is covered by a filter. Every text covers itself, well formed or not; apart from
that a malformed filter covers nothing. -/
def covers (topic filter : String) : Bool :=
  topic == filter || (isWellFormed filter && levelsMatch (levels filter) (levels topic))

end TopicAccess.Topic

namespace TopicAccess

/-- A test that says whether a topic, the first argument, is covered by a filter, the second. -/
abbrev Matcher := String → String → Bool

end TopicAccess
