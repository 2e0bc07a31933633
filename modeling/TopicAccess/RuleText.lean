import TopicAccess.Collector

/-!
# Loading rule text

Blank lines and comments are skipped, and so is the indentation of a line. Strict loading stops at
the first line that is rejected; lenient loading notes it and goes on. Either way each rejected line
is reported with its number, which counts all lines from one on, the skipped ones included.
-/
namespace TopicAccess.RuleText

def withoutEnd (line : List Char) : List Char :=
  Text.dropTail Text.isLineEnd line

/-- What a line has to say to a collector. Blank lines and comments have nothing to say. -/
def content? (line : List Char) : Option (List Char) :=
  match (withoutEnd line).dropWhile Text.isIndent with
  | [] => none
  | c :: rest => if c = '#' then none else some (c :: rest)

/-- What comes of loading rule text: the rules or the problem that stopped it, the problems reported
on the way, and what was noted. -/
structure Loading where
  outcome : Except Problem RuleStore
  reported : List Problem
  notices : List Notice

namespace Loading

def noting (notice : Notice) (later : Loading) : Loading :=
  { later with notices := notice :: later.notices }

def reporting (problem : Problem) (later : Loading) : Loading :=
  { later with reported := problem :: later.reported }

end Loading

/-- What is noted of the rules when all lines have been read. -/
def loadedNotice (store : RuleStore) : Notice :=
  .rulesLoaded store.anonymous.length store.users.length store.userRuleCount

/-- Load the lines from a given number on. -/
def loadFrom (strict : Bool) (number : Nat) (collector : Collector) : List String → Loading
  | [] =>
    { outcome := .ok collector.store, reported := [], notices := [loadedNotice collector.store] }
  | line :: rest =>
    match content? line.toList with
    | none => loadFrom strict (number + 1) collector rest
    | some content =>
      match collector.feed (String.ofList content) with
      | (after, .ok notice) => (loadFrom strict (number + 1) after rest).noting notice
      | (after, .error problem) =>
        let problem := problem.atLine number
        if strict then { outcome := .error problem, reported := [problem], notices := [] }
        else
          let skipped := Notice.lineSkipped number (String.ofList (withoutEnd line.toList))
            problem.message
          ((loadFrom strict (number + 1) after rest).noting skipped).reporting problem

def load (strict : Bool) (lines : List String) : Loading :=
  loadFrom strict 1 .empty lines

end TopicAccess.RuleText
