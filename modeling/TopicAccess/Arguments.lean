import TopicAccess.Json

/-!
# Named arguments

What is made from named arguments has arguments of its own, some of which it must be given and some
of which are given to it by their place. An argument given by place cannot be given by name as well.
-/
namespace TopicAccess

inductive ArgumentFault where
  | repeated (callee argument : String)
  | unexpected (callee argument : String)
  | missing (callee : String) (arguments : List String)
deriving DecidableEq, Repr

namespace ArgumentFault

def enumeration : List String → String
  | [] => ""
  | [name] => name
  | [first, second] => first ++ " and " ++ second
  | names => ", ".intercalate names.dropLast ++ ", and " ++ names.getLast?.getD ""

def message : ArgumentFault → String
  | repeated callee argument =>
    callee ++ "() got multiple values for argument '" ++ argument ++ "'"
  | unexpected callee argument =>
    callee ++ "() got an unexpected keyword argument '" ++ argument ++ "'"
  | missing callee arguments =>
    callee ++ "() missing " ++ toString arguments.length ++ " required positional argument" ++
      (if arguments.length = 1 then "" else "s") ++ ": " ++
      enumeration (arguments.map fun name => "'" ++ name ++ "'")

end ArgumentFault

namespace Arguments

/-- The first argument given by name that is given by place already. -/
def repeated? (callee : String) (placed : List String) (named : Json.Fields) :
    Option ArgumentFault :=
  (named.find? fun argument => placed.contains argument.1).map fun argument =>
    .repeated callee argument.1

/-- The first argument given by name that there is not, or else all that are missing. -/
def mismatch? (callee : String) (required optional : List String) (named : Json.Fields) :
    Option ArgumentFault :=
  match named.find? fun argument => !(required ++ optional).contains argument.1 with
  | some argument => some (.unexpected callee argument.1)
  | none =>
    match required.filter fun name => (named.get? name).isNone with
    | [] => none
    | missing => some (.missing callee missing)

end Arguments

end TopicAccess
