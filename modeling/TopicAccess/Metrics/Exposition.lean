import TopicAccess.Metrics

/-!
# The text form of metrics

One line for each sample: its name, its labels between braces if it has any, and its value. In a
label's value a backslash, a line feed and a quote are escaped.
-/
namespace TopicAccess.Sample

def escapeChar (c : Char) : List Char :=
  if c = '\\' then ['\\', '\\']
  else if c = '\n' then ['\\', 'n']
  else if c = '"' then ['\\', '"']
  else [c]

def labelText (label : String × String) : String :=
  label.1 ++ "=\"" ++ String.ofList (label.2.toList.flatMap escapeChar) ++ "\""

def labelsText (labels : List (String × String)) : String :=
  if labels.isEmpty then ""
  else "\x7b" ++ ",".intercalate (labels.map labelText) ++ "\x7d"

def valueText : SampleValue → String
  | .count n => Metrics.Number.text (Float.ofNat n)
  | .level n => Metrics.Number.text (Float.ofInt n)
  | .amount value => Metrics.Number.text value

def line (sample : Sample) : String :=
  sample.name ++ labelsText sample.labels ++ " " ++ valueText sample.value

/-- The lines of several samples in the order of their code points. -/
def sortedLines (samples : List Sample) : List String :=
  (samples.map line).mergeSort

end TopicAccess.Sample
