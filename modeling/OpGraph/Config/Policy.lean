import OpGraph.Config.Basic
import OpGraph.Config.Error

namespace OpGraph

def trimBlanks (chars : List Char) : List Char :=
  let isBlank := inRanges blankRanges
  ((chars.dropWhile isBlank).reverse.dropWhile isBlank).reverse

namespace UnsupportedPolicy

def name : UnsupportedPolicy → String
  | warn => "warn"
  | error => "error"
  | ignore => "ignore"

/-- The policy of a name, whatever the case of its letters and the blanks around it.  Only letters
of ASCII have a case here. -/
def parse (text : String) : Except ConfigError UnsupportedPolicy :=
  let word := (trimBlanks text.toList).map Char.toLower
  if word = warn.name.toList then .ok warn
  else if word = error.name.toList then .ok error
  else if word = ignore.name.toList then .ok ignore
  else .error (.unknownPolicy text)

end UnsupportedPolicy

end OpGraph
