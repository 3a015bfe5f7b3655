import OpGraph.Diagnostic
import OpGraph.Json.Token
import OpGraph.Text.Quoted

namespace OpGraph

/-- Texts that are neither accepted nor refused. -/
inductive ConfigFault where
  /-- The value of an unknown member starts with a token that starts no value. -/
  | unskippable (token : Json.Token)
  /-- A bracket in the value of an unknown member is still open at the end of the text. -/
  | unclosed
deriving DecidableEq

inductive ConfigError where
  /-- The text is not of the expected form. -/
  | malformed (error : Json.Error)
  /-- A policy has none of the three names. -/
  | unknownPolicy (text : String)
  | fatal (fault : ConfigFault)
deriving DecidableEq

namespace ConfigFault

def detail : ConfigFault → String
  | unskippable token => "not implemented: " ++ token.name
  | unclosed => "the text ends inside of brackets"

end ConfigFault

namespace ConfigError

def diagnostic : ConfigError → Diagnostic
  | malformed error => .parse error.message
  | unknownPolicy text =>
      .parse ("unsupported policy " ++ Quoted.ofText text ++ ", expected warn, error or ignore")
  | fatal fault => .fault fault.detail

end ConfigError

end OpGraph
