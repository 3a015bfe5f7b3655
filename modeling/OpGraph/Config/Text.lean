import OpGraph.Config.Members
import OpGraph.Config.Policy

namespace OpGraph

namespace Config

/-- The configuration with every member that is given put in place.  A text that is no policy makes
the whole of the members invalid. -/
def override (config : Config) (members : Members) : Except ConfigError Config := do
  let unsupported ← members.unsupported.mapM UnsupportedPolicy.parse
  return {
    debug := members.debug.getD config.debug
    unsupported := unsupported.getD config.unsupported
    prune := members.prune.getD config.prune
    verify := members.verify.getD config.verify }

/-- The default configuration overridden by the object that a text holds. -/
def ofText (text : String) : Except ConfigError Config := do
  default.override (← Members.ofText text)

end Config

end OpGraph
