import SceneScript.Text.Html
import SceneScript.Uid

/- Configuration from the environment. -/
namespace SceneScript

structure Config where
  version : String
  source : String
  uid : Uid.Strategy

structure Environment where
  version : Option String
  source : Option String
  uid : Option String

namespace Config

def defaultVersion : String := "1.3.1"

def defaultSource (version : String) : String :=
  "raphael-" ++ version ++ ".min.js"

def default : Config :=
  ⟨defaultVersion, defaultSource defaultVersion, .timestamp⟩

/-- The version is checked before the strategy. -/
def ofEnvironment (env : Environment) : Except Error Config := do
  let version := env.version.getD defaultVersion
  if Text.trim version = "" then .error (.config .emptyVersion)
  else do
    let uid ← Uid.Strategy.ofText? env.uid
    .ok ⟨version, env.source.getD (defaultSource version), uid⟩

def includeTag (c : Config) : String :=
  "<script type=\"text/javascript\" src=\"" ++ Text.escapeHtml c.source ++ "\"></script>"

end Config

end SceneScript
