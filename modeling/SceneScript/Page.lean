import SceneScript.Canvas
import SceneScript.Config

/- A page of its own for one canvas. -/
namespace SceneScript

def holder : Target → String
  | .container id _ _ => "<div id=\"" ++ Text.escapeHtml id ++ "\"></div>\n"
  | .position _ _ _ _ => ""

def page (c : Canvas) (config : Config) : String :=
  "<!DOCTYPE html>\n<html>\n<head>\n" ++ config.includeTag ++ "\n</head>\n<body>\n" ++
    holder c.target ++ c.scriptElement ++ "\n</body>\n</html>"

end SceneScript
