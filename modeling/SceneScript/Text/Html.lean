/- Text inside an HTML page. -/
namespace SceneScript.Text

def escapedChar (c : Char) : List Char :=
  match c with
  | '&' => "&amp;".toList
  | '<' => "&lt;".toList
  | '>' => "&gt;".toList
  | '"' => "&quot;".toList
  | '\'' => "&#39;".toList
  | c => [c]

def escapeHtml (s : String) : String :=
  String.ofList (s.toList.flatMap escapedChar)

def scriptElement (script : String) : String :=
  "<script type=\"text/javascript\">\n//<![CDATA[\n" ++ script ++ "\n//]]>\n</script>"

end SceneScript.Text
