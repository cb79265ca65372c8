/- Names of script variables. -/
namespace SceneScript

def reservedWords : List String := [
  "break", "case", "catch", "class", "const", "continue", "debugger", "default", "delete", "do",
  "else", "enum", "export", "extends", "false", "finally", "for", "function", "if", "import", "in",
  "instanceof", "let", "new", "null", "return", "super", "switch", "this", "throw", "true", "try",
  "typeof", "var", "void", "while", "with", "yield"]

namespace Identifier

def isStart (c : Char) : Bool :=
  c.isAlpha || c == '_' || c == '$'

def isPart (c : Char) : Bool :=
  c.isAlphanum || c == '_' || c == '$'

end Identifier

/-- ASCII letters, digits, `_` and `$`, no digit first, and no reserved word. -/
def isIdentifier (name : String) : Bool :=
  match name.toList with
  | [] => false
  | c :: rest => Identifier.isStart c && rest.all Identifier.isPart && !reservedWords.contains name

end SceneScript
