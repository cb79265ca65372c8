/- Tokens of a YAML text. -/
namespace SceneScript.Yaml

inductive Style where
  | plain
  | singleQuoted
  | doubleQuoted
  | literal
  | folded
  deriving DecidableEq, Repr, Inhabited

/-- The name of a type, character by character; `none` stands for bytes that spell none. -/
structure Tag where
  spelled : List (Option Char)
  deriving DecidableEq, Repr, Inhabited

namespace Tag

def ofText (s : String) : Tag :=
  ⟨s.toList.map some⟩

def isEmpty (t : Tag) : Bool :=
  t.spelled.isEmpty

def isLocal (t : Tag) : Bool :=
  t.spelled.head? == some (some '!')

def isText (t : Tag) : Bool :=
  t.spelled.all Option.isSome

def append (a b : Tag) : Tag :=
  ⟨a.spelled ++ b.spelled⟩

end Tag

inductive Token where
  | streamEnd
  | version (major minor : Nat)
  | shorthand (handle : String) (meaning : Tag)
  | documentStart
  | documentEnd
  | blockSequence
  | blockMapping
  | blockEnd
  | flowSequence
  | flowSequenceEnd
  | flowMapping
  | flowMappingEnd
  | blockEntry
  | flowEntry
  | key
  | value
  | alias (name : String)
  | anchor (name : String)
  | tag (handle : String) (rest : Tag)
  | scalar (text : String) (style : Style)
  deriving Repr, Inhabited

end SceneScript.Yaml
