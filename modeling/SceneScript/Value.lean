import SceneScript.Json
import SceneScript.Number.Shortest
import SceneScript.Text.Quoted

/- Values that stand in a script. All but verbatim expressions are written as JSON. -/
namespace SceneScript

inductive Value where
  | null
  | bool (b : Bool)
  | number (x : Float)
  | text (s : String)
  | list (items : List Value)
  | object (entries : List (String × Value))
  /-- An expression of the script, written as it is. -/
  | verbatim (source : String)
  deriving Inhabited

namespace Value

def ofBool (b : Bool) : String :=
  if b then "true" else "false"

mutual

def script : Value → String
  | null => "null"
  | bool b => ofBool b
  | number x => Number.text x
  | text s => Text.quote s
  | list items => "[" ++ scriptItems items ++ "]"
  | object entries => "\x7b" ++ scriptEntries entries ++ "\x7d"
  | verbatim source => source

def scriptItems : List Value → String
  | [] => ""
  | [v] => v.script
  | v :: w :: rest => v.script ++ "," ++ scriptItems (w :: rest)

def scriptEntries : List (String × Value) → String
  | [] => ""
  | [(key, v)] => Text.quote key ++ ":" ++ v.script
  | (key, v) :: w :: rest => Text.quote key ++ ":" ++ v.script ++ "," ++ scriptEntries (w :: rest)

end

def scriptArguments (values : List Value) : String :=
  ", ".intercalate (values.map script)

mutual

/-- Equality of values, with numbers compared as numbers: `0` equals `-0`, and `NaN` nothing. -/
def same : Value → Value → Bool
  | null, null => true
  | bool a, bool b => a == b
  | number x, number y => x == y
  | text s, text t => s == t
  | list as, list bs => sameItems as bs
  | object as, object bs => sameEntries as bs
  | verbatim s, verbatim t => s == t
  | _, _ => false

def sameItems : List Value → List Value → Bool
  | [], [] => true
  | a :: as, b :: bs => a.same b && sameItems as bs
  | _, _ => false

def sameEntries : List (String × Value) → List (String × Value) → Bool
  | [], [] => true
  | (k, a) :: as, (l, b) :: bs => k == l && a.same b && sameEntries as bs
  | _, _ => false

end

mutual

def ofJson : Json → Value
  | .null => null
  | .bool b => bool b
  | .number x => number x
  | .text s => text s
  | .list items => list (ofJsonItems items)
  | .object entries => object (ofJsonEntries entries)

def ofJsonItems : List Json → List Value
  | [] => []
  | j :: rest => ofJson j :: ofJsonItems rest

def ofJsonEntries : List (String × Json) → List (String × Value)
  | [] => []
  | (key, j) :: rest => (key, ofJson j) :: ofJsonEntries rest

end

end Value

end SceneScript
