import SceneScript.Error
import SceneScript.Scene.FromJson
import SceneScript.Scene.FromYaml
import SceneScript.Text.Blank

/- The formats of scene documents. -/
namespace SceneScript.Scene

inductive Format where
  | yaml
  | json
  deriving DecidableEq, Repr

namespace Format

def name : Format → String
  | yaml => "yaml"
  | json => "json"

def ofName? (name : String) : Option Format :=
  if name = "yaml" then some yaml else if name = "json" then some json else none

def components : List Char → List (List Char)
  | [] => [[]]
  | c :: rest =>
    if c = '/' then [] :: components rest
    else match components rest with
      | part :: parts => (c :: part) :: parts
      | [] => [[c]]

def fileName? (path : List Char) : Option (List Char) :=
  ((components path).filter fun part => part ≠ [] ∧ part ≠ ['.']).getLast?

/-- What follows the last dot of a file name, unless that dot is its first character. -/
def extension? (fileName : List Char) : Option (List Char) :=
  let after := fileName.reverse.takeWhile (· != '.')
  if fileName = ['.', '.'] ∨ fileName.length ≤ after.length + 1 then none else some after.reverse

def ofPath? (path : String) : Option Format := do
  let extension := Text.lower (String.ofList (← extension? (← fileName? path.toList)))
  if extension = "yaml" ∨ extension = "yml" then some yaml
  else if extension = "json" then some json
  else none

end Format

def ofText (format : Format) (text : String) : Except Error Scene :=
  match format with
  | .yaml => (FromYaml.scene? text).elim (.error .yaml) .ok
  | .json => (FromJson.scene? text).elim (.error .json) .ok

end SceneScript.Scene
