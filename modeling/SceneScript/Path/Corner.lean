import SceneScript.Error
import SceneScript.Text.Blank

/- Directions of rounded corners. -/
namespace SceneScript.Path

/-- Where a stroke comes from, then where it turns to. -/
inductive Corner where
  | leftUp
  | leftDown
  | rightUp
  | rightDown
  | upRight
  | upLeft
  | downRight
  | downLeft
  deriving DecidableEq, Repr

namespace Corner

def all : List Corner :=
  [leftUp, leftDown, rightUp, rightDown, upRight, upLeft, downRight, downLeft]

def name : Corner → String
  | leftUp => "lu"
  | leftDown => "ld"
  | rightUp => "ru"
  | rightDown => "rd"
  | upRight => "ur"
  | upLeft => "ul"
  | downRight => "dr"
  | downLeft => "dl"

def ofText (text : String) : Except Error Corner :=
  match all.find? fun c => c.name == Text.lower (Text.trim text) with
  | some c => .ok c
  | none => .error (.invalidCorner text)

end Corner

end SceneScript.Path
