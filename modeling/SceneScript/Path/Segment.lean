import SceneScript.Number.Coordinate

/- Segments of path data, before their numbers are rounded, and their text. -/
namespace SceneScript.Path

structure Point where
  x : Float
  y : Float

inductive Mode where
  | absolute
  | relative
  deriving DecidableEq, Repr

/-- A drawing command; its points are meant in the mode of its segment. -/
inductive Command where
  | moveTo (point : Point)
  | lineTo (point : Point)
  | cubic (first second point : Point)
  | smoothCubic (second point : Point)
  | quadratic (control point : Point)
  | smoothQuadratic (point : Point)
  | arc (radii : Point) (rotation : Float) (large sweep : Bool) (point : Point)

inductive Segment where
  | draw (mode : Mode) (command : Command)
  | close

namespace Command

def letter : Command → Char
  | moveTo _ => 'M'
  | lineTo _ => 'L'
  | cubic _ _ _ => 'C'
  | smoothCubic _ _ => 'S'
  | quadratic _ _ => 'Q'
  | smoothQuadratic _ => 'T'
  | arc _ _ _ _ _ => 'A'

def flag (b : Bool) : Float :=
  if b then 1 else 0

def numbers : Command → List Float
  | moveTo p => [p.x, p.y]
  | lineTo p => [p.x, p.y]
  | cubic a b p => [a.x, a.y, b.x, b.y, p.x, p.y]
  | smoothCubic b p => [b.x, b.y, p.x, p.y]
  | quadratic a p => [a.x, a.y, p.x, p.y]
  | smoothQuadratic p => [p.x, p.y]
  | arc r rotation large sweep p => [r.x, r.y, rotation, flag large, flag sweep, p.x, p.y]

def target : Command → Point
  | moveTo p => p
  | lineTo p => p
  | cubic _ _ p => p
  | smoothCubic _ p => p
  | quadratic _ p => p
  | smoothQuadratic p => p
  | arc _ _ _ _ p => p

end Command

namespace Segment

def letter : Segment → Char
  | draw .absolute command => command.letter
  | draw .relative command => command.letter.toLower
  | close => 'z'

def numbers : Segment → List Float
  | draw _ command => command.numbers
  | close => []

def text (s : Segment) : String :=
  s.letter.toString ++ " ".intercalate (s.numbers.map Number.coordinate)

end Segment

end SceneScript.Path
