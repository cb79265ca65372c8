import SceneScript.Path.Corner
import SceneScript.Path.Segment

/- Building path data step by step, with the pen and the last control point in view. -/
namespace SceneScript.Path

/-- The pen and the last control point, both absolute. -/
structure Cursor where
  pen : Point
  control : Point

structure Builder where
  initial : String
  segments : List Segment
  mode : Mode
  cursor : Cursor
  subpath : Point
  quadratic : Bool

inductive Step where
  | relatively
  | absolutely
  | moveTo (point : Point)
  | lineTo (point : Point)
  | curveTo (first second point : Point)
  | smoothCurveTo (second point : Point)
  | quadraticTo (control point : Point)
  | smoothQuadraticTo (point : Point)
  | arcTo (radii : Point) (rotation : Float) (large sweep : Bool) (point : Point)
  | waveTo (point : Point) (width : Option Float)
  | corner (radius : Float) (direction : Corner)
  | close

/-- The length of a handle of a cubic quarter circle, relative to the radius. -/
def kappa : Float := 0.5522

def origin : Point :=
  ⟨0, 0⟩

def quarter (radius : Float) : Corner → Point × Point × Point
  | .leftUp => (⟨-r, 0⟩, ⟨-radius, -(radius - r)⟩, ⟨-radius, -radius⟩)
  | .leftDown => (⟨-r, 0⟩, ⟨-radius, radius - r⟩, ⟨-radius, radius⟩)
  | .rightUp => (⟨r, 0⟩, ⟨radius, -(radius - r)⟩, ⟨radius, -radius⟩)
  | .rightDown => (⟨r, 0⟩, ⟨radius, radius - r⟩, ⟨radius, radius⟩)
  | .upRight => (⟨0, -r⟩, ⟨-(r - radius), -radius⟩, ⟨radius, -radius⟩)
  | .upLeft => (⟨0, -r⟩, ⟨r - radius, -radius⟩, ⟨-radius, -radius⟩)
  | .downRight => (⟨0, r⟩, ⟨-(r - radius), radius⟩, ⟨radius, radius⟩)
  | .downLeft => (⟨0, r⟩, ⟨r - radius, radius⟩, ⟨-radius, radius⟩)
where r := kappa * radius

namespace Builder

def ofInitial (initial : String) : Builder :=
  ⟨Text.trim initial, [], .absolute, ⟨origin, origin⟩, origin, false⟩

def resolve (b : Builder) (mode : Mode) (p : Point) : Point :=
  match mode with
  | .absolute => p
  | .relative => ⟨b.cursor.pen.x + p.x, b.cursor.pen.y + p.y⟩

/-- The control point after a command. A smooth quadratic curve reflects the last one of its kind;
    commands without a control point leave it on the pen. -/
def controlAfter (b : Builder) (mode : Mode) : Command → Point
  | .cubic _ control _ => b.resolve mode control
  | .smoothCubic control _ => b.resolve mode control
  | .quadratic control _ => b.resolve mode control
  | .smoothQuadratic _ =>
    let ⟨pen, control⟩ := b.cursor
    if b.quadratic then ⟨2 * pen.x - control.x, 2 * pen.y - control.y⟩ else pen
  | command => b.resolve mode command.target

def draw (b : Builder) (mode : Mode) (command : Command) : Builder :=
  let pen := b.resolve mode command.target
  { b with
    segments := b.segments ++ [.draw mode command]
    cursor := ⟨pen, b.controlAfter mode command⟩
    subpath := match command with
      | .moveTo _ => pen
      | _ => b.subpath
    quadratic := match command with
      | .quadratic _ _ | .smoothQuadratic _ => true
      | _ => false }

def wave (b : Builder) (p : Point) (width : Float) : Command :=
  let first : Point := match b.mode with
    | .absolute => ⟨b.cursor.pen.x + width, b.cursor.pen.y⟩
    | .relative => ⟨width, 0⟩
  .cubic first ⟨p.x - width, p.y⟩ p

/-- A corner is drawn relative to the pen in either mode. Closing takes the pen back to the start
    of the subpath. -/
def step (b : Builder) : Step → Builder
  | .relatively => { b with mode := .relative }
  | .absolutely => { b with mode := .absolute }
  | .moveTo p => b.draw b.mode (.moveTo p)
  | .lineTo p => b.draw b.mode (.lineTo p)
  | .curveTo first second p => b.draw b.mode (.cubic first second p)
  | .smoothCurveTo second p => b.draw b.mode (.smoothCubic second p)
  | .quadraticTo control p => b.draw b.mode (.quadratic control p)
  | .smoothQuadraticTo p => b.draw b.mode (.smoothQuadratic p)
  | .arcTo radii rotation large sweep p => b.draw b.mode (.arc radii rotation large sweep p)
  | .waveTo p none => b.draw b.mode (.lineTo p)
  | .waveTo p (some width) => b.draw b.mode (b.wave p width)
  | .corner radius direction =>
    let (first, second, p) := quarter radius direction
    b.draw .relative (.cubic first second p)
  | .close =>
    { b with
      segments := b.segments ++ [.close]
      cursor := ⟨b.subpath, b.subpath⟩
      quadratic := false }

def run (b : Builder) (steps : List Step) : Builder :=
  steps.foldl step b

def result (b : Builder) : String :=
  let drawn := " ".intercalate (b.segments.map Segment.text)
  if b.initial = "" then drawn
  else if b.segments.isEmpty then b.initial
  else b.initial ++ " " ++ drawn

end Builder

end SceneScript.Path
