import SceneScript.Canvas
import SceneScript.Scene.Basic

/- The script of a scene: its elements are drawn one after the other on one canvas. -/
namespace SceneScript.Scene

/-- Whether a value is `{ "js": "…" }`, and the source in it. -/
def source? : Json → Option String
  | .object [("js", .text source)] => some source
  | _ => none

mutual

def value : Json → Value
  | .null => .null
  | .bool b => .bool b
  | .number x => .number x
  | .text s => .text s
  | .list items => .list (values items)
  | .object entries =>
    match source? (.object entries) with
    | some source => .verbatim source
    | none => .object (valueEntries entries)

def values : List Json → List Value
  | [] => []
  | j :: rest => value j :: values rest

def valueEntries : List (String × Json) → List (String × Value)
  | [] => []
  | (key, j) :: rest => (key, value j) :: valueEntries rest

end

def attributeSet (entries : List (String × Json)) : Attributes :=
  Attributes.empty.insertAll (valueEntries entries)

namespace CanvasDef

def target (d : CanvasDef) : Target :=
  match d.container with
  | some id => .container id d.width d.height
  | none => .position d.x d.y d.width d.height

def make (d : CanvasDef) (suffix : Nat → String) : Except Error Canvas :=
  match d.name with
  | some name => Canvas.named 0 d.target name suffix
  | none => Canvas.make 0 d.target suffix

end CanvasDef

def corners : List PathCommand → Except Error (List Path.Corner)
  | [] => .ok []
  | .step _ :: rest => corners rest
  | .corner _ direction :: rest => do
    let corner ← Path.Corner.ofText direction
    let more ← corners rest
    .ok (corner :: more)

def steps : List PathCommand → List Path.Corner → List Path.Step
  | [], _ => []
  | .step s :: rest, directions => s :: steps rest directions
  | .corner radius _ :: rest, direction :: directions =>
    .corner radius direction :: steps rest directions
  | .corner _ _ :: rest, [] => steps rest []

abbrev Known := List (String × Element)

def members (known : Known) (label : ElementLabel) : List String → Except Error (List Element)
  | [] => .ok []
  | id :: rest =>
    match Entries.get? id known with
    | none => .error (.scene label (.unknownMember id))
    | some e => do
      let more ← members known label rest
      .ok (e :: more)

def drawShape (c : Canvas) (known : Known) (label : ElementLabel) (a : Attributes) :
    ShapeDef → Except Error (Canvas × Element)
  | .circle cx cy r => c.draw (.circle cx cy r) a
  | .rect x y width height radius => c.draw (.rect x y width height radius) a
  | .ellipse cx cy rx ry => c.draw (.ellipse cx cy rx ry) a
  | .text x y content => c.draw (.text x y content) a
  | .image source x y width height => c.draw (.image source x y width height) a
  | .path data [] => c.draw (.path (data.getD "")) a
  | .path data commands => do
    Path.validate (data.getD "")
    let directions ← corners commands
    c.drawPath (data.getD "") (steps commands directions) a
  | .set ids => do
    let elements ← members known label ids
    c.group elements a

namespace TransformDef

def angle (x : Float) (radians : Bool) : Angle :=
  if radians then .radians x else .degrees x

def transform : TransformDef → Transform
  | rotate x radians absolute none => .rotate (angle x radians) absolute
  | rotate x radians _ (some (cx, cy)) => .rotateAbout (angle x radians) cx cy
  | translate dx dy => .translate dx dy
  | scale sx sy none => .scale sx sy
  | scale sx sy (some (cx, cy)) => .scaleAbout sx sy cx cy
  | toFront => .toFront
  | toBack => .toBack

end TransformDef

def AnimationLink.steps (l : AnimationLink) : List Animation.Step :=
  (attributeSet l.attributes).entries.map (fun (name, value) => .attr name value) ++
    (l.callback.map .onFinish).toList

def nestedSteps (l : AnimationLink) : List AnimationLink → List Animation.Step
  | [] => l.steps
  | next :: rest => l.steps ++ [.after next.seconds (nestedSteps next rest)]

namespace AnimationDef

def built (d : AnimationDef) (target : String) : Animation :=
  (Animation.start target d.first.seconds).run (nestedSteps d.first d.rest)

/-- A chain that repeats is started by a loop, any other by a function, and a single animation by
    a plain call with its set of attributes. -/
def statement (d : AnimationDef) (target : String) : Statement :=
  if d.first.loops then (d.built target).cycle
  else if d.rest.isEmpty then
    (Animation.single target d.first.seconds (attributeSet d.first.attributes)
      d.first.callback).animate
  else (d.built target).launch

end AnimationDef

namespace ElementDef

def label (d : ElementDef) (index : Nat) : ElementLabel :=
  match d.id with
  | some id => .named id
  | none => .numbered index

/-- An id that is taken is the first fault of an element. -/
def draw (d : ElementDef) (index : Nat) (c : Canvas) (known : Known) :
    Except Error (Canvas × Element) :=
  let a : Attributes := { attributeSet d.attributes with id := d.id }
  match d.id with
  | some id =>
    if (Entries.get? id known).isSome then .error (.scene (d.label index) (.duplicateId id))
    else drawShape c known (d.label index) a d.shape
  | none => drawShape c known (d.label index) a d.shape

def effects (d : ElementDef) (e : Element) : List Statement :=
  (d.transforms.map fun t => e.transform t.transform) ++
    (d.animation.map fun a => a.statement e.name).toList

def remember (d : ElementDef) (e : Element) (known : Known) : Known :=
  match d.id with
  | some id => (id, e) :: known
  | none => known

end ElementDef

def drawAll : Nat → List ElementDef → Canvas → Known → Except Error Canvas
  | _, [], c, _ => .ok c
  | index, d :: rest, c, known => do
    let (c, e) ← d.draw index c known
    drawAll (index + 1) rest (c.pushAll (d.effects e)) (d.remember e known)

def render (s : Scene) (suffix : Nat → String) : Except Error Canvas := do
  let c ← s.canvas.make suffix
  drawAll 0 s.elements c []

end SceneScript.Scene
