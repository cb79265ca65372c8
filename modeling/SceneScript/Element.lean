import SceneScript.Animation
import SceneScript.Error
import SceneScript.Identifier

/- Elements of a canvas and their bounding boxes. What is done to them gives statements. -/
namespace SceneScript

inductive Kind where
  | circle
  | rect
  | ellipse
  | text
  | image
  | path
  | set
  deriving DecidableEq, Repr

def Kind.name : Kind → String
  | circle => "circle"
  | rect => "rect"
  | ellipse => "ellipse"
  | text => "text"
  | image => "image"
  | path => "path"
  | set => "set"

/-- The variable that holds the box of an element; the page knows its fields only when it runs. -/
structure Box where
  canvas : Nat
  element : String
  name : String
  deriving DecidableEq, Repr

structure Element where
  canvas : Nat
  name : String
  kind : Kind
  box : Option Box
  deriving DecidableEq, Repr

inductive Transform where
  | rotate (angle : Angle) (absolute : Bool)
  | rotateAbout (angle : Angle) (x y : Float)
  | translate (dx dy : Float)
  | scale (sx sy : Float)
  | scaleAbout (sx sy x y : Float)
  | toFront
  | toBack

namespace Transform

def method : Transform → String
  | rotate _ _ | rotateAbout _ _ _ => "rotate"
  | translate _ _ => "translate"
  | scale _ _ | scaleAbout _ _ _ _ => "scale"
  | toFront => "toFront"
  | toBack => "toBack"

def arguments : Transform → List Value
  | rotate angle absolute => [angle.value, .bool absolute]
  | rotateAbout angle x y => [angle.value, .number x, .number y]
  | translate dx dy => [.number dx, .number dy]
  | scale sx sy => [.number sx, .number sy]
  | scaleAbout sx sy x y => [.number sx, .number sy, .number x, .number y]
  | toFront | toBack => []

end Transform

namespace Box

inductive Field where
  | x
  | y
  | width
  | height
  deriving DecidableEq, Repr

def Field.name : Field → String
  | x => "x"
  | y => "y"
  | width => "width"
  | height => "height"

def declare (b : Box) : Statement :=
  .measure false b.name b.element

def update (b : Box) : Statement :=
  .measure true b.name b.element

def fieldName (b : Box) (f : Field) : String :=
  b.name ++ "_" ++ f.name

def field (b : Box) (f : Field) : Statement :=
  .field (b.fieldName f) b.name f.name

def describe (b : Box) : String :=
  "BBox \x7b element: " ++ Text.shown b.element ++ ", name: " ++ Text.shown b.name ++ " \x7d"

end Box

namespace Element

def attr (e : Element) (name : String) (value : Value) : Statement :=
  .call e.name "attr" [.object [(normalizeAttribute name, value)]]

def apply (e : Element) (attributes : Attributes) : List Statement :=
  attributes.entries.map fun (name, value) => e.attr name value

def transform (e : Element) (t : Transform) : Statement :=
  .call e.name t.method t.arguments

def nodeName (e : Element) : String :=
  e.name ++ "_node"

def node (e : Element) : Statement :=
  .node e.nodeName e.name

def animation (e : Element) (seconds : Float) : Animation :=
  .start e.name seconds

def animate (e : Element) (seconds : Float) (attributes : Attributes) (callback : Option String) :
    Statement :=
  (Animation.single e.name seconds attributes callback).animate

/-- A change of an element with the statements that it gives. Where it fails, what it has done
    before stays done. -/
abbrev Change := EStateM Error (Element × List Statement)

namespace Change

def give (statements : Element → List Statement) : Change Unit :=
  modify fun (e, given) => (e, given ++ statements e)

def newBox (name : String) : Change Box := do
  let (e, _) ← get
  let b : Box := ⟨e.canvas, e.name, name⟩
  give fun _ => [b.declare]
  modify fun (e, given) => ({ e with box := some b }, given)
  return b

/-- The box made last; a first one is made if there is none. -/
def bbox : Change Box := do
  let (e, _) ← get
  match e.box with
  | some b => return b
  | none => newBox (e.name ++ "_bbox")

def bboxNamed (name : String) : Change Box :=
  if isIdentifier name then newBox name else throw (.invalidIdentifier name)

def reloadBbox : Change Box := do
  let (e, _) ← get
  match e.box with
  | some b =>
    give fun _ => [b.update]
    return b
  | none => bbox

end Change

end Element

end SceneScript
