import SceneScript.Json
import SceneScript.Path.Builder

/- Scenes: a canvas and its elements, as a document describes them. -/
namespace SceneScript.Scene

/-- A canvas stands in its container, or at its coordinates if it has none. -/
structure CanvasDef where
  container : Option String
  x : Int32
  y : Int32
  width : UInt32
  height : UInt32
  name : Option String

/-- A step of a path; the direction of a corner is still a text. -/
inductive PathCommand where
  | step (s : Path.Step)
  | corner (radius : Float) (direction : String)

inductive ShapeDef where
  | circle (cx cy r : Float)
  | rect (x y width height : Float) (radius : Option Float)
  | ellipse (cx cy rx ry : Float)
  | text (x y : Float) (content : String)
  | image (source : String) (x y width height : Float)
  | path (data : Option String) (commands : List PathCommand)
  | set (members : List String)

inductive TransformDef where
  | rotate (angle : Float) (radians absolute : Bool) (center : Option (Float × Float))
  | translate (dx dy : Float)
  | scale (sx sy : Float) (center : Option (Float × Float))
  | toFront
  | toBack

structure AnimationLink where
  seconds : Float
  attributes : List (String × Json)
  callback : Option String
  loops : Bool

/-- An animation and those that follow it. Only the first can repeat the chain. -/
structure AnimationDef where
  first : AnimationLink
  rest : List AnimationLink

structure ElementDef where
  shape : ShapeDef
  id : Option String
  attributes : List (String × Json)
  transforms : List TransformDef
  animation : Option AnimationDef

end SceneScript.Scene

namespace SceneScript

structure Scene where
  canvas : Scene.CanvasDef
  elements : List Scene.ElementDef

end SceneScript
