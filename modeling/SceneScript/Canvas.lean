import SceneScript.Element
import SceneScript.Path.Builder
import SceneScript.Path.Reading
import SceneScript.Text.Html

/- Canvases: where a paper is placed, the names that are drawn for it and its elements, and the
   statements so far. -/
namespace SceneScript

inductive Target where
  | container (id : String) (width height : UInt32)
  | position (x y : Int32) (width height : UInt32)
  deriving DecidableEq, Repr

namespace Target

def checkSize (width height : UInt32) : Except Error Unit :=
  if width = 0 ∨ height = 0 then .error (.invalidDimensions width height) else .ok ()

def check : Target → Except Error Unit
  | container id width height =>
    if Text.trim id = "" then .error .invalidContainer else checkSize width height
  | position _ _ width height => checkSize width height

def ofWord (n : UInt32) : Value :=
  .number (Float.ofNat n.toNat)

def arguments : Target → List Value
  | container id width height => [.text id, ofWord width, ofWord height]
  | position x y width height =>
    [.number (Float.ofInt x.toInt), .number (Float.ofInt y.toInt), ofWord width, ofWord height]

end Target

inductive Shape where
  | circle (cx cy r : Float)
  | rect (x y width height : Float) (radius : Option Float)
  | ellipse (cx cy rx ry : Float)
  | text (x y : Float) (content : String)
  | image (source : String) (x y width height : Float)
  | path (data : String)

namespace Shape

def kind : Shape → Kind
  | circle _ _ _ => .circle
  | rect _ _ _ _ _ => .rect
  | ellipse _ _ _ _ => .ellipse
  | text _ _ _ => .text
  | image _ _ _ _ _ => .image
  | path _ => .path

/-- A rectangle without a radius has the radius zero. -/
def arguments : Shape → List Value
  | circle cx cy r => [.number cx, .number cy, .number r]
  | rect x y width height radius =>
    [.number x, .number y, .number width, .number height, .number (radius.getD 0)]
  | ellipse cx cy rx ry => [.number cx, .number cy, .number rx, .number ry]
  | text x y content => [.number x, .number y, .text content]
  | image source x y width height =>
    [.text source, .number x, .number y, .number width, .number height]
  | path data => [.text data]

def check : Shape → Except Error Unit
  | path data => Path.validate data
  | _ => .ok ()

end Shape

structure Canvas where
  /-- Tells canvases apart, whatever their names. -/
  number : Nat
  name : String
  target : Target
  suffix : Nat → String
  drawn : Nat
  statements : List Statement

namespace Canvas

/-- A change of a canvas. Where it fails, what it has changed before stays changed. -/
abbrev Change := EStateM Error Canvas

def push (c : Canvas) (s : Statement) : Canvas :=
  { c with statements := c.statements ++ [s] }

def pushAll (c : Canvas) (ss : List Statement) : Canvas :=
  { c with statements := c.statements ++ ss }

namespace Change

def demand : Except Error Unit → Change Unit
  | .ok _ => return
  | .error fault => throw fault

def nextSuffix : Change String := do
  let c ← get
  set { c with drawn := c.drawn + 1 }
  return c.suffix (c.drawn + 1)

def takeFreshName : Change Unit := do
  demand (← get).target.check
  let suffix ← nextSuffix
  modify fun c => { c with name := "_raphael_canvas_" ++ suffix }

def takeName (name : String) : Change Unit := do
  if isIdentifier name then
    demand (← get).target.check
    modify fun c => { c with name := name }
  else throw (.invalidIdentifier name)

def start (name : Option String) : Change Canvas := do
  match name with
  | some name => takeName name
  | none => takeFreshName
  get

def elementName (kind : Kind) : Option String → Change String
  | some id => if isIdentifier id then return id else throw (.invalidIdentifier id)
  | none => return "rafa_" ++ kind.name ++ "_" ++ (← nextSuffix)

def add (kind : Kind) (attributes : Attributes) (creation : String → String → List Statement) :
    Change Element := do
  let name ← elementName kind attributes.id
  modify fun c => c.pushAll (creation c.name name)
  let e : Element := ⟨(← get).number, name, kind, none⟩
  modify fun c => c.pushAll (e.apply attributes)
  return e

def draw (shape : Shape) (attributes : Attributes) : Change Element := do
  demand shape.check
  add shape.kind attributes fun paper name =>
    [.create name paper shape.kind.name shape.arguments]

def drawPath (initial : String) (steps : List Path.Step) (attributes : Attributes) :
    Change Element :=
  draw (.path ((Path.Builder.ofInitial initial).run steps).result) attributes

def group (members : List Element) (attributes : Attributes) : Change Element := do
  let c ← get
  match members.find? fun m => m.canvas != c.number with
  | some foreign => throw (.foreignElement foreign.name)
  | none =>
    add .set attributes fun paper name =>
      .create name paper "set" [] ::
        (if members.isEmpty then [] else [.join name (members.map Element.name)])

end Change

def after {α : Type} (c : Canvas) (change : Change α) : Except Error (Canvas × α) :=
  match change.run c with
  | .ok a c => .ok (c, a)
  | .error fault _ => .error fault

def blank (number : Nat) (target : Target) (suffix : Nat → String) : Canvas :=
  ⟨number, "", target, suffix, 0, []⟩

def make (number : Nat) (target : Target) (suffix : Nat → String) : Except Error Canvas :=
  ((blank number target suffix).after Change.takeFreshName).map Prod.fst

def named (number : Nat) (target : Target) (name : String) (suffix : Nat → String) :
    Except Error Canvas :=
  ((blank number target suffix).after (Change.takeName name)).map Prod.fst

def draw (c : Canvas) (shape : Shape) (attributes : Attributes) :
    Except Error (Canvas × Element) :=
  c.after (Change.draw shape attributes)

def drawPath (c : Canvas) (initial : String) (steps : List Path.Step) (attributes : Attributes) :
    Except Error (Canvas × Element) :=
  c.after (Change.drawPath initial steps attributes)

def group (c : Canvas) (members : List Element) (attributes : Attributes) :
    Except Error (Canvas × Element) :=
  c.after (Change.group members attributes)

def construction (c : Canvas) : String :=
  "new Raphael(" ++ Value.scriptArguments c.target.arguments ++ ")"

def script (c : Canvas) : String :=
  "\n".intercalate
    (("var " ++ c.name ++ " = " ++ c.construction ++ ";") :: c.statements.map Statement.text)

def scriptElement (c : Canvas) : String :=
  Text.scriptElement c.script

end Canvas

end SceneScript
