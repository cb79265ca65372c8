import SceneScript.Attributes
import SceneScript.Statement

/- Animations of an element, one after the other. -/
namespace SceneScript

/-- Degrees, radians, or an expression of the script that gives degrees. -/
inductive Angle where
  | degrees (x : Float)
  | radians (x : Float)
  | expression (source : String)

/-- The double nearest to `180 / π`. -/
def degreesPerRadian : Float := 57.29577951308232

def Angle.value : Angle → Value
  | degrees x => .number x
  | radians x => .number (x * degreesPerRadian)
  | expression source => .verbatim source

namespace Animation

structure Link where
  seconds : Float
  attributes : Attributes
  callback : Option String

end Animation

/-- A chain of animations of one element; each starts when the one before it has finished. -/
structure Animation where
  target : String
  first : Animation.Link
  rest : List Animation.Link

namespace Animation

def start (target : String) (seconds : Float) : Animation :=
  ⟨target, ⟨seconds, .empty, none⟩, []⟩

def attr (a : Animation) (name : String) (value : Value) : Animation :=
  let key := normalizeAttribute name
  { a with first := { a.first with attributes := a.first.attributes.insert key value } }

def attrs (a : Animation) (pairs : List (String × Value)) : Animation :=
  pairs.foldl (fun a (name, value) => a.attr name value) a

def pair (x y : Float) : Value :=
  .text (Number.text x ++ "," ++ Number.text y)

def onFinish (a : Animation) (body : String) : Animation :=
  { a with first := { a.first with callback := some body } }

def single (target : String) (seconds : Float) (attributes : Attributes)
    (callback : Option String) : Animation :=
  let a := (start target seconds).attrs attributes.entries
  match callback with
  | none => a
  | some body => a.onFinish body

def andThen (a next : Animation) : Animation :=
  { a with rest := next.first :: next.rest }

inductive Step where
  | attr (name : String) (value : Value)
  | translate (dx dy : Float)
  | scale (sx sy : Float)
  | rotate (angle : Angle)
  | onFinish (body : String)
  | after (seconds : Float) (steps : List Step)

mutual

def step (a : Animation) : Step → Animation
  | .attr name value => a.attr name value
  | .translate dx dy => a.attr "translation" (pair dx dy)
  | .scale sx sy => a.attr "scale" (pair sx sy)
  | .rotate angle => a.attr "rotation" angle.value
  | .onFinish body => a.onFinish body
  | .after seconds steps => a.andThen ((start a.target seconds).run steps)

def run (a : Animation) : List Step → Animation
  | [] => a
  | s :: rest => (a.step s).run rest

end

def milliseconds (seconds : Float) : Float :=
  Number.roundHalfAway (seconds * 1000)

def Link.motion (l : Link) (target : String) : Motion :=
  ⟨target, l.attributes.object, milliseconds l.seconds⟩

def following (target : String) : Option String → List Link → Continuation
  | none, [] => .nothing
  | some body, [] => .run body
  | none, l :: rest => .start (l.motion target) (following target l.callback rest)
  | some body, l :: rest => .startAndRun (l.motion target) (following target l.callback rest) body

def motion (a : Animation) : Motion :=
  a.first.motion a.target

def continuation (a : Animation) : Continuation :=
  following a.target a.first.callback a.rest

def animate (a : Animation) : Statement :=
  .animate a.motion a.continuation

def launch (a : Animation) : Statement :=
  .launch a.motion a.continuation

def cycle (a : Animation) : Statement :=
  .cycle a.motion a.continuation

def function (a : Animation) : String :=
  launcher a.motion a.continuation

end Animation

end SceneScript
