import SceneScript.Value

/- Statements of a script, and their text. -/
namespace SceneScript

structure Motion where
  target : String
  attributes : Value
  milliseconds : Float

/-- What runs when an animation has finished: the source of a body, a further animation, or both,
    the animation first. -/
inductive Continuation where
  | nothing
  | run (body : String)
  | start (motion : Motion) (after : Continuation)
  | startAndRun (motion : Motion) (after : Continuation) (body : String)

inductive Statement where
  | create (name paper method : String) (arguments : List Value)
  | join (set : String) (members : List String)
  | call (receiver method : String) (arguments : List Value)
  | node (name element : String)
  /-- The box of an element, in a new variable or in one declared before. -/
  | measure (declared : Bool) (name element : String)
  | field (name box part : String)
  | animate (motion : Motion) (after : Continuation)
  | launch (motion : Motion) (after : Continuation)
  /-- An animation that starts again after its own duration. -/
  | cycle (motion : Motion) (after : Continuation)
  | raw (text : String)

/-- The function that a repeated animation calls again. -/
def loopName : String := "rafa_loop"

def functionText (body : String) : String :=
  "(function() \x7b " ++ body ++ " \x7d)"

namespace Motion

def text (m : Motion) (finished : Option String) : String :=
  m.target ++ ".animate(" ++ m.attributes.script ++ ", " ++ Number.text m.milliseconds ++
    (match finished with
      | none => ""
      | some f => ", " ++ f) ++ ")"

end Motion

def Continuation.text? : Continuation → Option String
  | nothing => none
  | run body => some (functionText body)
  | start motion after => some (functionText (motion.text after.text? ++ ";"))
  | startAndRun motion after body =>
    some (functionText (functionText (motion.text after.text? ++ ";") ++ "(); " ++
      functionText body ++ "();"))

def launcher (motion : Motion) (after : Continuation) : String :=
  functionText (motion.text after.text? ++ ";")

def Statement.text : Statement → String
  | create name paper method arguments =>
    "var " ++ name ++ " = " ++ paper ++ "." ++ method ++ "(" ++ Value.scriptArguments arguments ++
      ");"
  | join set members => set ++ ".push(" ++ ", ".intercalate members ++ ");"
  | call receiver method arguments =>
    receiver ++ "." ++ method ++ "(" ++ Value.scriptArguments arguments ++ ");"
  | node name element => "var " ++ name ++ " = " ++ element ++ ".node;"
  | measure declared name element =>
    (if declared then "" else "var ") ++ name ++ " = " ++ element ++ ".getBBox();"
  | field name box part => "var " ++ name ++ " = " ++ box ++ "." ++ part ++ ";"
  | animate motion after => motion.text after.text? ++ ";"
  | launch motion after => launcher motion after ++ "();"
  | cycle motion after =>
    "(function " ++ loopName ++ "() \x7b " ++ launcher motion after ++ "(); setTimeout(" ++
      loopName ++ ", " ++ Number.text motion.milliseconds ++ "); \x7d)();"
  | raw text => text

end SceneScript
