import SceneScript.Entries
import SceneScript.Scene.Basic

/- Values of a document before anything is expected of them, and the shapes and path commands that
   are made of them. -/
namespace SceneScript.Scene

/-- Whole numbers are kept apart from others, and keys need not be texts. -/
inductive Datum where
  | null
  | bool (b : Bool)
  | whole (n : Int)
  | real (x : Float)
  | text (s : String)
  | list (items : List Datum)
  | record (entries : List (Datum × Datum))
  deriving Inhabited

namespace Datum

def number? : Datum → Option Float
  | whole n => some (Float.ofInt n)
  | real x => some x
  | _ => none

def bool? : Datum → Option Bool
  | bool b => some b
  | _ => none

def text? : Datum → Option String
  | text s => some s
  | _ => none

def list? : Datum → Option (List Datum)
  | list items => some items
  | _ => none

mutual

/-- The JSON value of a datum whose keys are texts. A number without a value there is null, and of
    a key that occurs twice the first place and the last value count. -/
def json? : Datum → Option Json
  | null => some .null
  | bool b => some (.bool b)
  | whole n => some (.number (Float.ofInt n))
  | real x => some (if x.isFinite then .number x else .null)
  | text s => some (.text s)
  | list items => (jsonItems? items).map .list
  | record entries => (jsonEntries? entries).map fun pairs => .object (Entries.ofList pairs)

def jsonItems? : List Datum → Option (List Json)
  | [] => some []
  | d :: rest => do
    let j ← json? d
    let js ← jsonItems? rest
    some (j :: js)

def jsonEntries? : List (Datum × Datum) → Option (List (String × Json))
  | [] => some []
  | (key, d) :: rest => do
    let key ← text? key
    let j ← json? d
    let js ← jsonEntries? rest
    some ((key, j) :: js)

end

end Datum

abbrev Fields (α : Type) := List (String × α)

namespace Fields
variable {α β : Type}

def once? (fields : Fields α) (name : String) : Option (Option α) :=
  match fields.filter fun f => f.1 == name with
  | [] => some none
  | [(_, v)] => some (some v)
  | _ => none

end Fields

def need (fields : Fields Datum) (name : String) (read : Datum → Option α) : Option α := do
  let given ← fields.once? name
  given.bind read

def orElse (fields : Fields Datum) (name : String) (value : α) (read : Datum → Option α) :
    Option α := do
  match ← fields.once? name with
  | none => some value
  | some d => read d

def maybe (fields : Fields Datum) (name : String) (read : Datum → Option α) :
    Option (Option α) := do
  match ← fields.once? name with
  | none | some .null => some none
  | some d => (read d).map some

def needPoint (fields : Fields Datum) (x y : String) : Option Path.Point := do
  some ⟨← need fields x Datum.number?, ← need fields y Datum.number?⟩

/-- A word out of a list of them, or its place there. -/
def choice? (words : List String) : Datum → Option String
  | .text s => if words.contains s then some s else none
  | .whole n => if n < 0 then none else words[n.toNat]?
  | _ => none

def named? (names : List String) : List (Datum × Datum) → Option (Fields Datum)
  | [] => some []
  | (key, d) :: rest => do
    let more ← named? names rest
    match key with
    | .text s => some ((s, d) :: more)
    | .whole n =>
      if n < 0 then none
      else match names[n.toNat]? with
        | some name => some ((name, d) :: more)
        | none => some more
    | _ => none

namespace PathCommand

def ops : List String := [
  "relative", "absolute", "move_to", "line_to", "curve_to", "smooth_curve_to", "qcurve_to",
  "smooth_qcurve_to", "arc_to", "cpline_to", "corner", "close"]

/-- The fields of a command in the order that an array gives them; none for one that takes none. -/
def fieldNames (op : String) : Option (List String) :=
  match op with
  | "move_to" | "line_to" | "smooth_qcurve_to" => some ["x", "y"]
  | "curve_to" => some ["x1", "y1", "x2", "y2", "x", "y"]
  | "smooth_curve_to" => some ["x2", "y2", "x", "y"]
  | "qcurve_to" => some ["x1", "y1", "x", "y"]
  | "arc_to" => some ["rx", "ry", "rotation", "large_arc", "sweep", "x", "y"]
  | "cpline_to" => some ["x", "y", "width"]
  | "corner" => some ["radius", "direction"]
  | _ => none

def ofFields? (op : String) (fields : Fields Datum) : Option PathCommand :=
  let first := needPoint fields "x1" "y1"
  let second := needPoint fields "x2" "y2"
  let point := needPoint fields "x" "y"
  match op with
  | "relative" => some (.step .relatively)
  | "absolute" => some (.step .absolutely)
  | "close" => some (.step .close)
  | "move_to" => return .step (.moveTo (← point))
  | "line_to" => return .step (.lineTo (← point))
  | "curve_to" => return .step (.curveTo (← first) (← second) (← point))
  | "smooth_curve_to" => return .step (.smoothCurveTo (← second) (← point))
  | "qcurve_to" => return .step (.quadraticTo (← first) (← point))
  | "smooth_qcurve_to" => return .step (.smoothQuadraticTo (← point))
  | "arc_to" =>
    return .step (.arcTo (← needPoint fields "rx" "ry")
      (← orElse fields "rotation" 0 Datum.number?) (← orElse fields "large_arc" false Datum.bool?)
      (← orElse fields "sweep" false Datum.bool?) (← point))
  | "cpline_to" => return .step (.waveTo (← point) (← maybe fields "width" Datum.number?))
  | "corner" =>
    return .corner (← need fields "radius" Datum.number?) (← need fields "direction" Datum.text?)
  | _ => none

def isOpKey : Datum × Datum → Bool
  | (.text s, _) => s == "op"
  | _ => false

/-- A command as a record with its name under `op`, or as a list that starts with its name. -/
def ofDatum? : Datum → Option PathCommand
  | .record entries =>
    match entries.filter isOpKey with
    | [(_, word)] => do
      let op ← choice? ops word
      match fieldNames op with
      | none => ofFields? op []
      | some names => do
        let fields ← named? names (entries.filter fun e => !isOpKey e)
        ofFields? op fields
    | _ => none
  | .list (word :: items) => do
    let op ← choice? ops word
    let names := (fieldNames op).getD []
    if names.length < items.length then none else ofFields? op (names.zip items)
  | _ => none

end PathCommand

namespace ShapeDef

def kinds : List String :=
  ["circle", "rect", "ellipse", "text", "image", "path", "set"]

def texts? (d : Datum) : Option (List String) := do
  (← d.list?).mapM Datum.text?

def commands? (d : Datum) : Option (List PathCommand) := do
  (← d.list?).mapM PathCommand.ofDatum?

def ofFields? (fields : Fields Datum) : Option ShapeDef := do
  let number (name : String) := need fields name Datum.number?
  match ← need fields "kind" (choice? kinds) with
  | "circle" => return .circle (← number "cx") (← number "cy") (← number "r")
  | "rect" =>
    return .rect (← number "x") (← number "y") (← number "width") (← number "height")
      (← maybe fields "radius" Datum.number?)
  | "ellipse" => return .ellipse (← number "cx") (← number "cy") (← number "rx") (← number "ry")
  | "text" => return .text (← number "x") (← number "y") (← need fields "text" Datum.text?)
  | "image" =>
    return .image (← need fields "src" Datum.text?) (← number "x") (← number "y")
      (← number "width") (← number "height")
  | "path" =>
    return .path (← maybe fields "d" Datum.text?) (← orElse fields "commands" [] commands?)
  | "set" => return .set (← need fields "members" texts?)
  | _ => none

end ShapeDef

end SceneScript.Scene
