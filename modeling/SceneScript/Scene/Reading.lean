import SceneScript.Scene.Datum

/- Reading scenes out of documents. What the formats have in common is here; how they read single
   values is the matter of a `Reader`. -/
namespace SceneScript.Scene

/-- How values of type `ν` are read, each by what is expected of it. -/
structure Reader (m : Type → Type) (ν : Type) where
  text : ν → m String
  number : ν → m Float
  integer : ν → m Int
  natural : ν → m Nat
  bool : ν → m Bool
  optional : ν → m (Option ν)
  list : (levels : Nat) → ν → m (List ν)
  map : (levels : Nat) → ν → m (Fields ν)
  /-- The fields of a record, whose names are given in the order that a list may have them in. -/
  record : (names : List String) → (levels : Nat) → ν → m (Fields ν)
  variant : (levels : Nat) → ν → m (String ⊕ String × ν)
  /-- A value that nothing is expected of, nested no deeper than a number of levels; all keys are
      texts where that is asked for. -/
  datum : (textKeys : Bool) → (levels : Nat) → ν → m Datum

namespace Reader
variable {m : Type → Type} [Monad m] [MonadExceptOf Unit m] {ν α : Type} (F : Reader m ν)

def once (fields : Fields ν) (name : String) : m (Option ν) :=
  match fields.once? name with
  | some given => pure given
  | none => throw ()

def need (fields : Fields ν) (name : String) (read : ν → m α) : m α := do
  match ← once fields name with
  | some v => read v
  | none => throw ()

def orElse (fields : Fields ν) (name : String) (value : α) (read : ν → m α) : m α := do
  match ← once fields name with
  | some v => read v
  | none => pure value

def maybe (fields : Fields ν) (name : String) (read : ν → m α) : m (Option α) := do
  match ← once fields name with
  | none => pure none
  | some v =>
    match ← F.optional v with
    | none => pure none
    | some v => some <$> read v

def word (v : ν) : m UInt32 := do
  let n ← F.natural v
  if n < Nat.pow 2 32 then pure (UInt32.ofNat n) else throw ()

def signedWord (v : ν) : m Int32 := do
  let n ← F.integer v
  if -Nat.pow 2 31 ≤ n ∧ n < Nat.pow 2 31 then pure (Int32.ofInt n) else throw ()

def canvasFields : List String :=
  ["container", "x", "y", "width", "height", "name"]

def canvas (levels : Nat) (v : ν) : m CanvasDef := do
  let fields ← F.record canvasFields levels v
  return {
    container := ← F.maybe fields "container" F.text
    x := ← orElse fields "x" 0 F.signedWord
    y := ← orElse fields "y" 0 F.signedWord
    width := ← need fields "width" F.word
    height := ← need fields "height" F.word
    name := ← F.maybe fields "name" F.text }

def attributes (levels : Nat) (v : ν) : m (List (String × Json)) := do
  let pairs ← (← F.map levels v).mapM fun (key, v) => do
    match (← F.datum true (levels - 1) v).json? with
    | some j => pure (key, j)
    | none => throw ()
  return Entries.ofList pairs

def pair (levels : Nat) (v : ν) : m (Float × Float) := do
  match ← F.list levels v with
  | [x, y] => return (← F.number x, ← F.number y)
  | _ => throw ()

def transformBody (name : String) (levels : Nat) (v : ν) : m TransformDef := do
  match name with
  | "rotate" =>
    let fields ← F.record ["angle", "radians", "absolute", "center"] levels v
    return .rotate (← need fields "angle" F.number) (← orElse fields "radians" false F.bool)
      (← orElse fields "absolute" true F.bool) (← F.maybe fields "center" (F.pair (levels - 1)))
  | "translate" =>
    let fields ← F.record ["dx", "dy"] levels v
    return .translate (← need fields "dx" F.number) (← need fields "dy" F.number)
  | "scale" =>
    let fields ← F.record ["sx", "sy", "center"] levels v
    return .scale (← need fields "sx" F.number) (← need fields "sy" F.number)
      (← F.maybe fields "center" (F.pair (levels - 1)))
  | _ => throw ()

def transform (levels : Nat) (v : ν) : m TransformDef := do
  match ← F.variant levels v with
  | .inl "to_front" => return .toFront
  | .inl "to_back" => return .toBack
  | .inl _ => throw ()
  | .inr (name, body) => F.transformBody name (levels - 1) body

def transforms (levels : Nat) (v : ν) : m (List TransformDef) := do
  (← F.list levels v).mapM (F.transform (levels - 1))

def animationFields : List String :=
  ["seconds", "attrs", "callback", "then", "repeat"]

/-- Each animation that follows another is one level further down. -/
def animation : Nat → ν → m AnimationDef
  | 0, _ => throw ()
  | levels + 1, v => do
    let fields ← F.record animationFields (levels + 1) v
    let first : AnimationLink := {
      seconds := ← need fields "seconds" F.number
      attributes := ← orElse fields "attrs" [] (F.attributes levels)
      callback := ← F.maybe fields "callback" F.text
      loops := ← orElse fields "repeat" false F.bool }
    match ← F.maybe fields "then" (animation levels) with
    | none => return ⟨first, []⟩
    | some next => return ⟨first, next.first :: next.rest⟩

def commonFields : List String :=
  ["id", "attrs", "transforms", "animation"]

/-- All fields of an element but the common ones belong to its shape. -/
def element (levels : Nat) (v : ν) : m ElementDef := do
  let fields ← F.map levels v
  let levels := levels - 1
  let own ← (fields.filter fun f => !commonFields.contains f.1).mapM fun (key, v) => do
    return (key, ← F.datum false levels v)
  match ShapeDef.ofFields? own with
  | none => throw ()
  | some shape =>
    return {
      shape
      id := ← F.maybe fields "id" F.text
      attributes := ← orElse fields "attrs" [] (F.attributes levels)
      transforms := ← orElse fields "transforms" [] (F.transforms levels)
      animation := ← F.maybe fields "animation" (F.animation levels) }

def elements (levels : Nat) (v : ν) : m (List ElementDef) := do
  (← F.list levels v).mapM (F.element (levels - 1))

def scene (levels : Nat) (v : ν) : m Scene := do
  let fields ← F.record ["canvas", "elements"] levels v
  return {
    canvas := ← need fields "canvas" (F.canvas (levels - 1))
    elements := ← orElse fields "elements" [] (F.elements (levels - 1)) }

end Reader

end SceneScript.Scene
