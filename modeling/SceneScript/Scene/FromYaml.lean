import SceneScript.Scene.Reading
import SceneScript.Yaml.Plain
import SceneScript.Yaml.Scanner

/- Scenes out of YAML. Values that are kept nest no deeper than 128 levels, and aliases are followed
   at most a hundred times for each node of the document. -/
namespace SceneScript.Scene.FromYaml
open Yaml (Node Document Scalar)

/-- Reading with a number of aliases left to follow. -/
abbrev Read := StateT Nat Option

def ofOption {α : Type} (x : Option α) : Read α :=
  match x with
  | some a => pure a
  | none => failure

variable (d : Document)

def follow : Node → Read Node
  | .alias number => do
    match ← get with
    | 0 => failure
    | left + 1 =>
      set left
      ofOption (d.node? number)
  | n => pure n

def scalar (n : Node) : Read Scalar := do
  match ← follow d n with
  | .scalar s => pure s
  | _ => failure

def text (n : Node) : Read String := do
  return (← scalar d n).text

def core {α : Type} (name : String) (read : String → Option α) (n : Node) : Read α := do
  let s ← scalar d n
  if s.isOpenTo name then ofOption (read s.text) else failure

def natural? (s : String) : Option Nat :=
  (Yaml.natural? s.toList).filter (· < Nat.pow 2 64)

def integer? (s : String) : Option Int :=
  (Yaml.integer? s.toList).filter fun n => -Nat.pow 2 63 ≤ n && n < Nat.pow 2 63

def optional (n : Node) : Read (Option Node) := do
  let n ← follow d n
  match n with
  | .scalar s => return if ← ofOption s.isNull? then none else some n
  | n => return some n

/-- Nothing at all counts as an empty list or map, which takes no level. -/
def isNothing (s : Scalar) : Bool :=
  s.style == .plain && s.text == ""

def list (levels : Nat) (n : Node) : Read (List Node) := do
  match ← follow d n with
  | .sequence _ items => if levels = 0 then failure else pure items
  | .scalar s => if isNothing s then pure [] else failure
  | _ => failure

def map (levels : Nat) (n : Node) : Read (Fields Node) := do
  match ← follow d n with
  | .mapping _ entries =>
    if levels = 0 then failure
    else entries.mapM fun (key, value) => do return (← text d key, value)
  | .scalar s => if isNothing s then pure [] else failure
  | _ => failure

def datumOfResolved : Yaml.Resolved → Datum
  | .null => .null
  | .bool b => .bool b
  | .whole n => .whole n
  | .real x => .real x
  | .text s => .text s

def datumOfScalar (s : Scalar) : Read Datum :=
  ofOption (s.resolve?.map datumOfResolved)

def variant (levels : Nat) (n : Node) : Read (String ⊕ String × Node) := do
  match ← follow d n with
  | .scalar s =>
    match ← datumOfScalar s with
    | .text s => pure (.inl s)
    | _ => failure
  | .mapping tag [(key, value)] =>
    if Yaml.isPrivate tag ∨ levels = 0 then failure else return .inr (← text d key, value)
  | _ => failure

def datum (textKeys : Bool) : Nat → Node → Read Datum
  | 0, n => do datumOfScalar (← scalar d n)
  | levels + 1, n => do
    match ← follow d n with
    | .scalar s => datumOfScalar s
    | .sequence tag items =>
      if Yaml.isPrivate tag then failure
      else return .list (← items.mapM (datum textKeys levels))
    | .mapping tag entries =>
      if Yaml.isPrivate tag then failure
      else return .record (← entries.mapM fun (key, value) => do
        let key ← if textKeys then .text <$> text d key else datum textKeys levels key
        return (key, ← datum textKeys levels value))
    | .alias _ => failure

def reader : Reader Read Node where
  text := text d
  number := core d "float" Yaml.float?
  integer := core d "int" integer?
  natural := core d "int" natural?
  bool := core d "bool" Yaml.bool?
  optional := optional d
  list := list d
  map := map d
  record _ := map d
  variant := variant d
  datum := datum d

def levels : Nat := 128

def scene? (text : String) : Option Scene := do
  let d ← Document.ofTokens? (← Yaml.tokens? text.toList)
  ((reader d).scene levels d.root).run' (100 * d.root.size)

end SceneScript.Scene.FromYaml
