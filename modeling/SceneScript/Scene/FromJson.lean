import SceneScript.Json.Numeral
import SceneScript.Json.Tree
import SceneScript.Scene.Reading

/- Scenes out of JSON. Records may be lists of their fields, and values that are kept nest no deeper
   than 127 levels. -/
namespace SceneScript.Scene.FromJson
open Json (Tree Numeral)

def numeral? : Tree → Option Numeral
  | .number written => Numeral.ofChars? written
  | _ => none

def text? : Tree → Option String
  | .text s => s
  | _ => none

def integer? (t : Tree) : Option Int := do
  (← numeral? t).toInt?

def natural? (t : Tree) : Option Nat := do
  let n ← integer? t
  if n < 0 then none else some n.toNat

def bool? : Tree → Option Bool
  | .bool b => some b
  | _ => none

def fields? (entries : List (Option String × Tree)) : Option (Fields Tree) :=
  entries.mapM fun (key, t) => key.map (·, t)

def list? : Nat → Tree → Option (List Tree)
  | _ + 1, .list items => some items
  | _, _ => none

def map? : Nat → Tree → Option (Fields Tree)
  | _ + 1, .object entries => fields? entries
  | _, _ => none

def record? (names : List String) : Nat → Tree → Option (Fields Tree)
  | _ + 1, .object entries => fields? entries
  | _ + 1, .list items => if names.length < items.length then none else some (names.zip items)
  | _, _ => none

def variant? : Nat → Tree → Option (String ⊕ String × Tree)
  | _, .text s => s.map .inl
  | _ + 1, .object [(some key, t)] => some (.inr (key, t))
  | _, _ => none

def datumOfNumeral : Numeral → Datum
  | .natural n => .whole n
  | .negative n => .whole (-n)
  | .double x => .real x

mutual

def datum? : Nat → Tree → Option Datum
  | _, .null => some .null
  | _, .bool b => some (.bool b)
  | _, .number written => (Numeral.ofChars? written).map datumOfNumeral
  | _, .text s => s.map .text
  | 0, .list _ => none
  | 0, .object _ => none
  | levels + 1, .list items => (items? levels items).map .list
  | levels + 1, .object entries => (entries? levels entries).map .record

def items? : Nat → List Tree → Option (List Datum)
  | _, [] => some []
  | levels, t :: rest => do
    let d ← datum? levels t
    let ds ← items? levels rest
    some (d :: ds)

def entries? : Nat → List (Option String × Tree) → Option (List (Datum × Datum))
  | _, [] => some []
  | levels, (key, t) :: rest => do
    let key ← key
    let d ← datum? levels t
    let ds ← entries? levels rest
    some ((.text key, d) :: ds)

end

def reader : Reader Option Tree where
  text := text?
  number t := (numeral? t).map Numeral.toFloat
  integer := integer?
  natural := natural?
  bool := bool?
  optional
    | .null => some none
    | t => some (some t)
  list := list?
  map := map?
  record := record?
  variant := variant?
  datum _ := datum?

def levels : Nat := 127

def scene? (text : String) : Option Scene := do
  reader.scene levels (← Tree.ofText? text)

end SceneScript.Scene.FromJson
