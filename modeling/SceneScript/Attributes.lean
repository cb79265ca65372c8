import SceneScript.Entries
import SceneScript.Value

/- Attribute names, and ordered sets of attributes under normalized names. -/
namespace SceneScript

/-- The attributes that the drawing library understands. Others are written all the same. -/
def knownAttributes : List String := [
  "clip-rect", "cx", "cy", "fill", "fill-opacity", "font", "font-family", "font-size",
  "font-weight", "height", "opacity", "path", "r", "rotation", "rx", "ry", "scale", "src", "stroke",
  "stroke-dasharray", "stroke-linecap", "stroke-linejoin", "stroke-miterlimit", "stroke-opacity",
  "stroke-width", "translation", "width", "x", "y", "gradient"]

def isKnownAttribute (name : String) : Bool :=
  knownAttributes.contains name

def isAttributeChar (c : Char) : Bool :=
  c.isAlphanum || c == '_' || c == '-'

/-- Keeps ASCII letters, digits, `_` and `-`, and writes every `_` as `-`. -/
def normalizeAttribute (name : String) : String :=
  String.ofList ((name.toList.filter isAttributeChar).map fun c => if c = '_' then '-' else c)

/-- Attributes in order of first insertion, with the id of their element if it has one. -/
structure Attributes where
  id : Option String
  entries : List (String × Value)
  deriving Inhabited

namespace Attributes

def empty : Attributes :=
  ⟨none, []⟩

def withId (a : Attributes) (id : String) : Attributes :=
  { a with id := some id }

def insert (a : Attributes) (name : String) (value : Value) : Attributes :=
  { a with entries := Entries.insert (normalizeAttribute name) value a.entries }

def get? (a : Attributes) (name : String) : Option Value :=
  Entries.get? (normalizeAttribute name) a.entries

def insertAll (a : Attributes) (pairs : List (String × Value)) : Attributes :=
  pairs.foldl (fun a (name, value) => a.insert name value) a

def object (a : Attributes) : Value :=
  .object a.entries

end Attributes

end SceneScript
