/- JSON values. -/
namespace SceneScript

inductive Json where
  | null
  | bool (b : Bool)
  | number (x : Float)
  | text (s : String)
  | list (items : List Json)
  | object (entries : List (String × Json))
  deriving Inhabited

end SceneScript
