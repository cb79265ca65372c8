/- Keyed lists in order of first insertion. -/
namespace SceneScript.Entries
variable {α : Type}

/-- Sets the value of a key: a new key goes to the end, a known one keeps its place. -/
def insert (key : String) (value : α) : List (String × α) → List (String × α)
  | [] => [(key, value)]
  | (k, v) :: rest => if k = key then (k, value) :: rest else (k, v) :: insert key value rest

def get? (key : String) : List (String × α) → Option α
  | [] => none
  | (k, v) :: rest => if k = key then some v else get? key rest

def ofList (pairs : List (String × α)) : List (String × α) :=
  pairs.foldl (fun entries (key, value) => insert key value entries) []

end SceneScript.Entries
