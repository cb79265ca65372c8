import SceneScript.Proofs.Fields

/- Shapes and path commands are read by the fields that their tags name. -/
namespace SceneScript.Scene

theorem choice?_mem {words : List String} {d : Datum} {word : String}
    (chosen : choice? words d = some word) : word ∈ words := by
  unfold choice? at chosen
  split at chosen
  · split at chosen
    · next known => cases chosen; exact List.contains_iff_mem.1 known
    · cases chosen
  · split at chosen
    · cases chosen
    · exact List.mem_of_getElem? chosen
  · cases chosen

namespace ShapeDef

def fieldNames : String → List String
  | "circle" => ["cx", "cy", "r"]
  | "rect" => ["x", "y", "width", "height", "radius"]
  | "ellipse" => ["cx", "cy", "rx", "ry"]
  | "text" => ["x", "y", "text"]
  | "image" => ["src", "x", "y", "width", "height"]
  | "path" => ["d", "commands"]
  | "set" => ["members"]
  | _ => []

def SameValue (name : String) (d e : Datum) : Prop :=
  if name = "commands" then commands? d = commands? e else d = e

theorem ofFields?_alike {fields others : Fields Datum}
    (tag : fields.once? "kind" = others.once? "kind")
    (same : ∀ kind, need fields "kind" (choice? kinds) = some kind →
      ∀ name ∈ fieldNames kind, Fields.Alike (SameValue name) name fields others) :
    ofFields? fields = ofFields? others := by
  have kind_same : need fields "kind" (choice? kinds) = need others "kind" (choice? kinds) := by
    simp only [need, tag]
  cases found : need fields "kind" (choice? kinds) with
  | none => simp only [ofFields?, ← kind_same, found, Option.bind_eq_bind, Option.bind_none]
  | some kind =>
    have once : ∀ name ∈ fieldNames kind, name ≠ "commands" →
        fields.once? name = others.once? name := by
      intro name known other
      refine ((same kind found name known).mono fun d e same => ?_).eq
      rwa [SameValue, if_neg other] at same
    have commands : "commands" ∈ fieldNames kind →
        orElse fields "commands" [] commands? = orElse others "commands" [] commands? := by
      intro known
      unfold orElse
      exact (same kind found _ known).cases rfl rfl fun d e same => same
    obtain ⟨_, -, found'⟩ := Option.bind_eq_some_iff.1 found
    obtain ⟨d, -, chosen⟩ := Option.bind_eq_some_iff.1 found'
    have known := choice?_mem chosen
    simp only [kinds, List.mem_cons, List.not_mem_nil, or_false] at known
    simp only [ofFields?, ← kind_same, found, Option.bind_eq_bind, Option.bind_some]
    rcases known with rfl | rfl | rfl | rfl | rfl | rfl | rfl <;>
      simp [fieldNames] at once commands <;> simp [need, maybe, once, commands]

end ShapeDef

namespace PathCommand

theorem ofFields?_congr {op : String} {fields others : Fields Datum}
    (same : ∀ name ∈ (fieldNames op).getD [], fields.once? name = others.once? name) :
    ofFields? op fields = ofFields? op others := by
  unfold ofFields?
  split <;> simp [fieldNames] at same <;> simp [needPoint, need, orElse, maybe, same]

def keyed (fields : Fields Datum) : List (Datum × Datum) :=
  fields.map fun f => (.text f.1, f.2)

theorem named?_keyed (names : List String) (fields : Fields Datum) :
    named? names (keyed fields) = some fields := by
  induction fields with
  | nil => rfl
  | cons f fields ih => simp only [keyed, List.map_cons, named?] at ih ⊢; rw [ih]; rfl

/-- A record of text keys is the command that it names, wherever the name stands. -/
theorem ofDatum?_keyed (fields : Fields Datum) :
    ofDatum? (.record (keyed fields)) =
      (need fields "op" (choice? ops)).bind fun op => ofFields? op fields := by
  have tag : (keyed fields).filter isOpKey = keyed (fields.filter fun f => f.1 == "op") :=
    List.filter_map
  have rest : (keyed fields).filter (fun e => !isOpKey e) =
      keyed (fields.filter fun f => f.1 != "op") :=
    List.filter_map
  have own : ∀ op, ofFields? op (fields.filter fun f => f.1 != "op") = ofFields? op fields := by
    intro op
    refine ofFields?_congr fun name known => Fields.once?_filter (· != "op") ?_ fields
    unfold fieldNames at known
    split at known <;> revert name <;> decide
  simp only [ofDatum?, tag, rest, need, Fields.once?, named?_keyed, Option.bind_eq_bind,
    Option.bind_some, own]
  generalize fields.filter (fun f => f.1 == "op") = found
  rcases found with _ | ⟨⟨_, word⟩, _ | ⟨_, _⟩⟩
  · rfl
  · simp only [keyed, List.map_cons, List.map_nil, Option.bind_some]
    congr 1
    funext op
    cases takes : fieldNames op with
    | none => exact ofFields?_congr (by simp [takes])
    | some names => rfl
  · rfl

end PathCommand

end SceneScript.Scene
