import SceneScript.Proofs.Tags

/- Where records stand in a JSON document, and what each of them is read from: the values of the
   fields that it has there. -/
namespace SceneScript.Scene
open Json (Tree)

namespace FromJson

/-- The parts of a document, by what is read there. -/
inductive Place where
  | scene
  | canvas
  | elements
  | element
  | transforms
  | transform
  | body (name : String)
  | animation
  | commands
  | command
  | value
  deriving DecidableEq

def tags (key : String) (words : List String) (entries : List (Option String × Tree)) :
    List String :=
  entries.filterMap fun (k, t) =>
    if k = some key then (datum? 0 t).bind (choice? words) else none

def isScalar : Tree → Bool
  | .list _ | .object _ => false
  | _ => true

theorem scalar_levels {t : Tree} (scalar : isScalar t = true) (levels : Nat) :
    datum? levels t = datum? 0 t := by
  cases t with
  | list _ => cases scalar
  | object _ => cases scalar
  | _ => cases levels <;> rfl

namespace Place

def field : Place → String → Place
  | scene, "canvas" => canvas
  | scene, "elements" => elements
  | element, "transforms" => transforms
  | element, "animation" => animation
  | element, "commands" => commands
  | transform, name => body name
  | animation, "then" => animation
  | _, _ => value

def bodyNames : String → List String
  | "rotate" => ["angle", "radians", "absolute", "center"]
  | "translate" => ["dx", "dy"]
  | "scale" => ["sx", "sy", "center"]
  | _ => []

/-- The names of the fields that a record has at a place. What an element or a command has depends
    on its tag. -/
def names : Place → List (Option String × Tree) → List String
  | scene, _ => ["canvas", "elements"]
  | canvas, _ => Reader.canvasFields
  | element, entries =>
    Reader.commonFields ++
      "kind" :: (tags "kind" ShapeDef.kinds entries).flatMap ShapeDef.fieldNames
  | body name, _ => bodyNames name
  | animation, _ => Reader.animationFields
  | command, entries =>
    "op" :: (tags "op" PathCommand.ops entries).flatMap fun op =>
      (PathCommand.fieldNames op).getD []
  | _, _ => []

def item : Place → Nat → Place
  | elements, _ => element
  | transforms, _ => transform
  | commands, _ => command
  | p, i => p.field ((p.names [])[i]?.getD "")

def isRecord : Place → Bool
  | scene | canvas | element | body _ | animation | command => true
  | _ => false

/-- Whether a field is kept before its name is looked at. -/
def keeps : Place → String → Bool
  | element, name => !Reader.commonFields.contains name
  | command, _ => true
  | _, _ => false

def Result : Place → Type
  | scene => Scene
  | canvas => CanvasDef
  | elements => List ElementDef
  | element => ElementDef
  | transforms => List TransformDef
  | transform | body _ => TransformDef
  | animation => AnimationDef
  | commands => Option (List PathCommand)
  | command => Option PathCommand
  | value => Tree

def read : (p : Place) → Nat → Tree → Option p.Result
  | scene => reader.scene
  | canvas => reader.canvas
  | elements => reader.elements
  | element => reader.element
  | transforms => reader.transforms
  | transform => reader.transform
  | body name => reader.transformBody name
  | animation => reader.animation
  | commands => fun levels t => (datum? levels t).map ShapeDef.commands?
  | command => fun levels t => (datum? levels t).map PathCommand.ofDatum?
  | value => fun _ t => some t

/-- Trees that are read as the same, and that are no values both or neither. -/
structure Agree (p : Place) (t u : Tree) : Prop where
  null : t = .null ↔ u = .null
  read : ∀ levels, p.read levels t = p.read levels u

theorem Agree.refl (p : Place) (t : Tree) : p.Agree t t :=
  ⟨Iff.rfl, fun _ => rfl⟩

theorem Agree.eq {t u : Tree} (agree : value.Agree t u) : t = u :=
  Option.some.inj (agree.read 0)

theorem optional_given {t : Tree} (given : t ≠ .null) : reader.optional t = some (some t) := by
  cases t with
  | null => exact absurd rfl given
  | _ => rfl

theorem Agree.optional {p : Place} {t u : Tree} (agree : p.Agree t u) :
    reader.optional t = reader.optional u ∨
      reader.optional t = some (some t) ∧ reader.optional u = some (some u) := by
  by_cases null : t = .null
  · exact .inl (by rw [null, agree.null.1 null])
  · exact .inr ⟨optional_given null, optional_given fun both => null (agree.null.2 both)⟩

def SameFields (p : Place) (names : List String) (fields others : Fields Tree) : Prop :=
  ∀ name ∈ names, Fields.Alike (p.field name).Agree name fields others

namespace SameFields
variable {p : Place} {names : List String} {fields others : Fields Tree}

theorem plain {name : String} (same : p.SameFields names fields others) (inside : name ∈ names)
    (value : p.field name = value) : fields.once? name = others.once? name := by
  have alike := same name inside
  rw [value] at alike
  exact (alike.mono fun _ _ agree => agree.eq).eq

theorem need (same : p.SameFields names fields others) (name : String) (inside : name ∈ names)
    (levels : Nat) :
    Reader.need fields name ((p.field name).read levels) =
      Reader.need others name ((p.field name).read levels) :=
  Reader.need_alike ((same name inside).mono fun _ _ agree => agree.read levels)

theorem orElse (same : p.SameFields names fields others) (name : String) (inside : name ∈ names)
    (absent : (p.field name).Result) (levels : Nat) :
    Reader.orElse fields name absent ((p.field name).read levels) =
      Reader.orElse others name absent ((p.field name).read levels) :=
  Reader.orElse_alike ((same name inside).mono fun _ _ agree => agree.read levels)

theorem maybe (same : p.SameFields names fields others) (name : String) (inside : name ∈ names)
    (levels : Nat) :
    reader.maybe fields name ((p.field name).read levels) =
      reader.maybe others name ((p.field name).read levels) :=
  Reader.maybe_alike reader ((same name inside).mono fun _ _ agree =>
    agree.optional.imp_right fun some => ⟨some.1, some.2, agree.read levels⟩)

end SameFields

def SameRecord (p : Place) (t u : Tree) : Prop :=
  ∀ levels, Option.Rel (p.SameFields (p.names []))
    (record? (p.names []) levels t) (record? (p.names []) levels u)

theorem scene_read {t u : Tree} (same : scene.SameRecord t u) (levels : Nat) :
    reader.scene levels t = reader.scene levels u := by
  refine bind_of_rel (same levels) fun fields others same => ?_
  have first : Reader.need fields "canvas" (reader.canvas (levels - 1)) =
      Reader.need others "canvas" (reader.canvas (levels - 1)) :=
    same.need "canvas" (by decide) (levels - 1)
  have second : Reader.orElse fields "elements" [] (reader.elements (levels - 1)) =
      Reader.orElse others "elements" [] (reader.elements (levels - 1)) :=
    same.orElse "elements" (by decide) [] (levels - 1)
  rw [first, second]

theorem canvas_read {t u : Tree} (same : canvas.SameRecord t u) (levels : Nat) :
    reader.canvas levels t = reader.canvas levels u := by
  refine bind_of_rel (same levels) fun fields others same => ?_
  have once : ∀ name ∈ Reader.canvasFields, fields.once? name = others.once? name :=
    fun name inside => same.plain inside rfl
  simp only [Reader.canvasFields, List.forall_mem_cons] at once
  simp only [Reader.maybe, Reader.orElse, Reader.need, Reader.once_eq, once]

theorem body_read {name : String} {t u : Tree} (same : (body name).SameRecord t u) (levels : Nat) :
    reader.transformBody name levels t = reader.transformBody name levels u := by
  unfold Reader.transformBody
  split
  case h_4 => rfl
  all_goals
    refine bind_of_rel (same levels) fun fields others same => ?_
    have once : ∀ name ∈ _, fields.once? name = others.once? name :=
      fun name inside => same.plain inside rfl
    simp only [names, bodyNames, List.forall_mem_cons] at once
    simp only [Reader.maybe, Reader.orElse, Reader.need, Reader.once_eq, once]

theorem animation_read {t u : Tree} (same : animation.SameRecord t u) (levels : Nat) :
    reader.animation levels t = reader.animation levels u := by
  cases levels with
  | zero => rfl
  | succ levels =>
    refine bind_of_rel (same (levels + 1)) fun fields others same => ?_
    have next : reader.maybe fields "then" (reader.animation levels) =
        reader.maybe others "then" (reader.animation levels) :=
      same.maybe "then" (by decide) levels
    have once : ∀ name ∈ ["seconds", "attrs", "callback", "repeat"],
        fields.once? name = others.once? name := by
      intro name inside
      have known : name ∈ animation.names [] ∧ animation.field name = value := by
        revert name
        decide
      exact same.plain known.1 known.2
    simp only [List.forall_mem_cons] at once
    rw [next]
    simp only [Reader.maybe, Reader.orElse, Reader.need, Reader.once_eq, once]

end Place

end FromJson

end SceneScript.Scene
