import SceneScript.Proofs.Attributes
import SceneScript.Proofs.Commands
import SceneScript.Proofs.Drawing

/- The faults of a scene and the statements of its elements, each read off the document. Rendering
   gives the first fault, or the canvas with all statements. -/
namespace SceneScript.Scene

def ids (defs : List ElementDef) : List String :=
  defs.filterMap ElementDef.id

namespace CanvasDef

def faults (d : CanvasDef) : List Error :=
  idFaults d.name ++
    (match d.container with
      | some id => faultIf (Text.trim id = "") .invalidContainer
      | none => []) ++
    faultIf (d.width = 0 ∨ d.height = 0) (.invalidDimensions d.width d.height)

def paper (d : CanvasDef) (suffix : Nat → String) : String :=
  match d.name with
  | some name => name
  | none => "_raphael_canvas_" ++ suffix 1

def blank (d : CanvasDef) (suffix : Nat → String) : Canvas :=
  ⟨0, d.paper suffix, d.target, suffix, if d.name.isNone then 1 else 0, []⟩

theorem target_faults (d : CanvasDef) : idFaults d.name ++ d.target.faults = d.faults := by
  simp only [faults, target, List.append_assoc]
  cases d.container <;> rfl

theorem make_checked (d : CanvasDef) (suffix : Nat → String) :
    d.make suffix = checked d.faults (d.blank suffix) := by
  rw [← d.target_faults]
  cases named : d.name with
  | none => simp only [make, blank, paper, named, Canvas.make_checked]; rfl
  | some name => simp only [make, blank, paper, named, Canvas.named_checked]; rfl

end CanvasDef

def pathData (data : Option String) : List PathCommand → String
  | [] => data.getD ""
  | commands => ((Path.Builder.ofInitial (data.getD "")).run (ownSteps commands)).result

namespace ShapeDef

def kind : ShapeDef → Kind
  | circle _ _ _ => .circle
  | rect _ _ _ _ _ => .rect
  | ellipse _ _ _ _ => .ellipse
  | text _ _ _ => .text
  | image _ _ _ _ _ => .image
  | path _ _ => .path
  | set _ => .set

def faults (label : ElementLabel) (earlier : List String) : ShapeDef → List Error
  | path data [] => Path.faults (data.getD "")
  | path data commands =>
    Path.faults (data.getD "") ++ cornerFaults commands ++ Path.faults (pathData data commands)
  | set members =>
    (members.filter fun id => !earlier.contains id).map fun id => .scene label (.unknownMember id)
  | _ => []

def creation (paper name : String) : ShapeDef → List Statement
  | circle cx cy r => [.create name paper "circle" [.number cx, .number cy, .number r]]
  | rect x y width height radius =>
    [.create name paper "rect"
      [.number x, .number y, .number width, .number height, .number (radius.getD 0)]]
  | ellipse cx cy rx ry =>
    [.create name paper "ellipse" [.number cx, .number cy, .number rx, .number ry]]
  | text x y content => [.create name paper "text" [.number x, .number y, .text content]]
  | image source x y width height =>
    [.create name paper "image"
      [.text source, .number x, .number y, .number width, .number height]]
  | path data commands => [.create name paper "path" [.text (pathData data commands)]]
  | set [] => [.create name paper "set" []]
  | set members => [.create name paper "set" [], .join name members]

end ShapeDef

def TransformDef.call (name : String) : TransformDef → Statement
  | rotate x radians absolute none =>
    .call name "rotate" [.number (if radians then x * degreesPerRadian else x), .bool absolute]
  | rotate x radians _ (some (cx, cy)) =>
    .call name "rotate"
      [.number (if radians then x * degreesPerRadian else x), .number cx, .number cy]
  | translate dx dy => .call name "translate" [.number dx, .number dy]
  | scale sx sy none => .call name "scale" [.number sx, .number sy]
  | scale sx sy (some (cx, cy)) =>
    .call name "scale" [.number sx, .number sy, .number cx, .number cy]
  | toFront => .call name "toFront" []
  | toBack => .call name "toBack" []

namespace ElementDef

def takenFaults (d : ElementDef) (index : Nat) (earlier : List String) : List Error :=
  match d.id with
  | some id => faultIf (id ∈ earlier) (.scene (d.label index) (.duplicateId id))
  | none => []

/-- The faults of an element after those with the given ids: an id that is taken, then the faults
    of its shape, then an id that is no identifier. -/
def faults (d : ElementDef) (index : Nat) (earlier : List String) : List Error :=
  d.takenFaults index earlier ++ d.shape.faults (d.label index) earlier ++ idFaults d.id

def attributeList (d : ElementDef) : List (String × Value) :=
  Entries.merged (Attributes.normalized (valueEntries d.attributes))

def ownAttributes (d : ElementDef) : Attributes :=
  ⟨d.id, (attributeSet d.attributes).entries⟩

def block (d : ElementDef) (paper name : String) : List Statement :=
  d.shape.creation paper name ++
    d.attributeList.map (fun (key, value) => .call name "attr" [.object [(key, value)]]) ++
    d.transforms.map (TransformDef.call name) ++
    (d.animation.map fun a => a.statement name).toList

end ElementDef

def faultsAfter (before : List ElementDef) : List ElementDef → List Error
  | [] => []
  | d :: rest => d.faults before.length (ids before) ++ faultsAfter (before ++ [d]) rest

def faults (s : Scene) : List Error :=
  s.canvas.faults ++ faultsAfter [] s.elements

def place (c : Canvas) (d : ElementDef) : Canvas :=
  c.extended d.id (d.block c.name (c.nextName d.shape.kind d.id))

def drawing (s : Scene) (suffix : Nat → String) : Canvas :=
  s.elements.foldl place (s.canvas.blank suffix)

/-- What is remembered while a scene is drawn: each id so far, with its element on the canvas. -/
structure Tracks (known : Known) (earlier : List String) (canvas : Nat) : Prop where
  present : ∀ id, (Entries.get? id known).isSome = true ↔ id ∈ earlier
  own : ∀ id e, Entries.get? id known = some e → e.name = id ∧ e.canvas = canvas

theorem members_checked {known : Known} {earlier : List String} {canvas : Nat}
    (tracks : Tracks known earlier canvas) (label : ElementLabel) (members : List String) :
    ∃ es, Scene.members known label members =
        checked ((ShapeDef.set members).faults label earlier) es ∧
      ((ShapeDef.set members).faults label earlier = [] →
        es.map Element.name = members ∧ ∀ e ∈ es, e.canvas = canvas) := by
  induction members with
  | nil => exact ⟨[], rfl, fun _ => ⟨rfl, by simp⟩⟩
  | cons id rest ih =>
    obtain ⟨es, run, sound⟩ := ih
    cases found : Entries.get? id known with
    | none =>
      have absent : id ∉ earlier := fun member => by
        simpa [found] using (tracks.present id).mpr member
      refine ⟨[], ?_, ?_⟩
      · simp [Scene.members, found, ShapeDef.faults, absent, checked]
      · simp [ShapeDef.faults, absent]
    | some e =>
      have member : id ∈ earlier := (tracks.present id).mp (by simp [found])
      have same : (ShapeDef.set (id :: rest)).faults label earlier =
          (ShapeDef.set rest).faults label earlier := by
        simp [ShapeDef.faults, member]
      refine ⟨e :: es, ?_, ?_⟩
      · rw [same, Scene.members, found]
        simp only [run]
        exact checked_bind_ok rfl
      · intro clean
        obtain ⟨names, canvases⟩ := sound (same ▸ clean)
        obtain ⟨named, placed⟩ := tracks.own id e found
        exact ⟨by simp [named, names], by simpa [placed] using canvases⟩

theorem drawShape_built (c : Canvas) (known : Known) (label : ElementLabel) (a : Attributes)
    (data : Option String) {commands : List PathCommand} (filled : commands ≠ []) :
    drawShape c known label a (.path data commands) =
      checked (Path.faults (data.getD "") ++ cornerFaults commands) () >>= fun _ =>
        c.drawPath (data.getD "") (ownSteps commands) a := by
  obtain ⟨command, rest, rfl⟩ := List.exists_cons_of_ne_nil filled
  have through : ∀ (next : List Path.Step → Except Error (Canvas × Element)),
      (corners (command :: rest) >>= fun ds => next (steps (command :: rest) ds)) =
        ((corners (command :: rest)).map (steps (command :: rest)) >>= next) := by
    intro next
    cases corners (command :: rest) <;> rfl
  simp only [drawShape, validate_checked]
  rw [through (fun ss => c.drawPath (data.getD "") ss a), directions_then_steps]
  cases Path.faults (data.getD "") with
  | nil => cases cornerFaults (command :: rest) <;> rfl
  | cons fault more => rfl

theorem drawShape_checked {known : Known} {earlier : List String} {c : Canvas}
    (tracks : Tracks known earlier c.number) (label : ElementLabel) (a : Attributes)
    (shape : ShapeDef) :
    drawShape c known label a shape = checked (shape.faults label earlier ++ idFaults a.id)
      (c.extended a.id (shape.creation c.name (c.nextName shape.kind a.id) ++
        (c.made shape.kind a.id).apply a), c.made shape.kind a.id) := by
  cases shape with
  | path data commands =>
    cases commands with
    | nil => exact c.draw_checked _ a
    | cons command rest =>
      rw [drawShape_built c known label a data (List.cons_ne_nil command rest),
        ShapeDef.faults.eq_def, List.append_assoc]
      exact checked_bind fun _ => c.draw_checked _ a
  | set members =>
    obtain ⟨es, run, sound⟩ := members_checked tracks label members
    simp only [drawShape, run]
    refine checked_bind fun clean => ?_
    obtain ⟨names, canvases⟩ := sound clean
    rw [c.group_checked es a canvases, names]
    have empty : es.isEmpty = members.isEmpty := by
      rw [← names]
      cases es <;> rfl
    rw [empty]
    cases members <;> rfl
  | _ => exact c.draw_checked _ a

theorem transform_call (e : Element) (t : TransformDef) :
    e.transform t.transform = t.call e.name := by
  cases t with
  | rotate x radians absolute center => cases radians <;> cases center <;> rfl
  | scale sx sy center => cases center <;> rfl
  | _ => rfl

theorem draw_after_id_check {known : Known} {earlier : List String} {canvas : Nat}
    (tracks : Tracks known earlier canvas) (index : Nat) (c : Canvas) (d : ElementDef) :
    d.draw index c known = (checked (d.takenFaults index earlier) () >>= fun _ =>
      drawShape c known (d.label index) d.ownAttributes d.shape) := by
  change (match d.id with
    | some id =>
      if (Entries.get? id known).isSome then
        Except.error (Error.scene (d.label index) (.duplicateId id))
      else drawShape c known (d.label index) d.ownAttributes d.shape
    | none => drawShape c known (d.label index) d.ownAttributes d.shape) = _
  unfold ElementDef.takenFaults
  cases d.id with
  | none => rfl
  | some id =>
    by_cases taken : id ∈ earlier
    · simp only [(tracks.present id).mpr taken, ↓reduceIte, faultIf, taken]
      rfl
    · have free : (Entries.get? id known).isSome ≠ true := mt (tracks.present id).mp taken
      simp only [free, ↓reduceIte, faultIf, taken]
      rfl

theorem element_checked {known : Known} {earlier : List String} {c : Canvas}
    (tracks : Tracks known earlier c.number) (index : Nat) (d : ElementDef) :
    d.draw index c known = checked (d.faults index earlier)
      (c.extended d.id (d.shape.creation c.name (c.nextName d.shape.kind d.id) ++
        d.attributeList.map fun (key, value) =>
          .call (c.nextName d.shape.kind d.id) "attr" [.object [(key, value)]]),
        c.made d.shape.kind d.id) := by
  rw [draw_after_id_check tracks, ElementDef.faults, List.append_assoc]
  refine checked_bind fun _ => ?_
  have entries : d.ownAttributes.entries = d.attributeList := Attributes.insertAll_entries _
  rw [drawShape_checked tracks, apply_merged _ d.ownAttributes _ entries]
  rfl

theorem effects_block (d : ElementDef) (paper : String) (e : Element) :
    d.shape.creation paper e.name ++
        d.attributeList.map (fun (key, value) => .call e.name "attr" [.object [(key, value)]]) ++
        d.effects e = d.block paper e.name := by
  simp only [ElementDef.effects, ElementDef.block, transform_call, List.append_assoc]

theorem ids_append_one (before : List ElementDef) (d : ElementDef) :
    ids (before ++ [d]) = ids before ++ d.id.toList := by
  cases named : d.id <;> simp [ids, named]

theorem remember_tracks {known : Known} {earlier : List String} {c : Canvas}
    (tracks : Tracks known earlier c.number) (d : ElementDef) :
    Tracks (d.remember (c.made d.shape.kind d.id) known) (earlier ++ d.id.toList) c.number := by
  cases named : d.id with
  | none => simpa [ElementDef.remember, named] using tracks
  | some id =>
    constructor
    · intro other
      by_cases same : id = other
      · simp [ElementDef.remember, named, Entries.get?, same]
      · simp [ElementDef.remember, named, Entries.get?, same, Ne.symm same, tracks.present other]
    · intro other e found
      by_cases same : id = other
      · simp only [ElementDef.remember, named, Entries.get?, same, ↓reduceIte,
          Option.some.injEq] at found
        subst e
        exact ⟨rfl, rfl⟩
      · simp only [ElementDef.remember, named, Entries.get?, same, ↓reduceIte] at found
        exact tracks.own other e found

theorem drawAll_checked (defs before : List ElementDef) (c : Canvas) (known : Known)
    (tracks : Tracks known (ids before) c.number) :
    drawAll before.length defs c known =
      checked (faultsAfter before defs) (defs.foldl place c) := by
  -- What is remembered tracks the ids before, so that each element meets the faults it has there.
  induction defs generalizing before c known with
  | nil => rfl
  | cons d rest ih =>
    have placed : (c.extended d.id (d.shape.creation c.name (c.nextName d.shape.kind d.id) ++
        d.attributeList.map fun (key, value) =>
          .call (c.nextName d.shape.kind d.id) "attr" [.object [(key, value)]])).pushAll
        (d.effects (c.made d.shape.kind d.id)) = place c d := by
      rw [Canvas.extended_pushAll, place]
      exact congrArg (c.extended d.id) (effects_block d c.name (c.made d.shape.kind d.id))
    rw [drawAll, element_checked tracks before.length d, faultsAfter, List.foldl_cons]
    refine checked_bind fun _ => ?_
    simp only [placed]
    have next := ih (before ++ [d]) (place c d) _
      (ids_append_one before d ▸ remember_tracks tracks d)
    rwa [List.length_append] at next

theorem render_checked (s : Scene) (suffix : Nat → String) :
    s.render suffix = checked s.faults (s.drawing suffix) := by
  rw [render, CanvasDef.make_checked]
  refine checked_bind fun _ => drawAll_checked s.elements [] _ [] ⟨?_, ?_⟩
  · simp [Entries.get?, ids]
  · simp [Entries.get?]

theorem render_clean {s : Scene} (clean : s.faults = []) (suffix : Nat → String) :
    s.render suffix = .ok (s.drawing suffix) := by
  rw [render_checked, clean]
  rfl

end SceneScript.Scene
