import SceneScript.Canvas
import SceneScript.Proofs.Checked

/- What drawing on a canvas comes to: all faults of an operation in the order of its checks, and the
   canvas and the element that it gives when there are none. With a fault the canvas is left as it
   was: no operation draws a suffix or adds a statement before its last check. -/
namespace SceneScript

def Path.faults (data : String) : List Error :=
  match Path.read data with
  | .ok _ => []
  | .error fault => [.invalidPath fault]

theorem validate_checked (data : String) : Path.validate data = checked (Path.faults data) () := by
  unfold Path.validate Path.faults
  cases Path.read data <;> rfl

def Target.faults : Target → List Error
  | .container id width height =>
    faultIf (Text.trim id = "") .invalidContainer ++
      faultIf (width = 0 ∨ height = 0) (.invalidDimensions width height)
  | .position _ _ width height =>
    faultIf (width = 0 ∨ height = 0) (.invalidDimensions width height)

theorem target_checked (target : Target) : target.check = checked target.faults () := by
  cases target with
  | container id width height =>
    simp only [Target.check, Target.checkSize, Target.faults, faultIf]
    split <;> split <;> rfl
  | position x y width height => exact if_checked _ _ _

def Shape.faults : Shape → List Error
  | .path data => Path.faults data
  | _ => []

theorem shape_checked (shape : Shape) : shape.check = checked shape.faults () := by
  cases shape with
  | path data => exact validate_checked data
  | _ => rfl

def idFaults : Option String → List Error
  | some id => faultIf (isIdentifier id = false) (.invalidIdentifier id)
  | none => []

theorem idFaults_empty_iff (id : Option String) :
    idFaults id = [] ↔ ∀ name, id = some name → isIdentifier name = true := by
  cases id <;> simp [idFaults, faultIf_empty_iff]

namespace Canvas

def nextName (c : Canvas) (kind : Kind) : Option String → String
  | some id => id
  | none => "rafa_" ++ kind.name ++ "_" ++ c.suffix (c.drawn + 1)

def made (c : Canvas) (kind : Kind) (id : Option String) : Element :=
  ⟨c.number, c.nextName kind id, kind, none⟩

/-- The canvas with statements at its end that make an element; a suffix is drawn if the element
    has no id. -/
def extended (c : Canvas) (id : Option String) (statements : List Statement) : Canvas :=
  { c with
    drawn := c.drawn + (if id.isNone then 1 else 0)
    statements := c.statements ++ statements }

theorem extended_pushAll (c : Canvas) (id : Option String) (ss more : List Statement) :
    (c.extended id ss).pushAll more = c.extended id (ss ++ more) := by
  simp [extended, pushAll, List.append_assoc]

def foreignFaults (c : Canvas) (members : List Element) : List Error :=
  match members.find? fun m => m.canvas != c.number with
  | some foreign => [.foreignElement foreign.name]
  | none => []

namespace Change

theorem demand_settled {check : Except Error Unit} {faults : List Error}
    (checks : check = checked faults ()) (c : Canvas) :
    (demand check).run c = settled c faults () c := by
  cases faults <;> (rw [checks]; rfl)

theorem elementName_settled (c : Canvas) (kind : Kind) (id : Option String) :
    (elementName kind id).run c =
      settled c (idFaults id) (c.nextName kind id) (c.extended id []) := by
  cases id with
  | none =>
    rw [extended, List.append_nil]
    rfl
  | some id =>
    rw [extended, List.append_nil, elementName, idFaults, faultIf]
    cases isIdentifier id <;> rfl

theorem add_settled (c : Canvas) (kind : Kind) (a : Attributes)
    (creation : String → String → List Statement) :
    (add kind a creation).run c = settled c (idFaults a.id) (c.made kind a.id)
      (c.extended a.id
        (creation c.name (c.nextName kind a.id) ++ (c.made kind a.id).apply a)) := by
  refine settled_bind_ok (elementName_settled c kind a.id) ?_
  rw [← List.nil_append (creation _ _), ← extended_pushAll, ← extended_pushAll]
  rfl

theorem draw_settled (c : Canvas) (shape : Shape) (a : Attributes) :
    (draw shape a).run c = settled c (shape.faults ++ idFaults a.id) (c.made shape.kind a.id)
      (c.extended a.id
        (.create (c.nextName shape.kind a.id) c.name shape.kind.name shape.arguments ::
          (c.made shape.kind a.id).apply a)) :=
  settled_bind (demand_settled (shape_checked shape) c) (add_settled c shape.kind a _)

theorem group_settled (c : Canvas) (members : List Element) (a : Attributes) :
    (group members a).run c = settled c (c.foreignFaults members ++ idFaults a.id)
      (c.made .set a.id)
      (c.extended a.id
        (.create (c.nextName .set a.id) c.name "set" [] ::
          (if members.isEmpty then []
            else [.join (c.nextName .set a.id) (members.map Element.name)]) ++
          (c.made .set a.id).apply a)) := by
  have chosen := add_settled c .set a fun paper name => .create name paper "set" [] ::
    (if members.isEmpty then [] else [.join name (members.map Element.name)])
  rw [group, bind_after_ok (EStateM.run_get c), foreignFaults]
  cases members.find? fun m => m.canvas != c.number with
  | none => exact chosen
  | some foreign => rfl

theorem takeFreshName_settled (c : Canvas) :
    takeFreshName.run c = settled c c.target.faults ()
      { c with drawn := c.drawn + 1, name := "_raphael_canvas_" ++ c.suffix (c.drawn + 1) } := by
  rw [takeFreshName, bind_after_ok (EStateM.run_get c)]
  exact settled_bind_ok (demand_settled (target_checked c.target) c) rfl

theorem takeName_settled (c : Canvas) (name : String) :
    (takeName name).run c =
      settled c (idFaults (some name) ++ c.target.faults) () { c with name := name } := by
  rw [takeName, idFaults, faultIf]
  cases isIdentifier name with
  | false => rfl
  | true =>
    rw [if_pos rfl, bind_after_ok (EStateM.run_get c)]
    exact settled_bind_ok (demand_settled (target_checked c.target) c) rfl

end Change

theorem after_checked {α : Type} {c after : Canvas} {change : Change α} {faults : List Error}
    {a : α} (run : change.run c = settled c faults a after) :
    c.after change = checked faults (after, a) := by
  rw [Canvas.after, run]
  cases faults <;> rfl

theorem make_checked (number : Nat) (target : Target) (suffix : Nat → String) :
    make number target suffix =
      checked target.faults ⟨number, "_raphael_canvas_" ++ suffix 1, target, suffix, 1, []⟩ := by
  rw [make, after_checked (Change.takeFreshName_settled _), checked_map]
  rfl

theorem named_checked (number : Nat) (target : Target) (name : String) (suffix : Nat → String) :
    named number target name suffix =
      checked (idFaults (some name) ++ target.faults) ⟨number, name, target, suffix, 0, []⟩ := by
  rw [named, after_checked (Change.takeName_settled _ _), checked_map]
  rfl

theorem draw_checked (c : Canvas) (shape : Shape) (a : Attributes) :
    c.draw shape a = checked (shape.faults ++ idFaults a.id)
      (c.extended a.id
        (.create (c.nextName shape.kind a.id) c.name shape.kind.name shape.arguments ::
          (c.made shape.kind a.id).apply a),
        c.made shape.kind a.id) :=
  after_checked (Change.draw_settled c shape a)

theorem group_checked (c : Canvas) (members : List Element) (a : Attributes)
    (own : ∀ m ∈ members, m.canvas = c.number) :
    c.group members a = checked (idFaults a.id)
      (c.extended a.id
        (.create (c.nextName .set a.id) c.name "set" [] ::
          (if members.isEmpty then []
            else [.join (c.nextName .set a.id) (members.map Element.name)]) ++
          (c.made .set a.id).apply a),
        c.made .set a.id) := by
  have none_foreign : members.find? (fun m => m.canvas != c.number) = none :=
    List.find?_eq_none.mpr fun m member => by simp [own m member]
  have run := Change.group_settled c members a
  rw [foreignFaults, none_foreign] at run
  exact after_checked run

end Canvas

end SceneScript
