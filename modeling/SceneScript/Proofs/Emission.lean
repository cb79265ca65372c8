import SceneScript.Proofs.Attributes
import SceneScript.Proofs.Calls
import SceneScript.Proofs.Conversions
import SceneScript.Proofs.Drawing

/- The calls that drawing, attributes, transformations and plain animations stand for. Whatever
   texts are given, the statements that they emit spell these calls and no others. -/
namespace SceneScript
open Entries

def numeral (x : Float) : Json.Tree :=
  .number (Number.toChars x)

def Shape.call (paper name : String) : Shape → Call
  | circle cx cy r => ⟨some name, paper, "circle", [numeral cx, numeral cy, numeral r]⟩
  | rect x y width height none =>
    ⟨some name, paper, "rect",
      [numeral x, numeral y, numeral width, numeral height, .number ['0']]⟩
  | rect x y width height (some radius) =>
    ⟨some name, paper, "rect",
      [numeral x, numeral y, numeral width, numeral height, numeral radius]⟩
  | ellipse cx cy rx ry =>
    ⟨some name, paper, "ellipse", [numeral cx, numeral cy, numeral rx, numeral ry]⟩
  | text x y content =>
    ⟨some name, paper, "text", [numeral x, numeral y, .text (some content)]⟩
  | image source x y width height =>
    ⟨some name, paper, "image",
      [.text (some source), numeral x, numeral y, numeral width, numeral height]⟩
  | path data => ⟨some name, paper, "path", [.text (some data)]⟩

section Calls
variable (u : Conversions) (receiver : String)

/-- The degrees of an angle that is no expression of the script. -/
def Angle.degrees? : Angle → Option Float
  | degrees x => some x
  | radians x => some (x * u.degreesPerRadian)
  | expression _ => none

def Transform.call? : Transform → Option Call
  | rotate angle absolute => (angle.degrees? u).map fun d =>
    ⟨none, receiver, "rotate", [numeral d, .bool absolute]⟩
  | rotateAbout angle x y => (angle.degrees? u).map fun d =>
    ⟨none, receiver, "rotate", [numeral d, numeral x, numeral y]⟩
  | translate dx dy => some ⟨none, receiver, "translate", [numeral dx, numeral dy]⟩
  | scale sx sy => some ⟨none, receiver, "scale", [numeral sx, numeral sy]⟩
  | scaleAbout sx sy x y =>
    some ⟨none, receiver, "scale", [numeral sx, numeral sy, numeral x, numeral y]⟩
  | toFront => some ⟨none, receiver, "toFront", []⟩
  | toBack => some ⟨none, receiver, "toBack", []⟩

def attributeTree (entry : String × Value) : Option String × Json.Tree :=
  (some entry.1, entry.2.tree)

def attributeCall (entry : String × Value) : Call :=
  ⟨none, receiver, "attr", [.object [attributeTree entry]]⟩

def animationCall (seconds : Float) (attributes : List (String × Value)) : Call :=
  ⟨none, receiver, "animate",
    [.object (attributes.map attributeTree), numeral (u.milliseconds seconds)]⟩

def attributeCalls (pairs : List (String × Value)) : List Call :=
  (merged (Attributes.normalized pairs)).map (attributeCall receiver)

end Calls

/-- The statements that a canvas has gained spell these calls in turn. -/
def Canvas.Spells (before after : Canvas) (calls : List Call) : Prop :=
  ∃ emitted, after.statements = before.statements ++ emitted ∧
    List.Forall₂ (fun call (st : Statement) => call.Spelled st.text) calls emitted

def Attributes.given (id : Option String) (pairs : List (String × Value)) : Attributes :=
  { empty.insertAll pairs with id := id }

namespace Value

theorem treeEntries_map (entries : List (String × Value)) :
    treeEntries entries = entries.map attributeTree := by
  induction entries with
  | nil => rfl
  | cons entry rest ih => rw [treeEntries, ih, List.map_cons, attributeTree]

theorem isPlainEntries_iff (entries : List (String × Value)) :
    isPlainEntries entries = true ↔ ∀ entry ∈ entries, entry.2.isPlain = true := by
  induction entries with
  | nil => simp [isPlainEntries]
  | cons entry rest ih => rw [isPlainEntries, Bool.and_eq_true, ih, List.forall_mem_cons]

end Value

namespace Attributes

theorem given_entries (id : Option String) (pairs : List (String × Value)) :
    (given id pairs).entries = merged (normalized pairs) :=
  insertAll_entries pairs

theorem merged_plain {pairs : List (String × Value)} (plain : Value.isPlainEntries pairs = true) :
    ∀ entry ∈ merged (normalized pairs), entry.2.isPlain = true := by
  intro entry member
  have inserted := merged_member member
  simp only [normalized, List.mem_map] at inserted
  obtain ⟨pair, source, rfl⟩ := inserted
  exact (Value.isPlainEntries_iff pairs).mp plain pair source

end Attributes

namespace Statement

theorem create_spelled {name paper method : String} {values : List Value}
    (declared : isIdentifier name = true) (owner : isIdentifier paper = true)
    (called : isIdentifier method = true) (plain : ∀ v ∈ values, v.isPlain = true) :
    Call.Spelled ⟨some name, paper, method, values.map Value.tree⟩
      (create name paper method values).text := by
  apply Call.spelled_of_written
  exact Call.values_written (by rintro _ ⟨⟩; exact declared) owner called plain

theorem call_spelled {receiver method : String} {values : List Value}
    (owner : isIdentifier receiver = true) (called : isIdentifier method = true)
    (plain : ∀ v ∈ values, v.isPlain = true) :
    Call.Spelled ⟨none, receiver, method, values.map Value.tree⟩
      (call receiver method values).text := by
  apply Call.spelled_of_written
  have nothing : ∀ name, none = some name → isIdentifier name = true := by rintro _ ⟨⟩
  have written := Call.values_written nothing owner called plain
  rwa [Call.declaration, String.empty_append] at written

theorem animate_spelled {m : Motion} (owner : isIdentifier m.target = true)
    (plain : m.attributes.isPlain = true) :
    Call.Spelled ⟨none, m.target, "animate", [m.attributes.tree, numeral m.milliseconds]⟩
      (animate m .nothing).text := by
  have joined (target attributes duration : String) :
      target ++ ".animate(" ++ attributes ++ ", " ++ duration ++ "" ++ ")" ++ ";" =
        target ++ "." ++ "animate" ++ "(" ++ ", ".intercalate [attributes, duration] ++ ");" := by
    apply String.toList_inj.mp
    simp
  have same : (animate m .nothing).text =
      (call m.target "animate" [m.attributes, .number m.milliseconds]).text :=
    joined m.target m.attributes.script (Number.text m.milliseconds)
  rw [same]
  exact call_spelled owner (by decide) (by simp [plain, Value.isPlain])

end Statement

theorem shape_call (paper name : String) (shape : Shape) :
    shape.call paper name =
      ⟨some name, paper, shape.kind.name, shape.arguments.map Value.tree⟩ := by
  cases shape with
  | rect x y width height radius => cases radius <;> rfl
  | _ => rfl

theorem shape_plain (shape : Shape) : ∀ v ∈ shape.arguments, v.isPlain = true := by
  cases shape <;> simp [Shape.arguments, Value.isPlain]

theorem kind_identifier (kind : Kind) : isIdentifier kind.name = true := by
  cases kind <;> decide

theorem angle_degrees {u : Conversions} {angle : Angle} {d : Float}
    (given : angle.degrees? u = some d) : angle.value = .number d := by
  cases angle with
  | expression source => contradiction
  | degrees x =>
    obtain rfl := Option.some.inj given
    rfl
  | radians x =>
    obtain rfl := Option.some.inj given
    rw [u.factor]
    rfl

theorem transform_call {u : Conversions} {receiver : String} {t : Transform} {call : Call}
    (given : t.call? u receiver = some call) :
    call = ⟨none, receiver, t.method, t.arguments.map Value.tree⟩ ∧
      ∀ v ∈ t.arguments, v.isPlain = true := by
  cases t with
  | rotate angle absolute | rotateAbout angle x y =>
    obtain ⟨d, degrees, rfl⟩ := Option.map_eq_some_iff.mp given
    simp only [Transform.arguments, angle_degrees degrees]
    exact ⟨rfl, by simp [Value.isPlain]⟩
  | _ =>
    obtain rfl := Option.some.inj given
    exact ⟨rfl, by simp [Transform.arguments, Value.isPlain]⟩

theorem method_identifier (t : Transform) : isIdentifier t.method = true := by
  have methods : ∀ name ∈ ["rotate", "translate", "scale", "toFront", "toBack"],
      isIdentifier name = true := by decide
  apply methods
  cases t <;> simp [Transform.method]

theorem attribute_spelled {e : Element} {entry : String × Value}
    (owner : isIdentifier e.name = true) (plain : entry.2.isPlain = true) :
    (attributeCall e.name entry).Spelled
      (Statement.call e.name "attr" [.object [entry]]).text :=
  Statement.call_spelled owner (by decide) (by simp [Value.isPlain, Value.isPlainEntries, plain])

theorem draw_spelled {c after : Canvas} {e : Element} {shape : Shape} {id : Option String}
    {pairs : List (String × Value)} (paper : isIdentifier c.name = true)
    (owner : isIdentifier e.name = true) (plain : Value.isPlainEntries pairs = true)
    (drawn : c.draw shape (.given id pairs) = .ok (after, e)) :
    c.Spells after (shape.call c.name e.name :: attributeCalls e.name pairs) := by
  rw [Canvas.draw_checked] at drawn
  obtain ⟨_, made⟩ := checked_ok_iff.mp drawn
  obtain ⟨rfl, rfl⟩ := Prod.mk.inj made
  refine ⟨_, rfl, .cons ?_ ?_⟩
  · rw [shape_call]
    exact Statement.create_spelled owner paper (kind_identifier _) (shape_plain shape)
  · rw [apply_merged _ _ pairs (Attributes.given_entries id pairs), attributeCalls,
      List.forall₂_map_left_iff, List.forall₂_map_right_iff, List.forall₂_same]
    intro entry member
    exact attribute_spelled owner (Attributes.merged_plain plain entry member)

theorem animate_spelled (u : Conversions) {e : Element} {seconds : Float} {id : Option String}
    {pairs : List (String × Value)} (owner : isIdentifier e.name = true)
    (plain : Value.isPlainEntries pairs = true) :
    (animationCall u e.name seconds (merged (Attributes.normalized pairs))).Spelled
      (e.animate seconds (.given id pairs) none).text := by
  have inserted : e.animate seconds (.given id pairs) none =
      .animate ⟨e.name,
        .object (Attributes.empty.insertAll (Attributes.given id pairs).entries).entries,
        Animation.milliseconds seconds⟩ .nothing := by
    simp only [Element.animate, Animation.single, Animation.attrs_inserted]
    rfl
  rw [inserted, Attributes.given_entries, Attributes.insertAll_merged, animationCall,
    u.duration, ← Value.treeEntries_map]
  refine Statement.animate_spelled owner ?_
  exact (Value.isPlainEntries_iff _).mpr (Attributes.merged_plain plain)

/-- Whatever texts are given, each emitted statement spells one call only: the one with the given
    names and values, attributes under normalized names with the value that was set last. -/
theorem statements_spell_calls (u : Conversions) :
    (∀ (c after : Canvas) (e : Element) (shape : Shape) (id : Option String)
        (pairs : List (String × Value)),
      isIdentifier c.name = true → isIdentifier e.name = true →
      Value.isPlainEntries pairs = true → c.draw shape (.given id pairs) = .ok (after, e) →
      c.Spells after (shape.call c.name e.name :: attributeCalls e.name pairs)) ∧
    (∀ (c after : Canvas) (e : Element) (initial : String) (steps : List Path.Step)
        (id : Option String) (pairs : List (String × Value)),
      isIdentifier c.name = true → isIdentifier e.name = true →
      Value.isPlainEntries pairs = true →
      c.drawPath initial steps (.given id pairs) = .ok (after, e) →
      let data := ((Path.Builder.ofInitial initial).run steps).result
      c.Spells after
        (⟨some e.name, c.name, "path", [.text (some data)]⟩ :: attributeCalls e.name pairs)) ∧
    (∀ (e : Element) (name : String) (value : Value), isIdentifier e.name = true →
      value.isPlain = true →
      (attributeCall e.name (normalizeAttribute name, value)).Spelled (e.attr name value).text) ∧
    (∀ (e : Element) (t : Transform) (call : Call), isIdentifier e.name = true →
      t.call? u e.name = some call → call.Spelled (e.transform t).text) ∧
    (∀ (e : Element) (seconds : Float) (id : Option String) (pairs : List (String × Value)),
      isIdentifier e.name = true → Value.isPlainEntries pairs = true →
      (animationCall u e.name seconds (merged (Attributes.normalized pairs))).Spelled
        (e.animate seconds (.given id pairs) none).text) := by
  refine ⟨?draw, ?path, ?attr, ?transform, ?animate⟩
  case draw =>
    intro c after e shape id pairs paper owner plain drawn
    exact draw_spelled paper owner plain drawn
  case path =>
    intro c after e initial steps id pairs paper owner plain drawn
    exact draw_spelled paper owner plain drawn
  case attr =>
    intro e name value owner plain
    exact attribute_spelled owner plain
  case transform =>
    intro e t call owner given
    obtain ⟨rfl, plain⟩ := transform_call given
    exact Statement.call_spelled owner (method_identifier t) plain
  case animate =>
    intro e seconds id pairs owner plain
    exact animate_spelled u owner plain

theorem hostile_texts_spell_calls :
    let c : Canvas := ⟨0, "paper", .container "holder" 9 9, toString, 0, []⟩
    let hostile : String := "\\\"); a.remove(\"</script>"
    let pairs : List (String × Value) :=
      [("stroke_width", .null),
        ("x\"\x7d);", .list [.text hostile, .object [(hostile, .text hostile)]]),
        ("stroke-width", .number 3)]
    ∃ after e, c.draw (.image hostile 0 1 2 3) (.given (some "e") pairs) = .ok (after, e) ∧
      c.Spells after
        (⟨some "e", "paper", "image",
            [.text (some hostile), numeral 0, numeral 1, numeral 2, numeral 3]⟩ ::
          [("stroke-width", .number 3),
            ("x", .list [.text hostile, .object [(hostile, .text hostile)]])].map
            (attributeCall "e")) ∧
      (Call.mk none "e" "rotate"
          [.number "114.59155902616465".toList, .bool true]).Spelled
        (e.transform (.rotate (.radians 2) true)).text ∧
      (Call.mk none "e" "animate"
          [.object [(some "stroke-width", .number ['3']),
            (some "x", .list [.text (some hostile),
              .object [(some hostile, .text (some hostile))]])],
            .number "500".toList]).Spelled
        (e.animate 0.5 (.given none pairs) none).text := by
  intro c hostile pairs
  obtain ⟨drawing, _, _, transforming, animating⟩ := statements_spell_calls default
  have drawn : c.draw (.image hostile 0 1 2 3) (.given (some "e") pairs) = .ok (_, _) := rfl
  have spelled := drawing c _ _ _ _ pairs (by decide) (by decide) (by decide) drawn
  have turned : Number.toChars (2 * degreesPerRadian) = "114.59155902616465".toList := by
    decide +kernel
  have half : Number.toChars (Animation.milliseconds 0.5) = "500".toList := by decide +kernel
  have rotated := transforming ⟨0, "e", .image, none⟩ (.rotate (.radians 2) true) _ (by decide) rfl
  have animated := animating ⟨0, "e", .image, none⟩ 0.5 none pairs (by decide) (by decide)
  refine ⟨_, _, drawn, spelled, ?_, ?_⟩
  · rw [← turned]
    exact rotated
  · have three : Number.toChars 3 = ['3'] := by decide +kernel
    have set_last : merged (Attributes.normalized pairs) =
        [("stroke-width", .number 3),
          ("x", .list [.text hostile, .object [(hostile, .text hostile)]])] := rfl
    rw [set_last] at animated
    rw [← half, ← three]
    exact animated

end SceneScript
