import SceneScript.Proofs.Animations
import SceneScript.Proofs.References
import SceneScript.Proofs.Rendering
import SceneScript.Uid

/- The statements of a scene are one block for each element, in order, about a variable that only
   the document decides. -/
namespace SceneScript.Scene

def unnamed (defs : List ElementDef) : Nat :=
  defs.countP fun d => d.id.isNone

def ElementDef.nameAfter (suffix : Nat → String) (drawn : Nat) (d : ElementDef) : String :=
  match d.id with
  | some id => id
  | none => "rafa_" ++ d.shape.kind.name ++ "_" ++ suffix (drawn + 1)

/-- How many suffixes are drawn before the element at a place: one for a paper without a name, and
    one for each earlier element without an id. -/
def drawnBefore (s : Scene) (i : Nat) : Nat :=
  (if s.canvas.name.isNone then 1 else 0) + unnamed (s.elements.take i)

def blocks (s : Scene) (suffix : Nat → String) : List (List Statement) :=
  s.elements.mapIdx fun i d =>
    d.block (s.canvas.paper suffix) (d.nameAfter suffix (s.drawnBefore i))

theorem next_name_after (c : Canvas) (d : ElementDef) :
    c.nextName d.shape.kind d.id = d.nameAfter c.suffix c.drawn := by
  unfold Canvas.nextName ElementDef.nameAfter
  cases d.id <;> rfl

theorem unnamed_cons (d : ElementDef) (rest : List ElementDef) :
    unnamed (d :: rest) = (if d.id.isNone then 1 else 0) + unnamed rest := by
  rw [unnamed, List.countP_cons, Nat.add_comm, unnamed]

theorem place_all (defs : List ElementDef) (c : Canvas) :
    defs.foldl place c =
      { c with
        drawn := c.drawn + unnamed defs
        statements := c.statements ++ (defs.mapIdx fun i d =>
          d.block c.name (d.nameAfter c.suffix (c.drawn + unnamed (defs.take i)))).flatten } := by
  induction defs generalizing c with
  | nil => simp [unnamed]
  | cons d rest ih =>
    rw [List.foldl_cons, ih, place, next_name_after, List.mapIdx_cons]
    simp only [Canvas.extended, List.take_zero, List.take_succ_cons, unnamed_cons,
      List.flatten_cons, List.append_assoc, Nat.add_assoc]
    rfl

theorem drawing_blocks (s : Scene) (suffix : Nat → String) :
    s.drawing suffix =
      { s.canvas.blank suffix with
        drawn := s.drawnBefore s.elements.length
        statements := (s.blocks suffix).flatten } := by
  rw [drawing, place_all]
  simp only [CanvasDef.blank, drawnBefore, blocks, List.take_length, List.nil_append]

theorem creation_addressed (shape : ShapeDef) (paper name : String) :
    ∀ st ∈ shape.creation paper name, st.AddressedTo name := by
  cases shape with
  | set members => cases members <;> simp [ShapeDef.creation, Statement.AddressedTo]
  | _ => simp [ShapeDef.creation, Statement.AddressedTo]

theorem call_acts (t : TransformDef) (name : String) : (t.call name).ActsOn name := by
  unfold TransformDef.call
  split <;> rfl

theorem animation_acts (a : AnimationDef) (name : String) : (a.statement name).ActsOn name := by
  obtain ⟨plain, launched, cycled⟩ := chain_acts (a := a.chain name) rfl
  rw [statement_chain]
  split
  · exact cycled
  · split
    · exact plain
    · exact launched

theorem block_split (d : ElementDef) (paper name : String) :
    ∃ calls, d.block paper name = d.shape.creation paper name ++ calls ∧
      ∀ st ∈ calls, st.ActsOn name := by
  refine ⟨_, by rw [ElementDef.block, List.append_assoc, List.append_assoc], ?_⟩
  intro st member
  simp only [List.mem_append, List.mem_map] at member
  rcases member with ⟨entry, _, rfl⟩ | ⟨t, _, rfl⟩ | animation
  · rfl
  · exact call_acts t name
  · cases animated : d.animation with
    | none => simp [animated] at animation
    | some a =>
      simp only [animated, Option.map_some, Option.toList_some, List.mem_singleton] at animation
      exact animation ▸ animation_acts a name

theorem block_addressed (d : ElementDef) (paper name : String) :
    ∀ st ∈ d.block paper name, st.AddressedTo name := by
  obtain ⟨calls, split, acts⟩ := block_split d paper name
  intro st member
  rcases List.mem_append.mp (split ▸ member) with creation | call
  · exact creation_addressed d.shape paper name st creation
  · exact Statement.acting_addressed (acts st call)

section Lines
variable (u : Conversions) (paper name : String)

def madeBy (method : String) (arguments : List String) : String :=
  "var " ++ name ++ " = " ++ paper ++ "." ++ method ++ "(" ++ ", ".intercalate arguments ++ ");"

def calledWith (method : String) (arguments : List String) : String :=
  name ++ "." ++ method ++ "(" ++ ", ".intercalate arguments ++ ");"

def ShapeDef.lines : ShapeDef → List String
  | circle cx cy r =>
    [madeBy paper name "circle" [Number.text cx, Number.text cy, Number.text r]]
  | rect x y width height radius =>
    [madeBy paper name "rect" [Number.text x, Number.text y, Number.text width,
      Number.text height, (radius.map Number.text).getD "0"]]
  | ellipse cx cy rx ry =>
    [madeBy paper name "ellipse" [Number.text cx, Number.text cy, Number.text rx, Number.text ry]]
  | text x y content =>
    [madeBy paper name "text" [Number.text x, Number.text y, Text.quote content]]
  | image source x y width height =>
    [madeBy paper name "image" [Text.quote source, Number.text x, Number.text y,
      Number.text width, Number.text height]]
  | path data commands => [madeBy paper name "path" [Text.quote (pathData data commands)]]
  | set [] => [madeBy paper name "set" []]
  | set members => [madeBy paper name "set" [], calledWith name "push" members]

def TransformDef.line : TransformDef → String
  | rotate x radians absolute none =>
    calledWith name "rotate"
      [Number.text (if radians then x * u.degreesPerRadian else x),
        if absolute then "true" else "false"]
  | rotate x radians _ (some (cx, cy)) =>
    calledWith name "rotate"
      [Number.text (if radians then x * u.degreesPerRadian else x), Number.text cx, Number.text cy]
  | translate dx dy => calledWith name "translate" [Number.text dx, Number.text dy]
  | scale sx sy none => calledWith name "scale" [Number.text sx, Number.text sy]
  | scale sx sy (some (cx, cy)) =>
    calledWith name "scale" [Number.text sx, Number.text sy, Number.text cx, Number.text cy]
  | toFront => calledWith name "toFront" []
  | toBack => calledWith name "toBack" []

/-- The lines of an element: its creation, then one for each attribute under distinct normalized
    names, for each transform, and for its animation. -/
def ElementDef.lines (d : ElementDef) : List String :=
  d.shape.lines paper name ++
    d.attributeList.map (fun (key, value) =>
      calledWith name "attr" ["\x7b" ++ Text.quote key ++ ":" ++ value.script ++ "\x7d"]) ++
    d.transforms.map (TransformDef.line u name) ++
    (d.animation.map (AnimationDef.line u name)).toList

/-- Whether a line makes an element in a variable, or begins with a call of a method of it: on its
    own, in a function, or in the function of a loop. -/
def About (line : String) : Prop :=
  ∃ opening ∈ ["var " ++ name ++ " = " ++ paper ++ ".", name ++ ".",
      "(function() \x7b " ++ name ++ ".animate(",
      "(function rafa_loop() \x7b (function() \x7b " ++ name ++ ".animate("],
    ∃ rest, line = opening ++ rest

theorem creation_lines (shape : ShapeDef) :
    (shape.creation paper name).map Statement.text = shape.lines paper name := by
  cases shape with
  | rect x y width height radius =>
    cases radius with
    | none =>
      have zero : Number.text 0 = "0" := by decide +kernel
      rw [ShapeDef.lines, Option.map_none, Option.getD_none, ← zero]
      rfl
    | some radius => rfl
  | set members =>
    cases members with
    | nil => rfl
    | cons id rest =>
      have pushed : calledWith name "push" (id :: rest) =
          name ++ ".push(" ++ ", ".intercalate (id :: rest) ++ ");" := by
        simp only [calledWith, String.append_assoc]
        rfl
      rw [ShapeDef.lines, pushed]
      · rfl
      · simp
  | _ => rfl

theorem transform_line (t : TransformDef) : (t.call name).text = t.line u name := by
  cases t with
  | rotate x radians absolute center =>
    cases center <;> rw [TransformDef.line, u.factor] <;> rfl
  | scale sx sy center => cases center <;> rfl
  | _ => rfl

theorem attribute_line (key : String) (value : Value) :
    (Statement.call name "attr" [.object [(key, value)]]).text =
      calledWith name "attr" ["\x7b" ++ Text.quote key ++ ":" ++ value.script ++ "\x7d"] := by
  have entry : (Value.object [(key, value)]).script =
      "\x7b" ++ Text.quote key ++ ":" ++ value.script ++ "\x7d" := by
    simp only [Value.script, Value.scriptEntries, String.append_assoc]
  rw [← entry]
  rfl

theorem block_lines (d : ElementDef) :
    (d.block paper name).map Statement.text = d.lines u paper name := by
  have attributes : (d.attributeList.map fun (key, value) =>
      Statement.call name "attr" [.object [(key, value)]]).map Statement.text =
        d.attributeList.map fun (key, value) =>
          calledWith name "attr" ["\x7b" ++ Text.quote key ++ ":" ++ value.script ++ "\x7d"] := by
    rw [List.map_map]
    exact List.map_congr_left fun entry _ => attribute_line name entry.1 entry.2
  have transforms : (d.transforms.map (TransformDef.call name)).map Statement.text =
      d.transforms.map (TransformDef.line u name) := by
    rw [List.map_map]
    exact List.map_congr_left fun t _ => transform_line u name t
  have animation : (d.animation.map fun a => a.statement name).toList.map Statement.text =
      (d.animation.map (AnimationDef.line u name)).toList := by
    cases d.animation with
    | none => rfl
    | some a => exact congrArg (fun line => [line]) (statement_line u a name)
  rw [ElementDef.block, ElementDef.lines, List.map_append, List.map_append, List.map_append,
    creation_lines, attributes, transforms, animation]

variable {paper name}

theorem made_about (method : String) (arguments : List String) :
    About paper name (madeBy paper name method arguments) :=
  ⟨_, List.mem_cons_self, method ++ "(" ++ ", ".intercalate arguments ++ ");",
    by simp only [madeBy, String.append_assoc]⟩

theorem called_about (method : String) (arguments : List String) :
    About paper name (calledWith name method arguments) :=
  ⟨name ++ ".", by simp, method ++ "(" ++ ", ".intercalate arguments ++ ");",
    by simp only [calledWith, String.append_assoc]⟩

theorem creation_about (shape : ShapeDef) : ∀ line ∈ shape.lines paper name,
    About paper name line := by
  cases shape with
  | set members =>
    cases members <;> simp [ShapeDef.lines, made_about, called_about]
  | _ => simp [ShapeDef.lines, made_about]

theorem transform_about (t : TransformDef) : About paper name (t.line u name) := by
  unfold TransformDef.line
  split <;> exact called_about _ _

theorem animation_about (d : AnimationDef) : About paper name (d.line u name) := by
  obtain ⟨rest, call⟩ := Animation.chain_opens u name d.first.link (d.rest.map AnimationLink.link)
  unfold AnimationDef.line
  rw [call]
  dsimp only
  split
  · exact ⟨"(function rafa_loop() \x7b (function() \x7b " ++ name ++ ".animate(", by simp, rest ++
      ("; \x7d)(); setTimeout(rafa_loop, " ++ (Number.text (u.milliseconds d.first.seconds) ++
        "); \x7d)();")), by simp only [String.append_assoc]⟩
  · exact ⟨name ++ ".", by simp, "animate(" ++ rest ++ ";", by
      simp only [String.append_assoc]
      rfl⟩
  · exact ⟨"(function() \x7b " ++ name ++ ".animate(", by simp, rest ++ "; \x7d)();",
      by simp only [String.append_assoc]⟩

theorem lines_about (d : ElementDef) : ∀ line ∈ d.lines u paper name, About paper name line := by
  intro line member
  simp only [ElementDef.lines, List.mem_append, List.mem_map, Option.mem_toList,
    Option.map_eq_some_iff] at member
  rcases member with ((creation | ⟨entry, _, rfl⟩) | ⟨t, _, rfl⟩) | ⟨a, _, rfl⟩
  · exact creation_about d.shape line creation
  · exact called_about "attr" _
  · exact transform_about u t
  · exact animation_about u a

end Lines

theorem sequential_suffix (ambient : Ambient) :
    Uid.Strategy.sequential.suffix ambient = toString := by
  funext n
  rfl

/-- With numbers for suffixes, the script of a scene is its paper and the lines of its elements in
    order, all lines of one about one variable: an id, or a name with the next number that is not
    used. -/
theorem rendered_blocks (u : Conversions) (s : Scene) (ambient : Ambient) (c : Canvas)
    (rendered : s.render (Uid.Strategy.sequential.suffix ambient) = .ok c) :
    let name (i : Nat) (d : ElementDef) : String := d.nameAfter toString (s.drawnBefore i)
    let lines := (s.elements.mapIdx fun i d => d.lines u c.name (name i d)).flatten
    c.name = s.canvas.paper toString ∧
    c.statements.map Statement.text = lines ∧
    c.script = "\n".intercalate (("var " ++ c.name ++ " = " ++ c.construction ++ ";") :: lines) ∧
    ∀ (i : Nat) (d : ElementDef), s.elements[i]? = some d →
      ∀ line ∈ d.lines u c.name (name i d), About c.name (name i d) line := by
  intro name lines
  rw [sequential_suffix, render_checked, checked_ok_iff, drawing_blocks] at rendered
  obtain ⟨_, rfl⟩ := rendered
  have texts : (s.blocks toString).flatten.map Statement.text = lines := by
    rw [List.map_flatten, blocks, List.mapIdx_eq_zipIdx_map, List.map_map]
    simp only [lines, List.mapIdx_eq_zipIdx_map]
    exact congrArg List.flatten (List.map_congr_left fun d _ => block_lines u _ _ d.1)
  refine ⟨rfl, texts, ?_, fun i d _ => lines_about u d⟩
  rw [Canvas.script, texts]

theorem animated_blocks :
    let attributes : List (String × Json) :=
      [("stroke_width", .null), ("x", .bool true), ("stroke-width", .text "2")]
    let turns (loops : Bool) (rest : List AnimationLink) : AnimationDef :=
      ⟨⟨0.5, [("r", .number 5)], some "f();", loops⟩, rest⟩
    let s : Scene := ⟨⟨some "holder", 0, 0, 9, 9, none⟩,
      [⟨.circle 1 2 3, some "a", attributes, [.rotate 2 true true none, .toFront],
          some (turns true [])⟩,
        ⟨.rect 0 0 4 4 none, none, [], [.scale 2 0.5 none], some (turns false [])⟩,
        ⟨.path none [.step (.moveTo ⟨1, 2⟩), .step .close], none, [], [], none⟩,
        ⟨.set ["a", "a"], none, [], [], some (turns false [⟨0.0015, [], none, true⟩])⟩,
        ⟨.set [], some "none", [], [], none⟩]⟩
    ∃ c, s.render (Uid.Strategy.sequential.suffix ⟨fun _ => 0, fun _ => 0, fun _ => 0⟩) = .ok c ∧
      c.statements.map Statement.text = [
        "var a = _raphael_canvas_1.circle(1, 2, 3);",
        "a.attr(\x7b\"stroke-width\":\"2\"\x7d);", "a.attr(\x7b\"x\":true\x7d);",
        "a.rotate(114.59155902616465, true);", "a.toFront();",
        "(function rafa_loop() \x7b (function() \x7b a.animate(\x7b\"r\":5\x7d, 500, " ++
          "(function() \x7b f(); \x7d)); \x7d)(); setTimeout(rafa_loop, 500); \x7d)();",
        "var rafa_rect_2 = _raphael_canvas_1.rect(0, 0, 4, 4, 0);", "rafa_rect_2.scale(2, 0.5);",
        "rafa_rect_2.animate(\x7b\"r\":5\x7d, 500, (function() \x7b f(); \x7d));",
        "var rafa_path_3 = _raphael_canvas_1.path(\"M1 2 z\");",
        "var rafa_set_4 = _raphael_canvas_1.set();", "rafa_set_4.push(a, a);",
        "(function() \x7b rafa_set_4.animate(\x7b\"r\":5\x7d, 500, (function() \x7b " ++
          "(function() \x7b rafa_set_4.animate(\x7b\x7d, 2); \x7d)(); " ++
          "(function() \x7b f(); \x7d)(); \x7d)); \x7d)();",
        "var none = _raphael_canvas_1.set();"] := by
  intro attributes turns s
  have clean : s.faults = [] := by decide +kernel
  have rendered := render_clean clean
    (Uid.Strategy.sequential.suffix ⟨fun _ => 0, fun _ => 0, fun _ => 0⟩)
  obtain ⟨paper, lines, _⟩ := rendered_blocks default s _ _ rendered
  refine ⟨_, rendered, ?_⟩
  rw [lines, paper]
  decide +kernel

end SceneScript.Scene
