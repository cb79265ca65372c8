import SceneScript.Proofs.PlainRuns
import SceneScript.Proofs.Variables

/- Scenes without expressions of the script and without callbacks give plain canvases, which quote
   the texts of the document in order and nothing else. -/
namespace SceneScript

namespace Scene

namespace AnimationDef

def isPlain (a : AnimationDef) : Bool :=
  a.links.all fun l => Value.isPlainEntries (valueEntries l.attributes) && l.callback.isNone

def texts (a : AnimationDef) : List String :=
  a.links.flatMap fun l => Value.textsEntries (attributeSet l.attributes).entries

end AnimationDef

def ShapeDef.texts : ShapeDef → List String
  | text _ _ content => [content]
  | image source _ _ _ _ => [source]
  | path data commands => [pathData data commands]
  | circle _ _ _ | rect _ _ _ _ _ | ellipse _ _ _ _ | set _ => []

namespace ElementDef

/-- Whether no expression of the script is in the attributes of an element and of its animations,
    at any depth, and no callback. -/
def isPlain (d : ElementDef) : Bool :=
  Value.isPlainEntries (valueEntries d.attributes) && d.animation.all AnimationDef.isPlain

/-- What an element quotes: the text of its shape, then its attributes under normalized names, each
    as it was set last, and those of its animations. -/
def texts (d : ElementDef) : List String :=
  d.shape.texts ++ Value.textsEntries d.attributeList ++
    d.animation.toList.flatMap AnimationDef.texts

end ElementDef

def isPlain (s : Scene) : Bool :=
  s.elements.all ElementDef.isPlain

def texts (s : Scene) : List String :=
  s.canvas.container.toList ++ s.elements.flatMap ElementDef.texts

section Texts

theorem following_texts (target : String) (callback : Option String)
    (links : List Animation.Link) :
    (Animation.following target callback links).texts =
      links.flatMap fun l => Value.textsEntries l.attributes.entries := by
  induction links generalizing callback with
  | nil => cases callback <;> rfl
  | cons l rest ih =>
    have own : (Animation.Link.motion l target).attributes.texts =
        Value.textsEntries l.attributes.entries := by
      rw [Animation.Link.motion, Attributes.object, Value.texts]
    cases callback <;>
      rw [Animation.following, Continuation.texts, ih, List.flatMap_cons, own]

theorem animation_texts (a : AnimationDef) (target : String) :
    (a.statement target).texts = a.texts := by
  have chain : (a.chain target).motion.attributes.texts ++ (a.chain target).continuation.texts =
      a.texts := by
    rw [Animation.continuation, following_texts, AnimationDef.texts, AnimationDef.links,
      List.flatMap_cons, AnimationDef.chain, List.flatMap_map]
    simp only [attributeSet_merged]
    rfl
  rw [statement_chain]
  split
  · exact chain
  · split
    · exact chain
    · exact chain

theorem creation_texts (shape : ShapeDef) (paper name : String) :
    (shape.creation paper name).flatMap Statement.texts = shape.texts := by
  cases shape with
  | set members => cases members <;> rfl
  | _ => rfl

theorem attributes_texts (name : String) (entries : List (String × Value)) :
    (entries.map fun (key, value) => Statement.call name "attr" [.object [(key, value)]]).flatMap
      Statement.texts = Value.textsEntries entries := by
  induction entries with
  | nil => rfl
  | cons entry rest ih =>
    obtain ⟨key, value⟩ := entry
    rw [List.map_cons, List.flatMap_cons, ih]
    simp [Statement.texts, Value.textsItems, Value.texts, Value.textsEntries]

theorem transforms_texts (name : String) (transforms : List TransformDef) :
    (transforms.map (TransformDef.call name)).flatMap Statement.texts = [] := by
  refine List.flatMap_eq_nil_iff.mpr fun st member => ?_
  obtain ⟨t, _, rfl⟩ := List.mem_map.mp member
  cases t with
  | rotate angle radians absolute center => cases center <;> rfl
  | scale sx sy center => cases center <;> rfl
  | _ => rfl

theorem block_texts (d : ElementDef) (paper name : String) :
    (d.block paper name).flatMap Statement.texts = d.texts := by
  have animation : (d.animation.map fun a => a.statement name).toList.flatMap Statement.texts =
      d.animation.toList.flatMap AnimationDef.texts := by
    cases d.animation with
    | none => rfl
    | some a => simp [animation_texts]
  rw [ElementDef.block, List.flatMap_append, List.flatMap_append, List.flatMap_append,
    creation_texts, attributes_texts, transforms_texts, List.append_nil, animation,
    ElementDef.texts]

theorem drawing_texts (s : Scene) (suffix : Nat → String) : (s.drawing suffix).texts = s.texts := by
  have target : Value.textsItems s.canvas.target.arguments = s.canvas.container.toList := by
    rw [CanvasDef.target]
    cases s.canvas.container <;> rfl
  have elements : (s.blocks suffix).flatten.flatMap Statement.texts =
      s.elements.flatMap ElementDef.texts := by
    have each : ∀ p : ElementDef × Nat, (p.1.block (s.canvas.paper suffix)
        (p.1.nameAfter suffix (s.drawnBefore p.2))).flatMap Statement.texts = p.1.texts :=
      fun p => block_texts p.1 _ _
    calc (s.blocks suffix).flatten.flatMap Statement.texts
        = (s.blocks suffix).flatMap fun block => block.flatMap Statement.texts := by
          rw [← List.flatMap_id, List.flatMap_assoc]
          rfl
      _ = s.elements.zipIdx.flatMap fun p => p.1.texts := by
          rw [blocks, List.mapIdx_eq_zipIdx_map, List.flatMap_map]
          exact congrArg (List.flatMap · _) (funext each)
      _ = (s.elements.zipIdx.map Prod.fst).flatMap ElementDef.texts := by rw [List.flatMap_map]
      _ = s.elements.flatMap ElementDef.texts := by rw [List.zipIdx_map_fst]
  rw [drawing_blocks, Canvas.texts, elements, texts]
  exact congrArg (· ++ _) target

end Texts

section Plain

theorem link_plain {l : AnimationLink}
    (plain : Value.isPlainEntries (valueEntries l.attributes) = true)
    (quiet : l.callback.isNone = true) : l.link.isPlain = true := by
  rw [AnimationLink.link, ← attributeSet_merged]
  exact Bool.and_eq_true_iff.mpr ⟨Attributes.insertAll_plain plain, quiet⟩

theorem animation_plain {a : AnimationDef} (plain : a.isPlain = true) (target : String) :
    (a.statement target).isPlain = true := by
  have links : (a.chain target).isPlain = true := by
    have each : ∀ l ∈ a.links, l.link.isPlain = true := by
      intro l member
      obtain ⟨attributes, quiet⟩ := Bool.and_eq_true_iff.mp (List.all_eq_true.mp plain l member)
      exact link_plain attributes quiet
    have all : (a.links.map AnimationLink.link).all Animation.Link.isPlain = true := by
      rw [List.all_map]
      exact List.all_eq_true.mpr each
    exact all
  obtain ⟨single, launched, repeated⟩ := Animation.chain_plain links
  rw [statement_chain]
  split
  · exact repeated
  · split
    · exact single
    · exact launched

theorem creation_plain (shape : ShapeDef) (paper name : String) :
    ∀ st ∈ shape.creation paper name, st.isPlain = true := by
  have methods : ∀ method ∈ ["circle", "rect", "ellipse", "text", "image", "path", "set"],
      isIdentifier method = true := by decide
  have created {method : String} {arguments : List Value}
      (listed : method ∈ ["circle", "rect", "ellipse", "text", "image", "path", "set"])
      (plain : Value.isPlainItems arguments = true) :
      (Statement.create name paper method arguments).isPlain = true :=
    Bool.and_eq_true_iff.mpr ⟨methods method listed, plain⟩
  cases shape with
  | set members =>
    cases members with
    | nil => exact List.forall_mem_singleton.mpr (created (by decide) rfl)
    | cons m rest =>
      exact List.forall_mem_cons.mpr ⟨created (by decide) rfl, List.forall_mem_singleton.mpr rfl⟩
  | _ => exact List.forall_mem_singleton.mpr (created (by decide) rfl)

theorem call_plain (t : TransformDef) (name : String) : (t.call name).isPlain = true := by
  have methods : ∀ method ∈ ["rotate", "translate", "scale", "toFront", "toBack"],
      isIdentifier method = true := by decide
  have called {method : String} {arguments : List Value}
      (listed : method ∈ ["rotate", "translate", "scale", "toFront", "toBack"])
      (plain : Value.isPlainItems arguments = true) :
      (Statement.call name method arguments).isPlain = true :=
    Bool.and_eq_true_iff.mpr ⟨methods method listed, plain⟩
  cases t with
  | rotate x radians absolute center => cases center <;> exact called (by decide) rfl
  | scale sx sy center => cases center <;> exact called (by decide) rfl
  | _ => exact called (by decide) rfl

theorem block_plain {d : ElementDef} (plain : d.isPlain = true) (paper name : String) :
    ∀ st ∈ d.block paper name, st.isPlain = true := by
  obtain ⟨attributes, animations⟩ := Bool.and_eq_true_iff.mp plain
  intro st member
  simp only [ElementDef.block, List.mem_append, List.mem_map] at member
  rcases member with ((created | ⟨entry, listed, rfl⟩) | ⟨t, _, rfl⟩) | animated
  · exact creation_plain d.shape paper name st created
  · exact attribute_plain (Attributes.merged_plain attributes entry listed) name entry.1
  · exact call_plain t name
  · cases given : d.animation with
    | none => simp [given] at animated
    | some a =>
      rw [given] at animated animations
      obtain rfl := List.mem_singleton.mp animated
      exact animation_plain animations name

theorem rendered_plain {s : Scene} (plain : s.isPlain = true) {ambient : Ambient} {c : Canvas}
    (rendered : s.render (Uid.Strategy.sequential.suffix ambient) = .ok c) :
    c.Plain ∧ c.texts = s.texts := by
  rw [sequential_suffix, render_checked, checked_ok_iff] at rendered
  obtain ⟨clean, rfl⟩ := rendered
  have ok : s.Acceptable := (faults_empty_iff s).mp clean
  refine ⟨⟨fun name declared => ?_, drawing_resolved ok toString, fun st member => ?_⟩,
    drawing_texts s toString⟩
  · rw [drawing_declares] at declared
    rcases List.mem_cons.mp declared with rfl | element
    · cases given : s.canvas.name with
      | none =>
        rw [unnamed_paper given]
        decide
      | some name =>
        rw [CanvasDef.paper, given]
        exact ok.name name given
    · rcases (element_name_iff s name).mp element with id | generated
      · exact ok.identifiers name id
      · obtain ⟨kind, n, rfl⟩ := generated_text generated
        exact generated_identifier kind n
  · rw [drawing_blocks] at member
    obtain ⟨block, listed, inside⟩ := List.mem_flatten.mp member
    obtain ⟨i, bound, rfl⟩ := List.mem_mapIdx.mp listed
    exact block_plain (List.all_eq_true.mp plain _ (List.getElem_mem bound)) _ _ st inside

end Plain

end Scene

end SceneScript
