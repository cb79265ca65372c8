import SceneScript.Proofs.Emission
import SceneScript.Proofs.GeneratedNames
import SceneScript.Proofs.Weaving

/- Runs of operations without raw statements, verbatim expressions and callbacks, on canvases with
   suffixes that may stand in names, as numbers may. They leave plain canvases: whatever is given as
   a text stays a text. -/
namespace SceneScript

def Attributes.isPlain (a : Attributes) : Bool :=
  Value.isPlainEntries a.entries

def Angle.isPlain : Angle → Bool
  | degrees _ | radians _ => true
  | expression _ => false

def Transform.isPlain : Transform → Bool
  | rotate angle _ | rotateAbout angle _ _ => angle.isPlain
  | translate _ _ | scale _ _ | scaleAbout _ _ _ _ | toFront | toBack => true

namespace Animation

def Link.isPlain (l : Link) : Bool :=
  l.attributes.isPlain && l.callback.isNone

def isPlain (a : Animation) : Bool :=
  (a.first :: a.rest).all Link.isPlain

mutual

def Step.isPlain : Step → Bool
  | .attr _ value => value.isPlain
  | .translate _ _ | .scale _ _ => true
  | .rotate angle => angle.isPlain
  | .onFinish _ => false
  | .after _ steps => Step.allPlain steps

def Step.allPlain : List Step → Bool
  | [] => true
  | s :: rest => s.isPlain && Step.allPlain rest

end

end Animation

/-- Whether an operation has no raw statement, no verbatim part and no callback, and only suffixes
    that may stand in names. -/
def Session.Op.Plain : Session.Op → Prop
  | .canvas _ _ _ suffix => ∀ n, SceneScript.Plain (suffix n)
  | .generator texts => ∀ n, SceneScript.Plain (texts n)
  | .push _ _ => False
  | .draw _ _ _ a | .drawPath _ _ _ _ a | .group _ _ _ a | .apply _ a => a.isPlain = true
  | .attr _ _ value => value.isPlain = true
  | .transform _ t => t.isPlain = true
  | .animate _ _ a callback => a.isPlain = true ∧ callback = none
  | .animateWith _ _ steps | .every _ _ steps => Animation.Step.allPlain steps = true
  | .canvasFrom _ _ _ _ | .node _ | .bbox _ _ | .bboxNamed _ _ _ | .reloadBbox _ _ | .update _
  | .field _ _ => True

section Statements

theorem angle_plain {angle : Angle} (plain : angle.isPlain = true) :
    angle.value.isPlain = true := by
  cases angle with
  | degrees x => rfl
  | radians x => rfl
  | expression source => contradiction

theorem transform_plain {t : Transform} (plain : t.isPlain = true) (e : Element) :
    (e.transform t).isPlain = true := by
  have arguments : Value.isPlainItems t.arguments = true := by
    cases t with
    | rotate angle absolute | rotateAbout angle x y =>
      simp [Transform.arguments, Value.isPlainItems, Value.isPlain, angle_plain plain]
    | _ => rfl
  exact Bool.and_eq_true_iff.mpr ⟨method_identifier t, arguments⟩

theorem attribute_plain {value : Value} (plain : value.isPlain = true) (receiver key : String) :
    (Statement.call receiver "attr" [.object [(key, value)]]).isPlain = true := by
  have attr : isIdentifier "attr" = true := by decide
  simp [Statement.isPlain, Value.isPlainItems, Value.isPlain, Value.isPlainEntries, plain, attr]

theorem apply_plain {a : Attributes} (plain : a.isPlain = true) (e : Element) :
    ∀ st ∈ e.apply a, st.isPlain = true := by
  intro st member
  obtain ⟨entry, listed, rfl⟩ := List.mem_map.mp member
  exact attribute_plain ((Value.isPlainEntries_iff a.entries).mp plain entry listed) e.name _

namespace Attributes

theorem insert_plain {a : Attributes} {value : Value} (own : a.isPlain = true)
    (plain : value.isPlain = true) (name : String) : (a.insert name value).isPlain = true := by
  obtain ⟨id, entries⟩ := a
  change Value.isPlainEntries (Entries.insert _ value entries) = true
  induction entries with
  | nil => simp [Entries.insert, Value.isPlainEntries, plain]
  | cons entry rest ih =>
    obtain ⟨first, later⟩ := Bool.and_eq_true_iff.mp own
    rw [Entries.insert]
    split
    · exact Bool.and_eq_true_iff.mpr ⟨plain, later⟩
    · exact Bool.and_eq_true_iff.mpr ⟨first, ih later⟩

theorem insertAll_plain {pairs : List (String × Value)}
    (plain : Value.isPlainEntries pairs = true) : (empty.insertAll pairs).isPlain = true := by
  rw [isPlain, insertAll_entries]
  exact (Value.isPlainEntries_iff _).mpr (merged_plain plain)

end Attributes

namespace Animation

theorem attr_keeps_plain {a : Animation} {value : Value} (own : a.isPlain = true)
    (plain : value.isPlain = true) (name : String) : (a.attr name value).isPlain = true := by
  simp only [isPlain, List.all_cons, Link.isPlain, Bool.and_eq_true] at own ⊢
  exact ⟨⟨Attributes.insert_plain own.1.1 plain _, own.1.2⟩, own.2⟩

theorem start_plain (target : String) (seconds : Float) : (start target seconds).isPlain = true :=
  rfl

mutual

theorem step_plain (a : Animation) (s : Step) (own : a.isPlain = true) (plain : s.isPlain = true) :
    (a.step s).isPlain = true := by
  cases s with
  | attr name value => exact attr_keeps_plain own plain name
  | translate dx dy => exact attr_keeps_plain own rfl _
  | scale sx sy => exact attr_keeps_plain own rfl _
  | rotate angle => exact attr_keeps_plain own (angle_plain plain) _
  | onFinish body => contradiction
  | after seconds steps =>
    have next := run_plain (start a.target seconds) steps (start_plain _ _) plain
    simp only [isPlain, List.all_cons, Bool.and_eq_true] at own next
    simp [step, andThen, isPlain, own, next]

theorem run_plain (a : Animation) (steps : List Step) (own : a.isPlain = true)
    (plain : Step.allPlain steps = true) : (a.run steps).isPlain = true := by
  cases steps with
  | nil => exact own
  | cons s rest =>
    obtain ⟨first, later⟩ := Bool.and_eq_true_iff.mp plain
    exact run_plain (a.step s) rest (step_plain a s own first) later

end

theorem following_plain (target : String) {callback : Option String} (quiet : callback = none)
    {links : List Link} (plain : links.all Link.isPlain = true) :
    (following target callback links).isPlain = true := by
  induction links generalizing callback with
  | nil =>
    subst quiet
    rfl
  | cons l rest ih =>
    subst quiet
    obtain ⟨own, later⟩ := Bool.and_eq_true_iff.mp plain
    obtain ⟨attributes, silent⟩ := Bool.and_eq_true_iff.mp own
    exact Bool.and_eq_true_iff.mpr ⟨attributes, ih (Option.isNone_iff_eq_none.mp silent) later⟩

theorem chain_plain {a : Animation} (plain : a.isPlain = true) :
    a.animate.isPlain = true ∧ a.launch.isPlain = true ∧ a.cycle.isPlain = true := by
  obtain ⟨own, later⟩ := Bool.and_eq_true_iff.mp plain
  obtain ⟨attributes, silent⟩ := Bool.and_eq_true_iff.mp own
  have chain : (a.motion.attributes.isPlain && a.continuation.isPlain) = true :=
    Bool.and_eq_true_iff.mpr
      ⟨attributes, following_plain a.target (Option.isNone_iff_eq_none.mp silent) later⟩
  exact ⟨chain, chain, chain⟩

end Animation

theorem animate_plain {a : Attributes} (plain : a.isPlain = true) (e : Element) (seconds : Float) :
    (e.animate seconds a none).isPlain = true := by
  refine (Animation.chain_plain ?_).1
  rw [Animation.single, Animation.attrs_inserted]
  simp [Animation.isPlain, Animation.Link.isPlain, Animation.start,
    Attributes.insertAll_plain plain]

theorem given_plain {op : Session.Op} {element : String} {given : Element → List Statement}
    (plain : op.Plain) (gives : op.gives? = some (element, given)) (e : Element) :
    ∀ st ∈ given e, st.isPlain = true := by
  have single {st : Statement} (own : st.isPlain = true) : ∀ other ∈ [st], other.isPlain = true :=
    fun other member => List.mem_singleton.mp member ▸ own
  cases op with
  | attr element name value =>
    cases gives
    exact single (attribute_plain plain e.name _)
  | apply element a =>
    cases gives
    exact apply_plain plain e
  | transform element t =>
    cases gives
    exact single (transform_plain plain e)
  | animate element seconds a callback =>
    obtain ⟨attributes, rfl⟩ := plain
    cases gives
    exact single (animate_plain attributes e seconds)
  | animateWith element seconds steps =>
    cases gives
    exact single (Animation.chain_plain (Animation.run_plain _ steps rfl plain)).2.1
  | every element seconds steps =>
    cases gives
    exact single (Animation.chain_plain (Animation.run_plain _ steps rfl plain)).2.2
  | _ => contradiction

end Statements

structure Canvas.Quiet (c : Canvas) : Prop where
  suffixes : ∀ n, SceneScript.Plain (c.suffix n)
  statements : ∀ st ∈ c.statements, st.isPlain = true

namespace Session

structure Quiet (s : Session) : Prop where
  generators : ∀ g ∈ s.generators, ∀ n, SceneScript.Plain (g.texts n)
  canvases : ∀ c ∈ s.canvases, c.Quiet

section Steps
variable {s after : Session} {number : Nat} {c : Canvas} {given : List Statement}

theorem grown_quiet {d : Canvas} (own : c.Quiet) (adds : Adds c given d)
    (plain : ∀ st ∈ given, st.isPlain = true) : d.Quiet := by
  refine ⟨adds.suffix ▸ own.suffixes, fun st member => ?_⟩
  rw [adds.statements] at member
  exact (List.mem_append.mp member).elim (own.statements st) (plain st)

theorem Quiet.push (quiet : s.Quiet) (number : Nat) (plain : ∀ st ∈ given, st.isPlain = true) :
    (s.pushAll number given).Quiet := by
  refine ⟨quiet.generators, fun c member => ?_⟩
  obtain ⟨i, bound, rfl⟩ := List.getElem_of_mem member
  simp only [pushAll, List.length_modify] at bound
  have own := quiet.canvases _ (List.getElem_mem bound)
  simp only [pushAll, List.getElem_modify]
  split
  · exact grown_quiet own (.pushed _ given) plain
  · exact own

theorem Quiet.spend (quiet : s.Quiet) (source : Option Nat) (draws : Nat) :
    (s.spent source draws).Quiet := by
  cases source with
  | none => exact quiet
  | some place =>
    refine ⟨fun g member => ?_, quiet.canvases⟩
    obtain ⟨i, bound, rfl⟩ := List.getElem_of_mem member
    simp only [spent, List.length_modify] at bound
    have own := quiet.generators _ (List.getElem_mem bound)
    simp only [spent, List.getElem_modify]
    split <;> exact own

theorem Quiet.make (quiet : s.Quiet) (found : s.canvases[number]? = some c) {kind : Kind}
    {a : Attributes} {creation : String → List Statement} (attributes : a.isPlain = true)
    (plain : ∀ name, ∀ st ∈ creation name, st.isPlain = true) (handle : String) :
    (s.withElement handle number c kind a creation).Quiet := by
  let e := (s.lentAt number c).made kind a.id
  have given : ∀ st ∈ creation e.name ++ e.apply a, st.isPlain = true := fun st member =>
    (List.mem_append.mp member).elim (plain e.name st) (apply_plain attributes e st)
  have own := quiet.canvases c (List.mem_of_getElem? found)
  refine ⟨(quiet.spend _ _).generators, fun d member => ?_⟩
  rcases List.mem_or_eq_of_mem_set member with before | rfl
  · exact quiet.canvases d before
  · exact grown_quiet own ⟨rfl, rfl, rfl, rfl⟩ given

theorem Quiet.opened (quiet : s.Quiet) {suffix : Nat → String}
    (plain : ∀ n, SceneScript.Plain (suffix n)) (handle : String) (target : Target)
    (name : Option String) (source : Option Nat) :
    (s.withCanvas handle target name suffix source).Quiet := by
  refine ⟨(quiet.spend _ _).generators, fun c member => ?_⟩
  rcases List.mem_append.mp member with before | new
  · exact (quiet.spend _ _).canvases c before
  · obtain rfl := List.mem_singleton.mp new
    refine ⟨plain, fun st listed => ?_⟩
    rw [opened_statements] at listed
    contradiction

theorem effect_quiet {op : Op} {answer : Answer} (quiet : s.Quiet) (plain : op.Plain)
    (effect : Effect s op answer after) : after.Quiet := by
  have single {st : Statement} (own : st.isPlain = true) (k : Nat) : (s.pushAll k [st]).Quiet :=
    quiet.push k fun other member => List.mem_singleton.mp member ▸ own
  cases effect with
  | missed misses => exact quiet
  | canvas clean => exact quiet.opened plain _ _ _ _
  | generator texts =>
    refine ⟨fun g member => ?_, quiet.canvases⟩
    rcases List.mem_append.mp member with before | new
    · exact quiet.generators g before
    · obtain rfl := List.mem_singleton.mp new
      exact plain
  | canvasFrom known clean =>
    exact quiet.opened (quiet.generators _ (List.mem_of_getElem? known)) _ _ _ _
  | pushed found => exact plain.elim
  | @drew op canvas handle shape a number c draws found clean =>
    have attributes : a.isPlain = true := by cases op <;> cases draws <;> exact plain
    refine quiet.make (numbered_canvas found) attributes (fun name st member => ?_) handle
    obtain rfl := List.mem_singleton.mp member
    exact Bool.and_eq_true_iff.mpr
      ⟨kind_identifier shape.kind, (Value.isPlainItems_iff _).mpr (shape_plain shape)⟩
  | @grouped canvas handle members a number c found own clean =>
    refine quiet.make (numbered_canvas found) plain (fun name st member => ?_) handle
    rcases List.mem_cons.mp member with rfl | joined
    · rfl
    · split at joined
      · contradiction
      · obtain rfl := List.mem_singleton.mp joined
        rfl
  | gave gives found => exact quiet.push _ (given_plain plain gives _)
  | node found => exact single rfl _
  | @boxNamed element handle name e found clean =>
    have declared : (s.pushAll e.canvas [(Box.mk e.canvas e.name name).declare]).Quiet :=
      single rfl _
    exact ⟨declared.generators, declared.canvases⟩
  | @boxFirst op element handle e asks found none_before =>
    have declared :
        (s.pushAll e.canvas [(Box.mk e.canvas e.name (e.name ++ "_bbox")).declare]).Quiet :=
      single rfl _
    exact ⟨declared.generators, declared.canvases⟩
  | boxCached found before => exact ⟨quiet.generators, quiet.canvases⟩
  | @boxReloaded element handle e b found before =>
    have updated : (s.pushAll e.canvas [b.update]).Quiet := single rfl _
    exact ⟨updated.generators, updated.canvases⟩
  | boxUpdated found => exact single rfl _
  | @boxField box f b found =>
    have part : isIdentifier f.name = true := by cases f <;> decide
    have own : (b.field f).isPlain = true := part
    exact single own _

end Steps

theorem Quiet.drawn {s : Session} (quiet : s.Quiet) {text : String} (drawn : s.Drawn text) :
    SceneScript.Plain text := by
  rcases drawn with ⟨place, g, at_place, i, _, rfl⟩ | ⟨number, c, found, _, i, _, rfl⟩
  · exact quiet.generators g (List.mem_of_getElem? at_place) (i + 1)
  · exact (quiet.canvases c (List.mem_of_getElem? found)).suffixes (i + 1)

structure Clear (s : Session) : Prop where
  sound : Sound s
  sourced : Sourced s
  quiet : s.Quiet
  identifiers : Identifiers s.canvases

theorem effect_clear {s after : Session} {op : Op} {answer : Answer} (clear : s.Clear)
    (plain : op.Plain) (effect : Effect s op answer after) : after.Clear := by
  have quiet := effect_quiet clear.quiet plain effect
  -- Only a text that was drawn could spoil a name that is generated.
  have named := (effect_plain clear.sound clear.sourced effect).mp fun _ => quiet.drawn
  exact {
    sound := effect_sound clear.sound effect
    sourced := effect_sourced clear.sourced effect
    quiet
    identifiers := (effect_identifiers clear.sound effect).mpr ⟨clear.identifiers, named.2⟩ }

theorem run_plain (ops : List Op) (plain : ∀ op ∈ ops, op.Plain) :
    ∀ c ∈ (empty.run ops).2.canvases, c.Plain := by
  have start : empty.Clear := ⟨empty_sound, nofun, ⟨nofun, nofun⟩, nofun⟩
  have clear : (empty.run ops).2.Clear := run_keeps_among
    (fun op member _ _ _ effect before => effect_clear before (plain op member) effect) start
  intro c member
  obtain ⟨number, found⟩ := List.getElem?_of_mem member
  exact {
    names := clear.identifiers c member
    resolved := clear.sound.scripts.resolved number c found
    statements := (clear.quiet.canvases c member).statements }

end Session

end SceneScript
