import SceneScript.Proofs.Acceptance
import SceneScript.Proofs.Blocks

/- Elements with an id stand by themselves: they draw no suffix, and nothing but later sets and the
   check for taken ids looks at them. So one that no later set has can be taken out of its scene,
   and its statements go with it and no others. -/
namespace SceneScript.Scene

def withElements (s : Scene) (defs : List ElementDef) : Scene :=
  { s with elements := defs }

section Faults

theorem ids_named {d : ElementDef} {id : String} (named : d.id = some id) (back : List ElementDef) :
    ids (d :: back) = id :: ids back := by
  rw [ids, List.filterMap_cons, named]
  rfl

theorem ShapeDef.Clean.without {shape : ShapeDef} {earlier fewer : List String}
    (clean : shape.Clean earlier)
    (kept : ∀ members, shape = .set members → ∀ m ∈ members, m ∈ earlier → m ∈ fewer) :
    shape.Clean fewer where
  members members is_set m member :=
    kept members is_set m member (clean.members members is_set m member)
  plainPath := clean.plainPath
  builtPath := clean.builtPath

theorem acceptable_front {s : Scene} {front back : List ElementDef}
    (split : s.elements = front ++ back) (ok : s.Acceptable) :
    (s.withElements front).Acceptable where
  name := ok.name
  container := ok.container
  size := ok.size
  distinct := by
    have distinct := ok.distinct
    rw [split, ids_append] at distinct
    exact distinct.of_append_left
  identifiers id member := by
    refine ok.identifiers id ?_
    rw [split, ids_append]
    exact List.mem_append_left _ member
  shapes ahead e behind inside := by
    refine ok.shapes ahead e (behind ++ back) ?_
    rw [split, show front = ahead ++ e :: behind from inside, List.append_assoc, List.cons_append]

theorem acceptable_removed {s : Scene} {front back : List ElementDef} {d : ElementDef} {id : String}
    (split : s.elements = front ++ d :: back) (named : d.id = some id)
    (unused : ∀ e ∈ back, ∀ members, e.shape = .set members → id ∉ members)
    (ok : s.Acceptable) : (s.withElements (front ++ back)).Acceptable := by
  have whole : ids s.elements = ids front ++ id :: ids back := by
    rw [split, ids_append, ids_named named]
  have behind_removed (ahead : List ElementDef) {e : ElementDef} {behind : List ElementDef}
      (at_back : back = ahead ++ e :: behind) : e.shape.Clean (ids (front ++ ahead)) := by
    have clean : e.shape.Clean (ids (front ++ d :: ahead)) :=
      ok.shapes _ e behind (by rw [split, at_back, List.append_assoc, List.cons_append])
    refine clean.without fun members is_set m member earlier => ?_
    have other : m ≠ id := by
      rintro rfl
      exact unused e (at_back ▸ by simp) members is_set member
    rw [ids_append, ids_named named, List.mem_append, List.mem_cons] at earlier
    rw [ids_append, List.mem_append]
    exact earlier.imp_right fun later => later.resolve_left other
  refine ⟨ok.name, ok.container, ok.size, ?_, ?_, ?_⟩
  · have distinct := ok.distinct
    rw [whole] at distinct
    rw [show ids (s.withElements (front ++ back)).elements = ids front ++ ids back from
      ids_append front back]
    exact (List.nodup_middle.mp distinct).of_cons
  · intro other member
    refine ok.identifiers other ?_
    have either := List.mem_append.mp (ids_append front back ▸ member)
    rw [whole]
    exact either.elim (List.mem_append_left _) fun later =>
      List.mem_append_right _ (List.mem_cons_of_mem _ later)
  · intro ahead e behind inside
    rcases List.append_eq_append_iff.mp inside with ⟨between, rfl, at_back⟩ | ⟨rest, at_front, same⟩
    · exact behind_removed between at_back
    · cases rest with
      | nil =>
        have clean := behind_removed [] same.symm
        rw [List.append_nil] at at_front clean
        exact at_front ▸ clean
      | cons f rest =>
        injection same with first _
        subst f
        refine ok.shapes ahead e (rest ++ d :: back) ?_
        rw [split, at_front, List.append_assoc, List.cons_append]

end Faults

section Drawings
variable {c : Canvas} {d : ElementDef} {id : String}

def holding (c : Canvas) (drawn : Nat) (statements : List Statement) : Canvas :=
  { c with drawn := drawn, statements := statements }

theorem place_named (named : d.id = some id) :
    place c d = holding c c.drawn (c.statements ++ d.block c.name id) := by
  rw [place, next_name_after, ElementDef.nameAfter, named]
  rfl

theorem place_all_behind (defs : List ElementDef) (c : Canvas) :
    ∃ drawn later, ∀ earlier, defs.foldl place (holding c c.drawn earlier) =
      holding c drawn (earlier ++ later) := by
  refine ⟨c.drawn + unnamed defs, (defs.mapIdx fun i (e : ElementDef) =>
    e.block c.name (e.nameAfter c.suffix (c.drawn + unnamed (defs.take i)))).flatten, ?_⟩
  exact fun earlier => place_all defs (holding c c.drawn earlier)

theorem drawing_removed {s : Scene} {front back : List ElementDef}
    (split : s.elements = front ++ d :: back) (named : d.id = some id) (suffix : Nat → String) :
    let c := (s.withElements front).drawing suffix
    ∃ drawn later,
      s.drawing suffix = holding c drawn (c.statements ++ d.block c.name id ++ later) ∧
      (s.withElements (front ++ back)).drawing suffix =
        holding c drawn (c.statements ++ later) := by
  intro c
  obtain ⟨drawn, later, behind⟩ := place_all_behind back c
  refine ⟨drawn, later, ?_, ?_⟩
  · rw [drawing, split, List.foldl_append, List.foldl_cons, place_named named]
    exact behind _
  · have appended : (s.withElements (front ++ back)).drawing suffix = back.foldl place c :=
      List.foldl_append
    exact appended.trans (behind c.statements)

theorem place_all_named {defs : List ElementDef} (named : ∀ d ∈ defs, ∃ id, d.id = some id)
    (c : Canvas) (suffix : Nat → String) :
    defs.foldl place { c with suffix := suffix } =
      { defs.foldl place c with suffix := suffix } := by
  induction defs generalizing c with
  | nil => rfl
  | cons d rest ih =>
    obtain ⟨⟨id, own⟩, others⟩ := List.forall_mem_cons.mp named
    rw [List.foldl_cons, List.foldl_cons, place_named own, place_named own]
    exact ih others (holding c c.drawn (c.statements ++ d.block c.name id))

theorem drawing_named {s : Scene} {name : String} (given : s.canvas.name = some name)
    (named : ∀ d ∈ s.elements, ∃ id, d.id = some id) (p q : Nat → String) :
    (s.drawing p).script = (s.drawing q).script := by
  have blank : s.canvas.blank p = { s.canvas.blank q with suffix := p } := by
    simp only [CanvasDef.blank, CanvasDef.paper, given]
  rw [drawing, drawing, blank, place_all_named named]
  rfl

end Drawings

/-- Take an element with an id out of a scene that is rendered, one that is a member of no later
    set. With the same suffixes the rest is rendered as well, to the same canvas but for the block
    of statements of this element, which are all about it; in front of the block stands what the
    elements in front give. And where a scene names its canvas and all its elements, its script does
    not depend on where suffixes come from. -/
theorem named_elements_apart (s : Scene) :
    (∀ (suffix : Nat → String) (c : Canvas), s.render suffix = .ok c →
      ∀ front d back, s.elements = front ++ d :: back → ∀ id, d.id = some id →
        (∀ e ∈ back, ∀ members, e.shape = .set members → id ∉ members) →
        ∃ before later,
          c.statements = before ++ d.block c.name id ++ later ∧
          (∀ st ∈ d.block c.name id, st.AddressedTo id) ∧
          (s.withElements (front ++ back)).render suffix =
            .ok { c with statements := before ++ later } ∧
          ∃ drawn, (s.withElements front).render suffix =
            .ok { c with drawn := drawn, statements := before }) ∧
    ((∃ name, s.canvas.name = some name) → (∀ d ∈ s.elements, ∃ id, d.id = some id) →
      ∀ (u v : Uid.Strategy) (here there : Ambient),
        (s.render (u.suffix here)).map Canvas.script =
          (s.render (v.suffix there)).map Canvas.script) := by
  constructor
  · intro suffix c rendered front d back split id named unused
    rw [render_checked, checked_ok_iff] at rendered
    obtain ⟨clean, rfl⟩ := rendered
    have ok := (faults_empty_iff s).mp clean
    have cut := (faults_empty_iff _).mpr (acceptable_front split ok)
    have without := (faults_empty_iff _).mpr (acceptable_removed split named unused ok)
    obtain ⟨drawn, later, whole, removed⟩ := drawing_removed split named suffix
    rw [whole]
    refine ⟨((s.withElements front).drawing suffix).statements, later, rfl,
      block_addressed d _ id, ?_, ((s.withElements front).drawing suffix).drawn, ?_⟩
    · rw [render_clean without, removed]
      rfl
    · exact render_clean cut suffix
  · rintro ⟨name, given⟩ named u v here there
    rw [render_checked, render_checked]
    cases s.faults with
    | nil => exact congrArg Except.ok (drawing_named given named _ _)
    | cons fault rest => rfl

theorem named_text_removed :
    let dot : ElementDef := ⟨.circle 0 0 1, none, [], [], none⟩
    let note : ElementDef := ⟨.text 0 0 "x", some "note", [("fill", .text "red")], [.toFront], none⟩
    let group : ElementDef := ⟨.set ["note"], some "group", [], [], none⟩
    let outer : ElementDef := ⟨.set ["note"], none, [], [], none⟩
    let s : Scene := ⟨⟨none, 1, 2, 9, 9, none⟩, [dot, note, group, outer, dot]⟩
    let t : Scene := ⟨⟨none, 1, 2, 9, 9, some "paper"⟩, [note, group]⟩
    let suffix (n : Nat) := "s" ++ toString (n * n)
    (∃ c, s.render suffix = .ok c ∧
      c.statements.map Statement.text = ["var rafa_circle_s4 = _raphael_canvas_s1.circle(0, 0, 1);",
        "var note = _raphael_canvas_s1.text(0, 0, \"x\");", "note.attr(\x7b\"fill\":\"red\"\x7d);",
        "note.toFront();", "var group = _raphael_canvas_s1.set();", "group.push(note);",
        "var rafa_set_s9 = _raphael_canvas_s1.set();", "rafa_set_s9.push(note);",
        "var rafa_circle_s16 = _raphael_canvas_s1.circle(0, 0, 1);"] ∧
      (∀ e ∈ [outer, dot], ∀ members, e.shape = .set members → "group" ∉ members) ∧
      ∃ before later, c.statements = before ++ group.block c.name "group" ++ later ∧
        (s.withElements [dot, note, outer, dot]).render suffix =
          .ok { c with statements := before ++ later }) ∧
    ∀ (u v : Uid.Strategy) (here there : Ambient),
      (t.render (u.suffix here)).map Canvas.script =
        (t.render (v.suffix there)).map Canvas.script := by
  intro dot note group outer s t suffix
  have unused : ∀ e ∈ [outer, dot], ∀ members, e.shape = .set members → "group" ∉ members := by
    simp [outer, dot]
  have rendered := render_clean (show s.faults = [] by decide) suffix
  obtain ⟨before, later, whole, _, removed, _⟩ := (named_elements_apart s).1 suffix _ rendered
    [dot, note] group [outer, dot] rfl "group" rfl unused
  refine ⟨⟨_, rendered, by decide +kernel, unused, before, later, whole, removed⟩, ?_⟩
  exact (named_elements_apart t).2 ⟨"paper", rfl⟩ (by simp [t, note, group])

end SceneScript.Scene
