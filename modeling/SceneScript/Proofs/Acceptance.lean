import Mathlib.Data.List.Nodup
import SceneScript.Config
import SceneScript.Proofs.References
import SceneScript.Proofs.Rendering

/- Which scenes are accepted, and what is reported of the others: the first fault of the first
   element that has one, or a fault of the canvas before all of them. -/
namespace SceneScript.Scene

def IsPathData (data : String) : Prop :=
  Path.validate data = .ok ()

structure ShapeDef.Clean (shape : ShapeDef) (earlier : List String) : Prop where
  members : ∀ members, shape = .set members → ∀ id ∈ members, id ∈ earlier
  plainPath : ∀ data, shape = .path data [] → IsPathData (data.getD "")
  builtPath : ∀ data commands, shape = .path data commands → commands ≠ [] →
    IsPathData (data.getD "") ∧
    (∀ radius direction, .corner radius direction ∈ commands →
      ∃ corner, Path.Corner.ofText direction = .ok corner) ∧
    IsPathData
      ((Path.Builder.ofInitial (data.getD "")).run (ownSteps commands)).result

structure Acceptable (s : Scene) : Prop where
  name : ∀ name, s.canvas.name = some name → isIdentifier name = true
  container : ∀ id, s.canvas.container = some id → Text.trim id ≠ ""
  size : s.canvas.width ≠ 0 ∧ s.canvas.height ≠ 0
  distinct : (ids s.elements).Nodup
  identifiers : ∀ id ∈ ids s.elements, isIdentifier id = true
  shapes : ∀ front d back, s.elements = front ++ d :: back → d.shape.Clean (ids front)

/-- The fault that is met first: of the canvas, else of the first element that has any. -/
def FirstFault (s : Scene) (e : Error) : Prop :=
  s.canvas.faults.head? = some e ∨
    s.canvas.faults = [] ∧ ∃ front d back, s.elements = front ++ d :: back ∧
      faultsAfter [] front = [] ∧ (d.faults front.length (ids front)).head? = some e

theorem faultsAfter_empty_iff (before defs : List ElementDef) :
    faultsAfter before defs = [] ↔ ∀ front d back, defs = front ++ d :: back →
      d.faults (before ++ front).length (ids (before ++ front)) = [] := by
  induction defs generalizing before with
  | nil => simp [faultsAfter]
  | cons a rest ih =>
    rw [faultsAfter, List.append_eq_nil_iff, ih]
    have every := every_split_cons (fun front (d : ElementDef) =>
      d.faults (before ++ front).length (ids (before ++ front)) = []) a rest
    simpa using every.symm

theorem first_failing_element (before defs : List ElementDef) (e : Error) :
    (faultsAfter before defs).head? = some e ↔
      ∃ front d back, defs = front ++ d :: back ∧ faultsAfter before front = [] ∧
        (d.faults (before ++ front).length (ids (before ++ front))).head? = some e := by
  induction defs generalizing before with
  | nil => simp [faultsAfter]
  | cons a rest ih =>
    rw [faultsAfter, List.head?_append, Option.or_eq_some_iff, ih]
    constructor
    · rintro (here | ⟨clean, front, d, back, split, earlier, fault⟩)
      · exact ⟨[], a, rest, rfl, rfl, by simpa using here⟩
      · refine ⟨a :: front, d, back, by simp [split], ?_, by simpa using fault⟩
        simpa [faultsAfter, earlier] using clean
    · rintro ⟨front, d, back, split, earlier, fault⟩
      cases front with
      | nil =>
        injection split with same
        subst d
        exact Or.inl (by simpa using fault)
      | cons b front =>
        injection split with same tail
        subst b
        simp only [faultsAfter, List.append_eq_nil_iff] at earlier
        exact Or.inr ⟨by simp [earlier.1], front, d, back, tail, earlier.2, by simpa using fault⟩

theorem ids_append (front back : List ElementDef) : ids (front ++ back) = ids front ++ ids back :=
  List.filterMap_append

theorem ids_member_iff (id : String) (defs : List ElementDef) :
    id ∈ ids defs ↔ ∃ d ∈ defs, d.id = some id := by
  simp [ids]

theorem ids_nodup_iff (before defs : List ElementDef) (distinct : (ids before).Nodup) :
    (ids (before ++ defs)).Nodup ↔ ∀ front d back, defs = front ++ d :: back →
      ∀ id, d.id = some id → id ∉ ids (before ++ front) := by
  induction defs generalizing before with
  | nil => simpa using distinct
  | cons a rest ih =>
    have every := every_split_cons (fun front (d : ElementDef) =>
      ∀ id, d.id = some id → id ∉ ids (before ++ front)) a rest
    rw [every, List.append_nil]
    have shift : before ++ a :: rest = before ++ [a] ++ rest := by simp
    have extended : (ids (before ++ [a])).Nodup ↔ ∀ id, a.id = some id → id ∉ ids before := by
      rw [ids_append_one, List.nodup_append]
      cases a.id <;> simp [distinct]
      exact ⟨fun apart member => apart _ member rfl, fun fresh id member eq => fresh (eq ▸ member)⟩
    rw [shift]
    constructor
    · intro whole
      have front := extended.mp (List.Nodup.of_append_left (ids_append _ rest ▸ whole))
      refine ⟨front, fun ahead d back split => ?_⟩
      simpa using (ih _ (extended.mpr front)).mp whole ahead d back split
    · rintro ⟨fresh, later⟩
      exact (ih _ (extended.mpr fresh)).mpr (by simpa using later)

theorem taken_empty_iff (d : ElementDef) (index : Nat) (earlier : List String) :
    d.takenFaults index earlier = [] ↔ ∀ id, d.id = some id → id ∉ earlier := by
  cases named : d.id <;> simp [ElementDef.takenFaults, named, faultIf_empty_iff]

theorem path_clean_iff (data : String) : Path.faults data = [] ↔ IsPathData data := by
  rw [IsPathData, validate_checked, checked_ok_iff]
  simp

theorem corners_clean_iff (commands : List PathCommand) :
    cornerFaults commands = [] ↔ ∀ radius direction, .corner radius direction ∈ commands →
      ∃ corner, Path.Corner.ofText direction = .ok corner := by
  simp only [cornerFaults_empty_iff, own_step_exists_iff]
  constructor
  · exact fun every radius direction member => every _ member radius direction rfl
  · exact fun every command member radius direction same => every radius direction (same ▸ member)

theorem shape_clean_iff (label : ElementLabel) (earlier : List String) (shape : ShapeDef) :
    shape.faults label earlier = [] ↔ shape.Clean earlier := by
  cases shape with
  | path data commands =>
    cases commands with
    | nil =>
      rw [ShapeDef.faults, path_clean_iff]
      constructor
      · intro valid
        exact ⟨by simp, by rintro _ ⟨⟩; exact valid, by rintro _ _ ⟨⟩ filled; contradiction⟩
      · exact fun clean => clean.plainPath data rfl
    | cons command rest =>
      rw [ShapeDef.faults, List.append_eq_nil_iff, List.append_eq_nil_iff, path_clean_iff,
        path_clean_iff, corners_clean_iff, and_assoc]
      · constructor
        · intro valid
          exact ⟨by simp, by simp, by rintro _ _ ⟨⟩ _; exact valid⟩
        · exact fun clean => clean.builtPath data _ rfl (List.cons_ne_nil _ _)
      · simp
  | set members =>
    simp only [ShapeDef.faults, List.map_eq_nil_iff, List.filter_eq_nil_iff]
    constructor
    · intro known
      exact ⟨by rintro _ ⟨⟩ id member; simpa using known id member, by simp, by simp⟩
    · intro clean id member
      simpa using clean.members members rfl id member
  | _ => exact ⟨fun _ => ⟨by simp, by simp, by simp⟩, fun _ => rfl⟩

theorem element_clean_iff (d : ElementDef) (index : Nat) (earlier : List String) :
    d.faults index earlier = [] ↔ (∀ id, d.id = some id → id ∉ earlier) ∧
      d.shape.Clean earlier ∧ ∀ id, d.id = some id → isIdentifier id = true := by
  rw [ElementDef.faults, List.append_eq_nil_iff, List.append_eq_nil_iff, taken_empty_iff,
    shape_clean_iff, idFaults_empty_iff, and_assoc]

theorem canvas_clean_iff (d : CanvasDef) :
    d.faults = [] ↔ (∀ name, d.name = some name → isIdentifier name = true) ∧
      (∀ id, d.container = some id → Text.trim id ≠ "") ∧ d.width ≠ 0 ∧ d.height ≠ 0 := by
  rw [CanvasDef.faults, List.append_eq_nil_iff, List.append_eq_nil_iff, idFaults_empty_iff,
    faultIf_empty_iff, not_or, and_assoc]
  cases d.container <;> simp [faultIf_empty_iff]

theorem faults_empty_iff (s : Scene) : s.faults = [] ↔ s.Acceptable := by
  rw [faults, List.append_eq_nil_iff, canvas_clean_iff, faultsAfter_empty_iff]
  simp only [element_clean_iff, List.nil_append]
  have distinct_iff := ids_nodup_iff [] s.elements List.nodup_nil
  simp only [List.nil_append] at distinct_iff
  constructor
  · rintro ⟨⟨name, container, size⟩, elements⟩
    refine ⟨name, container, size, ?_, ?_, ?_⟩
    · exact distinct_iff.mpr fun front d back split => (elements front d back split).1
    · intro id member
      obtain ⟨d, inside, named⟩ := (ids_member_iff id s.elements).mp member
      obtain ⟨front, back, split⟩ := List.append_of_mem inside
      exact (elements front d back split).2.2 id named
    · exact fun front d back split => (elements front d back split).2.1
  · intro ok
    refine ⟨⟨ok.name, ok.container, ok.size⟩, fun front d back split => ?_⟩
    have member : d ∈ s.elements := split ▸ List.mem_append_right _ List.mem_cons_self
    refine ⟨distinct_iff.mp ok.distinct front d back split, ok.shapes front d back split, ?_⟩
    exact fun id named => ok.identifiers id ((ids_member_iff id _).mpr ⟨d, member, named⟩)

theorem first_fault_iff (s : Scene) (e : Error) : s.faults.head? = some e ↔ s.FirstFault e := by
  rw [faults, List.head?_append, Option.or_eq_some_iff, first_failing_element, FirstFault,
    List.head?_eq_none_iff]
  simp

theorem path_fault_case {data : String} {e : Error} (member : e ∈ Path.faults data) :
    ∃ fault, e = .invalidPath fault := by
  unfold Path.faults at member
  split at member
  · simp at member
  · rename_i fault _
    exact ⟨fault, List.mem_singleton.mp member⟩

theorem corner_fault_case {commands : List PathCommand} {e : Error}
    (member : e ∈ cornerFaults commands) : ∃ text, e = .invalidCorner text := by
  obtain ⟨command, _, fault⟩ := List.mem_filterMap.mp member
  obtain ⟨_, text, _, failed⟩ := command_fault_iff.mp fault
  exact ⟨text, corner_text_error failed⟩

theorem id_fault_case {id : Option String} {e : Error} (member : e ∈ idFaults id) :
    ∃ name, e = .invalidIdentifier name := by
  cases id with
  | none => simp [idFaults] at member
  | some name => exact ⟨name, (faultIf_member_iff.mp member).2⟩

/-- What a scene reports of an element after those with the given ids. Only a taken id and an
    unknown member have a label, which is that of the element. -/
inductive ReportedOf (d : ElementDef) (index : Nat) (earlier : List String) : Error → Prop where
  | taken {id : String} (own : d.id = some id) (before : id ∈ earlier) :
    ReportedOf d index earlier (.scene (d.label index) (.duplicateId id))
  | unknown {members : List String} {id : String} (shape : d.shape = .set members)
    (member : id ∈ members) (absent : id ∉ earlier) :
    ReportedOf d index earlier (.scene (d.label index) (.unknownMember id))
  | path (fault : PathFault) : ReportedOf d index earlier (.invalidPath fault)
  | corner (text : String) : ReportedOf d index earlier (.invalidCorner text)
  | identifier (id : String) : ReportedOf d index earlier (.invalidIdentifier id)

theorem shape_fault_reported {d : ElementDef} {index : Nat} {earlier : List String} {e : Error}
    (member : e ∈ d.shape.faults (d.label index) earlier) : ReportedOf d index earlier e := by
  cases shape : d.shape with
  | path data commands =>
    rw [shape] at member
    cases commands with
    | nil =>
      obtain ⟨fault, rfl⟩ := path_fault_case member
      exact .path fault
    | cons command rest =>
      rw [ShapeDef.faults, List.mem_append, List.mem_append] at member
      · rcases member with (own | corner) | built
        · obtain ⟨fault, rfl⟩ := path_fault_case own
          exact .path fault
        · obtain ⟨text, rfl⟩ := corner_fault_case corner
          exact .corner text
        · obtain ⟨fault, rfl⟩ := path_fault_case built
          exact .path fault
      · simp
  | set members =>
    rw [shape] at member
    obtain ⟨id, absent, rfl⟩ := List.mem_map.mp member
    obtain ⟨inside, absent⟩ := List.mem_filter.mp absent
    exact .unknown shape inside (by simpa using absent)
  | _ => simp [shape, ShapeDef.faults] at member

theorem element_fault_reported {d : ElementDef} {index : Nat} {earlier : List String} {e : Error}
    (member : e ∈ d.faults index earlier) : ReportedOf d index earlier e := by
  rcases List.mem_append.mp member with member | identifier
  · rcases List.mem_append.mp member with taken | shape
    · cases named : d.id with
      | none => simp [ElementDef.takenFaults, named] at taken
      | some id =>
        simp only [ElementDef.takenFaults, named, faultIf_member_iff] at taken
        obtain ⟨before, rfl⟩ := taken
        exact .taken named before
    · exact shape_fault_reported shape
  · obtain ⟨name, rfl⟩ := id_fault_case identifier
    exact .identifier name

theorem canvas_fault_unlabelled {d : CanvasDef} {e : Error} (member : e ∈ d.faults) :
    (∃ name, e = .invalidIdentifier name) ∨ e = .invalidContainer ∨
      e = .invalidDimensions d.width d.height := by
  rcases List.mem_append.mp member with member | size
  · rcases List.mem_append.mp member with name | container
    · exact Or.inl (id_fault_case name)
    · cases given : d.container with
      | none => simp [given] at container
      | some id =>
        rw [given] at container
        exact Or.inr (Or.inl (faultIf_member_iff.mp container).2)
  · exact Or.inr (Or.inr (faultIf_member_iff.mp size).2)

theorem label_text (d : ElementDef) (index : Nat) :
    (d.label index).text =
      match d.id with
      | some id => "element '" ++ id ++ "'"
      | none => "element #" ++ toString index := by
  unfold ElementDef.label
  cases d.id <;> rfl

/-- A scene is rendered exactly when it is acceptable, whatever the configuration; else the error is
    its first fault. A fault has a label only if an id is taken or a member unknown, and no element
    is ever foreign. -/
theorem render_outcome (s : Scene) (config : Config) (ambient : Ambient) :
    ((∃ c, s.render (config.uid.suffix ambient) = .ok c) ↔ s.Acceptable) ∧
    (∀ e, s.render (config.uid.suffix ambient) = .error e ↔ s.FirstFault e) ∧
    (∀ name, ¬ s.FirstFault (.foreignElement name)) ∧
    ∀ label fault, s.FirstFault (.scene label fault) →
      ∃ front d back, s.elements = front ++ d :: back ∧ faultsAfter [] front = [] ∧
        ReportedOf d front.length (ids front) (.scene label fault) ∧
        label.text =
          (match d.id with
          | some id => "element '" ++ id ++ "'"
          | none => "element #" ++ toString front.length) ∧
        (Error.scene label fault).message = "scene error: " ++ label.text ++ ": " ++
          (match fault with
          | .duplicateId id => "duplicate element id '" ++ id ++ "'"
          | .unknownMember id => "unknown set member '" ++ id ++ "'") := by
  rw [render_checked]
  refine ⟨?_, fun e => checked_error_iff.trans (first_fault_iff s e), ?_, ?_⟩
  · simp [checked_ok_iff, faults_empty_iff]
  · rintro name (canvas | ⟨_, front, d, back, _, _, fault⟩)
    · simpa using canvas_fault_unlabelled (List.mem_of_mem_head? canvas)
    · nomatch element_fault_reported (List.mem_of_mem_head? fault)
  · rintro label fault (canvas | ⟨_, front, d, back, split, clean, first⟩)
    · simpa using canvas_fault_unlabelled (List.mem_of_mem_head? canvas)
    · have reported := element_fault_reported (List.mem_of_mem_head? first)
      have own : label = d.label front.length := by cases reported <;> rfl
      refine ⟨front, d, back, split, clean, reported, own ▸ label_text d front.length, ?_⟩
      cases fault <;> rfl

theorem unknown_member_outcome :
    let s : Scene := ⟨⟨some "holder", 0, 0, 9, 9, none⟩,
      [⟨.set [], some "a", [], [], none⟩, ⟨.set ["a", "b", "c"], none, [], [], none⟩]⟩
    let e : Error := .scene (.numbered 1) (.unknownMember "b")
    s.FirstFault e ∧ ¬ s.Acceptable ∧
      (∃ front d back, s.elements = front ++ d :: back ∧
        ReportedOf d front.length (ids front) e) ∧
      e.message = "scene error: element #1: unknown set member 'b'" := by
  intro s e
  have first : s.FirstFault e := (first_fault_iff s e).mp (by decide)
  have outcome := render_outcome s Config.default ⟨fun _ => 0, fun _ => 0, fun _ => 0⟩
  obtain ⟨front, d, back, split, _, reported, _, message⟩ := outcome.2.2.2 _ _ first
  refine ⟨first, fun accepted => ?_, ⟨front, d, back, split, reported⟩, message.trans (by decide)⟩
  obtain ⟨c, drawn⟩ := outcome.1.mpr accepted
  have failed := (outcome.2.1 e).mpr first
  rw [failed] at drawn
  contradiction

end SceneScript.Scene
