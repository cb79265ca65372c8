import Mathlib.Data.List.Basic
import SceneScript.Proofs.Acceptance
import SceneScript.Proofs.Blocks
import SceneScript.Proofs.Calls

/- The variables of a scene. Every use follows its declaration, and numbers keep generated names
   apart; but nothing keeps an id apart from them, from the paper or from the loop function. -/
namespace SceneScript

theorem underscore_not_digit (n : Nat) : '_' ∉ (toString n).toList := by
  rw [Nat.toString_eq_ofList_toDigits, String.toList_ofList]
  exact Nat.underscore_not_in_toDigits

theorem underscore_not_in_kind (kind : Kind) : '_' ∉ kind.name.toList := by
  cases kind <;> decide

theorem number_text_injective {n m : Nat} (same : toString n = toString m) : n = m := by
  have numbers := congrArg (fun text : String => Nat.ofDigitChars 10 text.toList 0) same
  simpa [Nat.toString_eq_ofList_toDigits] using numbers

theorem kind_injective {kind other : Kind} (same : kind.name = other.name) : kind = other := by
  cases kind <;> cases other <;> first | rfl | exact absurd same (by decide)

/-- The kind ends at the first underscore, whatever follows. -/
theorem generated_injective {kind other : Kind} {text more : String}
    (same : "rafa_" ++ kind.name ++ "_" ++ text = "rafa_" ++ other.name ++ "_" ++ more) :
    kind = other ∧ text = more := by
  have chars := congrArg String.toList same
  simp only [String.toList_append, List.append_assoc] at chars
  have tails : kind.name.toList ++ '_' :: text.toList =
      other.name.toList ++ '_' :: more.toList := List.append_cancel_left chars
  have sort (kind : Kind) : ∀ c ∈ kind.name.toList, (c != '_') = true := by
    intro c member
    have apart : c ≠ '_' := fun same => underscore_not_in_kind kind (same ▸ member)
    simpa using apart
  obtain ⟨kinds, texts⟩ := Call.span_unique (sort kind) (sort other) rfl rfl tails
  exact ⟨kind_injective (String.toList_inj.mp kinds),
    String.toList_inj.mp (List.cons.inj texts).2⟩

namespace Scene

def elementNames (s : Scene) (suffix : Nat → String) : List String :=
  s.elements.mapIdx fun i d => d.nameAfter suffix (s.drawnBefore i)

theorem creation_declares (shape : ShapeDef) (paper name : String) :
    declaredBy (shape.creation paper name) = [name] := by
  cases shape with
  | set members => cases members <;> rfl
  | _ => rfl

theorem block_declares (d : ElementDef) (paper name : String) :
    declaredBy (d.block paper name) = [name] := by
  obtain ⟨calls, split, acts⟩ := block_split d paper name
  have silent := acting_silent acts
  have created := creation_declares d.shape paper name
  rw [split]
  rw [declaredBy] at silent created ⊢
  rw [List.filterMap_append, created, silent, List.append_nil]

theorem drawing_declares (s : Scene) (suffix : Nat → String) :
    (s.drawing suffix).declared = s.canvas.paper suffix :: s.elementNames suffix := by
  rw [drawing_blocks, Canvas.declared]
  refine congrArg (s.canvas.paper suffix :: ·) ?_
  have each : ∀ p : ElementDef × Nat,
      (declaredBy ∘ fun p : ElementDef × Nat => p.1.block (s.canvas.paper suffix)
        (p.1.nameAfter suffix (s.drawnBefore p.2))) p =
        [p.1.nameAfter suffix (s.drawnBefore p.2)] :=
    fun p => block_declares p.1 _ _
  calc declaredBy (s.blocks suffix).flatten = ((s.blocks suffix).map declaredBy).flatten :=
        List.filterMap_flatten
    _ = s.elementNames suffix := by
        rw [blocks, elementNames, List.mapIdx_eq_zipIdx_map, List.mapIdx_eq_zipIdx_map,
          List.map_map, funext each]
        exact List.map_eq_flatMap.symm

theorem creation_resolved {known : List String} {shape : ShapeDef} {paper name : String}
    (on_paper : paper ∈ known)
    (members : ∀ members, shape = .set members → ∀ id ∈ members, id ∈ known) :
    Resolved known (shape.creation paper name) := by
  cases shape with
  | set ids =>
    have created := (set_creation on_paper (members ids rfl) name).1
    cases ids <;> exact created
  | _ => exact (shape_creation on_paper name _ _).1

theorem block_resolved {known : List String} {d : ElementDef} {paper name : String}
    (on_paper : paper ∈ known)
    (members : ∀ members, d.shape = .set members → ∀ id ∈ members, id ∈ known) :
    Resolved known (d.block paper name) := by
  obtain ⟨calls, split, acts⟩ := block_split d paper name
  rw [split, resolved_append, creation_declares]
  exact ⟨creation_resolved on_paper members,
    acting_resolved (List.mem_append_right _ (List.mem_singleton_self name)) acts⟩

structure Sound (earlier : List String) (c : Canvas) : Prop where
  resolved : c.Resolved
  known : ∀ id ∈ earlier, id ∈ c.declared

theorem place_sound {earlier : List String} {c : Canvas} {d : ElementDef} (sound : Sound earlier c)
    (clean : d.shape.Clean earlier) : Sound (earlier ++ d.id.toList) (place c d) := by
  have members : ∀ members, d.shape = .set members → ∀ id ∈ members, id ∈ c.declared :=
    fun members shape id member => sound.known id (clean.members members shape id member)
  have added : (place c d).declared = c.declared ++ [c.nextName d.shape.kind d.id] := by
    have block := block_declares d c.name (c.nextName d.shape.kind d.id)
    rw [declaredBy] at block
    simp [place, Canvas.extended, Canvas.declared, declaredBy, block]
  refine ⟨(resolved_append _ _ _).mpr ⟨sound.resolved, ?_⟩, ?_⟩
  · exact block_resolved List.mem_cons_self members
  · intro id member
    rw [added]
    rcases List.mem_append.mp member with before | own
    · exact List.mem_append_left _ (sound.known id before)
    · have named : d.id = some id := by simpa using own
      simp [Canvas.nextName, named]

theorem place_all_sound (defs before : List ElementDef) (c : Canvas) (sound : Sound (ids before) c)
    (clean : ∀ front d back, defs = front ++ d :: back → d.shape.Clean (ids (before ++ front))) :
    Sound (ids (before ++ defs)) (defs.foldl place c) := by
  induction defs generalizing before c with
  | nil => simpa using sound
  | cons d rest ih =>
    have every := (every_split_cons (fun front (d : ElementDef) =>
      d.shape.Clean (ids (before ++ front))) d rest).mp clean
    obtain ⟨own, later⟩ := every
    rw [List.append_nil] at own
    have next := place_sound sound own
    rw [← ids_append_one] at next
    have placed := ih (before ++ [d]) (place c d) next
      (fun front e back split => by simpa using later front e back split)
    simpa using placed

theorem drawing_resolved {s : Scene} (ok : s.Acceptable) (suffix : Nat → String) :
    (s.drawing suffix).Resolved := by
  have blank : Sound (ids []) (s.canvas.blank suffix) := by
    refine ⟨resolved_of_known ?_, ?_⟩ <;> simp [CanvasDef.blank, ids]
  exact (place_all_sound s.elements [] _ blank ok.shapes).resolved

def Generated (s : Scene) (name : String) : Prop :=
  ∃ (i : Nat) (d : ElementDef), s.elements[i]? = some d ∧ d.id = none ∧
    name = d.nameAfter toString (s.drawnBefore i)

/-- What a document has to keep, besides being acceptable, for its names to be apart. -/
structure Unambiguous (s : Scene) : Prop where
  paper : s.canvas.paper toString ∉ ids s.elements
  named : ∀ name, s.canvas.name = some name → ¬ s.Generated name
  ids : ∀ id ∈ ids s.elements, ¬ s.Generated id
  loop : s.canvas.name ≠ some loopName ∧ loopName ∉ Scene.ids s.elements

theorem generated_text {s : Scene} {name : String} (generated : s.Generated name) :
    ∃ kind n, name = "rafa_" ++ Kind.name kind ++ "_" ++ toString (n : Nat) := by
  obtain ⟨i, d, _, anonymous, rfl⟩ := generated
  exact ⟨d.shape.kind, s.drawnBefore i + 1, by simp [ElementDef.nameAfter, anonymous]⟩

theorem loop_not_generated (s : Scene) : ¬ s.Generated loopName := by
  intro generated
  obtain ⟨kind, n, same⟩ := generated_text generated
  have chars := congrArg String.toList same
  simp only [String.toList_append, List.append_assoc] at chars
  change "rafa_".toList ++ "loop".toList = _ at chars
  have tails : "loop".toList = kind.name.toList ++ '_' :: (toString n).toList :=
    List.append_cancel_left chars
  have absent : '_' ∉ "loop".toList := by decide
  exact absent (tails ▸ List.mem_append_right _ List.mem_cons_self)

theorem unnamed_paper {d : CanvasDef} (anonymous : d.name = none) :
    d.paper toString = "_raphael_canvas_1" := by
  rw [CanvasDef.paper, anonymous]
  rfl

theorem paper_not_generated (s : Scene) : ¬ s.Generated "_raphael_canvas_1" := by
  intro generated
  obtain ⟨kind, n, same⟩ := generated_text generated
  have heads := congrArg (fun name => name.toList.head?) same
  simp [String.toList_append] at heads

theorem element_name_iff (s : Scene) (name : String) :
    name ∈ s.elementNames toString ↔ name ∈ ids s.elements ∨ s.Generated name := by
  rw [elementNames, List.mem_mapIdx, ids_member_iff]
  constructor
  · rintro ⟨i, inside, rfl⟩
    cases named : s.elements[i].id with
    | none => exact Or.inr ⟨i, _, List.getElem?_eq_getElem inside, named, rfl⟩
    | some id =>
      refine Or.inl ⟨_, List.getElem_mem inside, ?_⟩
      simp [ElementDef.nameAfter, named]
  · rintro (⟨d, member, named⟩ | ⟨i, d, found, _, rfl⟩)
    · obtain ⟨i, inside, rfl⟩ := List.getElem_of_mem member
      exact ⟨i, inside, by simp [ElementDef.nameAfter, named]⟩
    · obtain ⟨inside, rfl⟩ := List.getElem?_eq_some_iff.mp found
      exact ⟨i, inside, rfl⟩

theorem drawn_increases (s : Scene) {i j : Nat} (inside : i < s.elements.length) (order : i < j)
    (anonymous : s.elements[i].id = none) : s.drawnBefore i < s.drawnBefore j := by
  have through : unnamed (s.elements.take (i + 1)) = unnamed (s.elements.take i) + 1 := by
    rw [unnamed, List.take_add_one, List.countP_append, List.getElem?_eq_getElem inside, unnamed]
    simp [anonymous]
  have onwards : unnamed (s.elements.take (i + 1)) ≤ unnamed (s.elements.take j) :=
    (List.take_sublist_take_left order).countP_le
  unfold drawnBefore
  omega

theorem generated_apart {s : Scene} (apart : (s.elementNames toString).Nodup) {id : String}
    (member : id ∈ ids s.elements) : ¬ s.Generated id := by
  intro generated
  obtain ⟨i, d, found, anonymous, same⟩ := generated
  obtain ⟨e, inside, named⟩ := (ids_member_iff id s.elements).mp member
  obtain ⟨j, bound, rfl⟩ := List.getElem_of_mem inside
  have at_id : (s.elementNames toString)[j]? = some id := by
    simp [elementNames, List.getElem?_eq_getElem bound, ElementDef.nameAfter, named]
  have at_generated : (s.elementNames toString)[i]? = some id := by
    simp [elementNames, found, same]
  have within : j < (s.elementNames toString).length := by simpa [elementNames] using bound
  have place : j = i := (List.getElem?_inj within apart).mp (at_id.trans at_generated.symm)
  rw [place.symm, List.getElem?_eq_getElem bound, Option.some.injEq] at found
  rw [found, anonymous] at named
  contradiction

theorem same_name_cases {d e : ElementDef} {n m : Nat}
    (same : d.nameAfter toString n = e.nameAfter toString m) :
    (∃ id, d.id = some id ∧ e.id = some id) ∨ (d.id = none ∧ e.id = none ∧ n = m) ∨
      d.id = some (e.nameAfter toString m) ∧ e.id = none ∨
      d.id = none ∧ e.id = some (d.nameAfter toString n) := by
  cases own : d.id with
  | some id =>
    cases other : e.id with
    | some id' =>
      simp only [ElementDef.nameAfter, own, other] at same
      exact Or.inl ⟨id, rfl, congrArg some same.symm⟩
    | none =>
      simp only [ElementDef.nameAfter, own] at same
      exact Or.inr (Or.inr (Or.inl ⟨congrArg some same, rfl⟩))
  | none =>
    cases other : e.id with
    | some id =>
      simp only [ElementDef.nameAfter, other] at same
      exact Or.inr (Or.inr (Or.inr ⟨rfl, congrArg some same.symm⟩))
    | none =>
      simp only [ElementDef.nameAfter, own, other] at same
      have numbers := number_text_injective (generated_injective same).2
      exact Or.inr (Or.inl ⟨rfl, rfl, by omega⟩)

theorem element_names_nodup {s : Scene} (distinct : (ids s.elements).Nodup)
    (apart : ∀ id ∈ ids s.elements, ¬ s.Generated id) : (s.elementNames toString).Nodup := by
  have earlier := (ids_nodup_iff [] s.elements List.nodup_nil).mp distinct
  rw [List.nodup_iff_pairwise_ne, List.pairwise_iff_getElem]
  intro i j first second order same
  simp only [elementNames, List.length_mapIdx] at first second
  simp only [elementNames, List.getElem_mapIdx] at same
  rcases same_name_cases same with
    ⟨id, own, other⟩ | ⟨own, _, numbers⟩ | ⟨own, other⟩ | ⟨own, other⟩
  · have before : s.elements[i] ∈ s.elements.take j :=
      List.mem_take_iff_getElem.mpr ⟨i, by omega, rfl⟩
    have split : s.elements = s.elements.take j ++ s.elements[j] :: s.elements.drop (j + 1) := by
      rw [List.getElem_cons_drop, List.take_append_drop]
    exact earlier _ _ _ split id other ((ids_member_iff _ _).mpr ⟨_, before, own⟩)
  · have increases := drawn_increases s first order own
    omega
  · have member := (ids_member_iff _ _).mpr ⟨_, List.getElem_mem first, own⟩
    exact apart _ member ⟨j, _, List.getElem?_eq_getElem second, other, rfl⟩
  · have member := (ids_member_iff _ _).mpr ⟨_, List.getElem_mem second, other⟩
    exact apart _ member ⟨i, _, List.getElem?_eq_getElem first, own, rfl⟩

theorem element_names_nodup_iff (s : Scene) (distinct : (ids s.elements).Nodup) :
    (s.elementNames toString).Nodup ↔ ∀ id ∈ ids s.elements, ¬ s.Generated id :=
  ⟨fun apart _ member => generated_apart apart member, element_names_nodup distinct⟩

/-- A rendered script uses no variable before its declaration. Its variables are apart, from each
    other and from the loop function, exactly when the ids and the name of the paper are. -/
theorem rendered_variables (s : Scene) (ambient : Ambient) (c : Canvas)
    (rendered : s.render (Uid.Strategy.sequential.suffix ambient) = .ok c) :
    c.Resolved ∧ (c.declared.Nodup ∧ loopName ∉ c.declared ↔ s.Unambiguous) := by
  rw [sequential_suffix, render_checked, checked_ok_iff] at rendered
  obtain ⟨clean, rfl⟩ := rendered
  have ok : s.Acceptable := (faults_empty_iff s).mp clean
  refine ⟨drawing_resolved ok toString, ?_⟩
  rw [drawing_declares, List.nodup_cons, element_names_nodup_iff s ok.distinct,
    element_name_iff, List.mem_cons, element_name_iff, not_or, not_or, not_or]
  constructor
  · rintro ⟨⟨⟨paper, named⟩, apart⟩, loop, loop_id, _⟩
    refine ⟨paper, fun name given => ?_, apart, fun given => ?_, loop_id⟩
    · simpa [CanvasDef.paper, given] using named
    · simp [CanvasDef.paper, given] at loop
  · intro apart
    refine ⟨⟨⟨apart.paper, ?_⟩, apart.ids⟩, ?_, apart.loop.2, loop_not_generated s⟩
    · cases given : s.canvas.name with
      | none => exact unnamed_paper given ▸ paper_not_generated s
      | some name => simpa [CanvasDef.paper, given] using apart.named name given
    · cases given : s.canvas.name with
      | none =>
        rw [unnamed_paper given]
        decide
      | some name =>
        have other := apart.loop.1
        simp only [given, ne_eq, Option.some.injEq] at other
        simpa [CanvasDef.paper, given] using Ne.symm other

theorem rendered_variables_of_circles :
    let s : Scene := ⟨⟨some "holder", 0, 0, 9, 9, some "paper"⟩,
      [⟨.circle 0 0 1, some "rafa_circle_2", [], [], none⟩, ⟨.circle 1 1 1, none, [], [], none⟩,
        ⟨.set ["rafa_circle_2"], none, [], [], none⟩]⟩
    ∃ c, s.render (Uid.Strategy.sequential.suffix ⟨fun _ => 0, fun _ => 0, fun _ => 0⟩) = .ok c ∧
      c.Resolved ∧ s.Unambiguous ∧
      c.declared = ["paper", "rafa_circle_2", "rafa_circle_1", "rafa_set_2"] := by
  intro s
  have clean : s.faults = [] := by decide
  have rendered := render_clean clean
    (Uid.Strategy.sequential.suffix ⟨fun _ => 0, fun _ => 0, fun _ => 0⟩)
  have names : (s.drawing toString).declared =
      ["paper", "rafa_circle_2", "rafa_circle_1", "rafa_set_2"] := by
    rw [drawing_declares]
    decide
  obtain ⟨resolved, apart⟩ := rendered_variables s _ _ rendered
  refine ⟨_, rendered, resolved, apart.mp ?_, names⟩
  rw [sequential_suffix, names]
  decide

theorem generated_name_taken :
    let s : Scene := ⟨⟨some "holder", 0, 0, 9, 9, none⟩,
      [⟨.circle 0 0 1, some "rafa_circle_2", [], [], none⟩, ⟨.circle 1 1 1, none, [], [], none⟩]⟩
    ∃ c, s.render (Uid.Strategy.sequential.suffix ⟨fun _ => 0, fun _ => 0, fun _ => 0⟩) = .ok c ∧
      c.declared = ["_raphael_canvas_1", "rafa_circle_2", "rafa_circle_2"] ∧
      ¬ c.declared.Nodup := by
  intro s
  have clean : s.faults = [] := by decide
  have rendered := render_clean clean
    (Uid.Strategy.sequential.suffix ⟨fun _ => 0, fun _ => 0, fun _ => 0⟩)
  have names : (s.drawing toString).declared =
      ["_raphael_canvas_1", "rafa_circle_2", "rafa_circle_2"] := by
    rw [drawing_declares]
    decide
  refine ⟨_, rendered, names, ?_⟩
  rw [sequential_suffix, names]
  decide

end Scene

end SceneScript
