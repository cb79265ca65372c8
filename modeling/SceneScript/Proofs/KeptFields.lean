import SceneScript.Proofs.Places

/- Elements and path commands keep fields before they look at their names, as data that shapes and
   commands are made of. So a field that they do not know still has to be data. -/
namespace SceneScript.Scene.FromJson
open Json (Tree)

namespace Place

def legible (p : Place) (levels : Nat) (f : String × Tree) : Bool :=
  !p.keeps f.1 || (datum? levels f.2).isSome

theorem Agree.kept {p : Place} {name : String} {t u : Tree} (keeps : p.keeps name = true)
    (agree : (p.field name).Agree t u) (levels : Nat) :
    (datum? levels t).isSome = (datum? levels u).isSome := by
  unfold field at agree
  split at agree
  case h_5 =>
    have read : ((datum? levels t).map ShapeDef.commands?).isSome =
        ((datum? levels u).map ShapeDef.commands?).isSome :=
      congrArg Option.isSome (agree.read levels)
    rwa [Option.isSome_map, Option.isSome_map] at read
  case h_8 => rw [agree.eq]
  all_goals cases keeps

/-- Fields out of entries that agree with others, also on what can be kept. -/
structure Similar (p : Place) (entries : List (Option String × Tree))
    (fields others : Fields Tree) : Prop where
  given : ∀ f ∈ fields, (some f.1, f.2) ∈ entries
  same : p.SameFields (p.names entries) fields others
  legible : ∀ levels, fields.all (p.legible levels) = others.all (p.legible levels)

end Place

def kept (levels : Nat) (fields : Fields Tree) : Option (Fields Datum) :=
  fields.mapM fun (key, t) => do return (key, ← datum? levels t)

theorem fields?_cons (key : String) (t : Tree) (entries : List (Option String × Tree)) :
    fields? ((some key, t) :: entries) = (fields? entries).map ((key, t) :: ·) := by
  simp only [fields?, List.mapM_cons]
  cases entries.mapM (m := Option) fun e => e.1.map (·, e.2) <;> rfl

theorem kept_cons (levels : Nat) (key : String) (t : Tree) (fields : Fields Tree) :
    kept levels ((key, t) :: fields) =
      (datum? levels t).bind fun d => (kept levels fields).map ((key, d) :: ·) := by
  simp only [kept, List.mapM_cons]
  cases datum? levels t with
  | none => rfl
  | some d => cases fields.mapM (m := Option) _ <;> rfl

theorem entries?_eq (levels : Nat) (entries : List (Option String × Tree)) :
    entries? levels entries =
      (fields? entries).bind fun fields => (kept levels fields).map PathCommand.keyed := by
  induction entries with
  | nil => rfl
  | cons e entries ih =>
    obtain ⟨key, t⟩ := e
    cases key with
    | none => rfl
    | some key =>
      rw [fields?_cons]
      simp only [entries?, ih]
      cases fields? entries with
      | none => cases datum? levels t <;> rfl
      | some fields =>
        simp only [Option.map_some, Option.bind_some, kept_cons]
        cases datum? levels t with
        | none => rfl
        | some d => cases kept levels fields <;> rfl

theorem kept_isSome (levels : Nat) (fields : Fields Tree) :
    (kept levels fields).isSome = fields.all fun f => (datum? levels f.2).isSome := by
  rw [kept, mapM_isSome]
  congr 1
  funext f
  cases found : datum? levels f.2 <;> simp [found]

theorem kept_forall₂ {levels : Nat} {fields : Fields Tree} {own : Fields Datum}
    (made : kept levels fields = some own) :
    List.Forall₂ (fun f g => f.1 = g.1 ∧ datum? levels f.2 = some g.2) fields own := by
  refine (forall₂_of_mapM made).imp fun f g made => ?_
  obtain ⟨d, found, made⟩ := Option.bind_eq_some_iff.1 made
  cases made
  exact ⟨rfl, found⟩

theorem kept_alike {levels : Nat} {keep : String → Bool} {fields : Fields Tree} {own : Fields Datum}
    (made : kept levels (fields.filter fun f => keep f.1) = some own) {name : String}
    (keeps : keep name = true) :
    Fields.Alike (fun t d => datum? levels t = some d) name fields own := by
  have alike : Fields.Alike (fun t d => datum? levels t = some d) name
      (fields.filter fun f => keep f.1) own :=
    .of_forall₂ ((kept_forall₂ made).imp fun _ _ both => ⟨both.1, fun _ => both.2⟩)
  rwa [Fields.Alike, Fields.once?_filter keep keeps] at alike

namespace Place

structure Kept (p : Place) (entries : List (Option String × Tree)) (levels : Nat)
    (own others : Fields Datum) : Prop where
  given : ∀ name, p.keeps name = true → ∀ d, own.once? name = some (some d) →
    ∃ t, (some name, t) ∈ entries ∧ datum? levels t = some d
  alike : ∀ name ∈ p.names entries, p.keeps name = true →
    Fields.Alike (fun d e => ∃ t u, (p.field name).Agree t u ∧
      datum? levels t = some d ∧ datum? levels u = some e) name own others

theorem Similar.kept {p : Place} {entries : List (Option String × Tree)}
    {fields others : Fields Tree} (similar : p.Similar entries fields others) (levels : Nat) :
    Option.Rel (p.Kept entries levels) (kept levels (fields.filter fun f => p.keeps f.1))
      (kept levels (others.filter fun f => p.keeps f.1)) := by
  have both := similar.legible levels
  have all : ∀ fields : Fields Tree,
      (FromJson.kept levels (fields.filter fun f => p.keeps f.1)).isSome =
        fields.all (p.legible levels) := by
    intro fields
    rw [kept_isSome, List.all_filter]
    rfl
  rw [← all fields, ← all others] at both
  cases first : FromJson.kept levels (fields.filter fun f => p.keeps f.1) with
  | none =>
    rw [first] at both
    rw [Option.isNone_iff_eq_none.1 (Option.isSome_eq_false_iff.1 both.symm)]
    exact .none
  | some own =>
    rw [first] at both
    obtain ⟨more, second⟩ := Option.isSome_iff_exists.1 both.symm
    rw [second]
    refine .some ⟨fun name keeps d found => ?_, fun name known keeps => ?_⟩
    · obtain ⟨t, found, made⟩ := (kept_alike first keeps).given found
      exact ⟨t, similar.given _ (Fields.once?_eq_some found), made⟩
    · exact (similar.same name known).remade (kept_alike first keeps) (kept_alike second keeps)
        fun t u d e agree made remade => ⟨t, u, agree, made, remade⟩

theorem Kept.plain {p : Place} {entries : List (Option String × Tree)} {levels : Nat}
    {own others : Fields Datum} (kept : p.Kept entries levels own others) {name : String}
    (known : name ∈ p.names entries) (keeps : p.keeps name = true) (plain : p.field name = value) :
    own.once? name = others.once? name := by
  have alike := kept.alike name known keeps
  rw [plain] at alike
  refine (alike.mono ?_).eq
  rintro d e ⟨t, u, agree, made, remade⟩
  rw [agree.eq, remade] at made
  exact (Option.some.inj made).symm

theorem tag_scalar {levels : Nat} {t : Tree} {d : Datum} {words : List String} {word : String}
    (made : datum? levels t = some d) (chosen : choice? words d = some word) :
    datum? 0 t = some d := by
  cases t with
  | list items =>
    cases levels with
    | zero => exact made
    | succ levels =>
      obtain ⟨_, -, rfl⟩ := Option.map_eq_some_iff.1 made
      cases chosen
  | object entries =>
    cases levels with
    | zero => exact made
    | succ levels =>
      obtain ⟨_, -, rfl⟩ := Option.map_eq_some_iff.1 made
      cases chosen
  | _ => rwa [scalar_levels rfl] at made

theorem Kept.tag {p : Place} {entries : List (Option String × Tree)} {levels : Nat}
    {own others : Fields Datum} (kept : p.Kept entries levels own others) {key : String}
    (keeps : p.keeps key = true) {words : List String} {word : String}
    (tagged : Scene.need own key (choice? words) = some word) :
    word ∈ words ∧ word ∈ tags key words entries := by
  obtain ⟨given, once, chosen⟩ := Option.bind_eq_some_iff.1 tagged
  obtain ⟨d, rfl, chosen⟩ := Option.bind_eq_some_iff.1 chosen
  obtain ⟨t, inside, made⟩ := kept.given key keeps d once
  refine ⟨choice?_mem chosen, List.mem_filterMap.2 ⟨_, inside, ?_⟩⟩
  simp only [if_true, tag_scalar made chosen]
  exact chosen

theorem shape_fields : ∀ kind ∈ ShapeDef.kinds, ∀ name ∈ ShapeDef.fieldNames kind,
    element.keeps name = true ∧
      element.field name = if name = "commands" then commands else value := by
  decide

theorem shape_read {entries : List (Option String × Tree)} {levels : Nat}
    {own others : Fields Datum} (kept : element.Kept entries levels own others) :
    ShapeDef.ofFields? own = ShapeDef.ofFields? others := by
  have known : "kind" ∈ element.names entries := by simp [names]
  refine ShapeDef.ofFields?_alike (kept.plain known (by decide) (by decide)) ?_
  intro kind tagged name inside
  obtain ⟨isKind, tagged⟩ := kept.tag (by decide) tagged
  have known : name ∈ element.names entries :=
    List.mem_append_right _ (List.mem_cons_of_mem _ (List.mem_flatMap.2 ⟨kind, tagged, inside⟩))
  obtain ⟨keeps, place⟩ := shape_fields kind isKind name inside
  refine (kept.alike name known keeps).mono ?_
  rw [place]
  rintro d e ⟨t, u, agree, made, remade⟩
  unfold ShapeDef.SameValue
  split at agree
  · next commands =>
    have read : (datum? levels t).map ShapeDef.commands? =
        (datum? levels u).map ShapeDef.commands? :=
      agree.read levels
    rw [made, remade] at read
    rw [if_pos commands]
    exact Option.some.inj read
  · next other =>
    rw [agree.eq, remade] at made
    rw [if_neg other]
    exact (Option.some.inj made).symm

theorem element_read {entries more : List (Option String × Tree)}
    (similar : Option.Rel (element.Similar entries) (fields? entries) (fields? more))
    (levels : Nat) :
    reader.element levels (.object entries) = reader.element levels (.object more) := by
  cases levels with
  | zero => rfl
  | succ levels =>
    refine bind_of_rel similar fun fields others similar => ?_
    refine bind_of_rel (similar.kept levels) fun own more kept => ?_
    have common : ∀ name ∈ Reader.commonFields, name ∈ element.names entries :=
      fun name known => List.mem_append_left _ known
    have once : ∀ name ∈ ["id", "attrs"], fields.once? name = others.once? name := by
      intro name inside
      have known : name ∈ Reader.commonFields ∧ element.field name = value := by
        revert name
        decide
      exact similar.same.plain (common name known.1) known.2
    have transforms : Reader.orElse fields "transforms" [] (reader.transforms levels) =
        Reader.orElse others "transforms" [] (reader.transforms levels) :=
      similar.same.orElse "transforms" (common _ (by decide)) [] levels
    have animation : reader.maybe fields "animation" (reader.animation levels) =
        reader.maybe others "animation" (reader.animation levels) :=
      similar.same.maybe "animation" (common _ (by decide)) levels
    simp only [List.forall_mem_cons] at once
    rw [shape_read kept]
    cases ShapeDef.ofFields? more with
    | none => rfl
    | some shape =>
      simp only [Nat.add_sub_cancel, transforms, animation]
      simp only [Reader.maybe, Reader.orElse, Reader.once_eq, once]

theorem command_read {entries more : List (Option String × Tree)}
    (similar : Option.Rel (command.Similar entries) (fields? entries) (fields? more))
    (levels : Nat) :
    command.read levels (.object entries) = command.read levels (.object more) := by
  cases levels with
  | zero => rfl
  | succ levels =>
    have step : ∀ entries, command.read (levels + 1) (.object entries) =
        (fields? entries).bind fun fields => (FromJson.kept levels fields).bind fun own =>
          some (PathCommand.ofDatum? (.record (PathCommand.keyed own))) := by
      intro entries
      simp only [Place.read, datum?, entries?_eq]
      cases fields? entries with
      | none => rfl
      | some fields =>
        simp only [Option.bind_some]
        cases FromJson.kept levels fields <;> rfl
    rw [step, step]
    refine bind_of_rel similar fun fields others similar => ?_
    -- Commands keep all their fields, so that nothing is filtered out.
    have all : ∀ fields : Fields Tree, (fields.filter fun f => command.keeps f.1) = fields :=
      fun fields => List.filter_true fields
    have rel := similar.kept levels
    rw [all, all] at rel
    refine bind_of_rel rel fun own more kept => ?_
    rw [PathCommand.ofDatum?_keyed, PathCommand.ofDatum?_keyed]
    have tag : own.once? "op" = more.once? "op" := kept.plain (by simp [names]) rfl rfl
    have op_same : Scene.need own "op" (choice? PathCommand.ops) =
        Scene.need more "op" (choice? PathCommand.ops) := by
      simp only [Scene.need, tag]
    rw [← op_same]
    cases found : Scene.need own "op" (choice? PathCommand.ops) with
    | none => rfl
    | some op =>
      have tagged := (kept.tag rfl found).2
      refine congrArg some (PathCommand.ofFields?_congr fun name inside => kept.plain ?_ rfl rfl)
      exact List.mem_cons_of_mem _ (List.mem_flatMap.2 ⟨op, tagged, inside⟩)

theorem Similar.record {p : Place} {entries more : List (Option String × Tree)}
    (similar : Option.Rel (p.Similar entries) (fields? entries) (fields? more))
    (untagged : p.names entries = p.names []) :
    p.SameRecord (.object entries) (.object more) := by
  intro levels
  cases levels with
  | zero => exact .none
  | succ levels => exact rel_mono similar fun _ _ similar => untagged ▸ similar.same

theorem record_agree {p : Place} (isRecord : p.isRecord = true)
    {entries more : List (Option String × Tree)}
    (similar : Option.Rel (p.Similar entries) (fields? entries) (fields? more)) :
    p.Agree (.object entries) (.object more) := by
  refine ⟨by simp, ?_⟩
  cases p with
  | scene => exact scene_read (Similar.record similar rfl)
  | canvas => exact canvas_read (Similar.record similar rfl)
  | element => exact element_read similar
  | body name => exact body_read (Similar.record similar rfl)
  | animation => exact animation_read (Similar.record similar rfl)
  | command => exact command_read similar
  | _ => cases isRecord

end Place

end SceneScript.Scene.FromJson
