import Mathlib.Data.List.Forall2
import Mathlib.Logic.Relation
import SceneScript.Proofs.KeptFields
import SceneScript.Scene.Format

/- The fields of records come in any order, and records take fields that they do not know. -/
namespace SceneScript.Scene
open Json (Tree)

namespace FromJson

namespace Place

def named (entries : List (Option String × Tree)) : Fields Tree :=
  entries.filterMap fun e => e.1.map (·, e.2)

theorem fields?_eq (entries : List (Option String × Tree)) :
    fields? entries = if entries.all (fun e => e.1.isSome) then some (named entries) else none := by
  rw [fields?, mapM_eq_filterMap]
  simp only [Option.isSome_map]
  rfl

theorem similar_of_named {p : Place} {entries more : List (Option String × Tree)}
    (keys : entries.all (fun e => e.1.isSome) = more.all fun e => e.1.isSome)
    (same : p.SameFields (p.names entries) (named entries) (named more))
    (legible : ∀ levels,
      (named entries).all (p.legible levels) = (named more).all (p.legible levels)) :
    Option.Rel (p.Similar entries) (fields? entries) (fields? more) := by
  rw [fields?_eq, fields?_eq, keys]
  split
  · refine .some ⟨fun f inside => ?_, same, legible⟩
    obtain ⟨⟨key, t⟩, entry, made⟩ := List.mem_filterMap.1 inside
    obtain ⟨name, given, rfl⟩ := Option.map_eq_some_iff.1 made
    cases given
    exact entry
  · exact .none

theorem SameFields.of_forall₂ {p : Place} {names : List String} {fields others : Fields Tree}
    (same : List.Forall₂ (fun f g => f.1 = g.1 ∧ (p.field f.1).Agree f.2 g.2) fields others) :
    p.SameFields names fields others :=
  fun _ _ => .of_forall₂ (same.imp fun _ _ both => ⟨both.1, fun own => own ▸ both.2⟩)

theorem forall₂_refl (p : Place) (fields : Fields Tree) :
    List.Forall₂ (fun f g => f.1 = g.1 ∧ (p.field f.1).Agree f.2 g.2) fields fields :=
  List.forall₂_same.2 fun f _ => ⟨rfl, .refl _ f.2⟩

theorem permuted_similar (p : Place) {entries more : List (Option String × Tree)}
    (perm : entries.Perm more) :
    Option.Rel (p.Similar entries) (fields? entries) (fields? more) := by
  have named_perm : (named entries).Perm (named more) := perm.filterMap _
  exact similar_of_named perm.all_eq
    (fun _ _ => .of_eq (.refl _) (Fields.once?_perm named_perm)) fun _ => named_perm.all_eq

theorem replaced_similar {p : Place} {key : String} {t u : Tree} (agree : (p.field key).Agree t u)
    (before after : List (Option String × Tree)) :
    Option.Rel (p.Similar (before ++ (some key, t) :: after))
      (fields? (before ++ (some key, t) :: after))
      (fields? (before ++ (some key, u) :: after)) := by
  have split : ∀ t, named (before ++ (some key, t) :: after) =
      named before ++ (key, t) :: named after := by
    intro t
    rw [named, List.filterMap_append]
    rfl
  refine similar_of_named ?_ ?_ fun levels => ?_
  · simp only [List.all_append, List.all_cons]
  · rw [split, split]
    exact .of_forall₂ (List.rel_append (forall₂_refl p _) (.cons ⟨rfl, agree⟩ (forall₂_refl p _)))
  · rw [split, split]
    have kept : p.legible levels (key, t) = p.legible levels (key, u) := by
      unfold legible
      cases keeps : p.keeps key with
      | false => rfl
      | true => rw [agree.kept keeps]
    simp only [List.all_append, List.all_cons, kept]

theorem added_similar {p : Place} {name : String} {t : Tree} (scalar : isScalar t = true)
    (readable : p.keeps name = true → (datum? 0 t).isSome = true)
    {entries : List (Option String × Tree)} (other : name ∉ p.names entries) :
    Option.Rel (p.Similar entries) (fields? entries) (fields? ((some name, t) :: entries)) := by
  have more : named ((some name, t) :: entries) = (name, t) :: named entries := rfl
  refine similar_of_named ?_ ?_ fun levels => ?_
  · simp only [List.all_cons, Option.isSome_some, Bool.true_and]
  · rw [more]
    refine fun key known => .of_eq (.refl _) (Fields.once?_cons ?_ t _).symm
    exact fun same => other (same ▸ known)
  · have kept : p.legible levels (name, t) = true := by
      unfold legible
      cases keeps : p.keeps name with
      | false => rfl
      | true => rw [scalar_levels scalar, readable keeps]; rfl
    rw [more, List.all_cons, kept, Bool.true_and]

theorem zip_forall₂ {p : Place} {t u : Tree} (after : List Tree) :
    ∀ (names : List String) (before : List Tree),
      (p.field (names[before.length]?.getD "")).Agree t u →
      List.Forall₂ (fun f g => f.1 = g.1 ∧ (p.field f.1).Agree f.2 g.2)
        (names.zip (before ++ t :: after)) (names.zip (before ++ u :: after))
  | [], _, _ => .nil
  | name :: names, [], agree => .cons ⟨rfl, agree⟩ (forall₂_refl p _)
  | name :: names, v :: before, agree =>
    .cons ⟨rfl, .refl _ v⟩ (zip_forall₂ after names before (by simpa using agree))

theorem listed_record {p : Place} {before : List Tree} {t u : Tree}
    (agree : (p.field ((p.names [])[before.length]?.getD "")).Agree t u) (after : List Tree) :
    p.SameRecord (.list (before ++ t :: after)) (.list (before ++ u :: after)) := by
  intro levels
  cases levels with
  | zero => exact .none
  | succ levels =>
    simp only [record?, List.length_append, List.length_cons]
    split
    · exact .none
    · exact .some (.of_forall₂ (zip_forall₂ after _ before agree))

theorem items?_eq (levels : Nat) (items : List Tree) :
    items? levels items = items.mapM (datum? levels) := by
  induction items with
  | nil => rfl
  | cons t items ih => simp only [items?, ih, List.mapM_cons]; rfl

theorem commands_read {t u : Tree} (agree : command.Agree t u) (before after : List Tree)
    (levels : Nat) :
    commands.read levels (.list (before ++ t :: after)) =
      commands.read levels (.list (before ++ u :: after)) := by
  cases levels with
  | zero => rfl
  | succ levels =>
    -- The commands depend on an item by the command that it gives alone.
    have listed : ∀ v, commands.read (levels + 1) (.list (before ++ v :: after)) =
        (before.mapM (datum? levels)).bind fun front =>
          ((datum? levels v).map PathCommand.ofDatum?).bind fun made =>
            (after.mapM (datum? levels)).bind fun back =>
              some ((front.mapM PathCommand.ofDatum?).bind fun first => made.bind fun c =>
                (back.mapM PathCommand.ofDatum?).bind fun last => some (first ++ c :: last)) := by
      intro v
      simp only [Place.read, datum?, items?_eq, List.mapM_append, List.mapM_cons]
      cases before.mapM (datum? levels) with
      | none => rfl
      | some front =>
        cases datum? levels v with
        | none => rfl
        | some d =>
          cases after.mapM (datum? levels) with
          | none => rfl
          | some back =>
            refine congrArg some (?_ : (front ++ d :: back).mapM PathCommand.ofDatum? = _)
            rw [List.mapM_append, List.mapM_cons]
            cases front.mapM PathCommand.ofDatum? with
            | none => rfl
            | some first =>
              cases PathCommand.ofDatum? d with
              | none => rfl
              | some c => cases back.mapM PathCommand.ofDatum? <;> rfl
    have read : (datum? levels t).map PathCommand.ofDatum? =
        (datum? levels u).map PathCommand.ofDatum? :=
      agree.read levels
    rw [listed, listed, read]

theorem variant?_eq_none {levels : Nat} {entries : List (Option String × Tree)}
    (several : entries.length ≠ 1) : variant? levels (.object entries) = none := by
  unfold variant?
  split
  · contradiction
  · next same => cases same; exact absurd rfl several
  · rfl

theorem transform_read {key : String} {t u : Tree} (agree : (body key).Agree t u)
    (before after : List (Option String × Tree)) (levels : Nat) :
    transform.read levels (.object (before ++ (some key, t) :: after)) =
      transform.read levels (.object (before ++ (some key, u) :: after)) := by
  by_cases alone : before.length + after.length = 0
  · cases List.eq_nil_of_length_eq_zero (Nat.eq_zero_of_add_eq_zero_right alone)
    cases List.eq_nil_of_length_eq_zero (Nat.eq_zero_of_add_eq_zero_left alone)
    cases levels with
    | zero => rfl
    | succ levels => exact agree.read levels
  · have refused (v : Tree) :
        transform.read levels (.object (before ++ (some key, v) :: after)) = none := by
      have several : variant? levels (.object (before ++ (some key, v) :: after)) = none :=
        variant?_eq_none (by simp only [List.length_append, List.length_cons]; omega)
      exact congrArg (Option.bind · _) several
    rw [refused, refused]

theorem item_agree {p : Place} {before : List Tree} {t u : Tree}
    (agree : (p.item before.length).Agree t u) (after : List Tree) :
    p.Agree (.list (before ++ t :: after)) (.list (before ++ u :: after)) := by
  refine ⟨by simp, fun levels => ?_⟩
  cases p with
  | scene => exact scene_read (listed_record agree after) levels
  | animation => exact animation_read (listed_record agree after) levels
  | elements =>
    cases levels with
    | zero => rfl
    | succ levels => exact mapM_replaced (agree.read levels) before after
  | transforms =>
    cases levels with
    | zero => rfl
    | succ levels => exact mapM_replaced (agree.read levels) before after
  | commands => exact commands_read agree before after levels
  | element => cases levels <;> rfl
  | transform => cases levels <;> rfl
  | _ => rw [agree.eq]

theorem field_agree {p : Place} {key : String} {t u : Tree} (agree : (p.field key).Agree t u)
    (before after : List (Option String × Tree)) :
    p.Agree (.object (before ++ (some key, t) :: after))
      (.object (before ++ (some key, u) :: after)) := by
  cases isRecord : p.isRecord with
  | true => exact record_agree isRecord (replaced_similar agree before after)
  | false =>
    cases p with
    | transform => exact ⟨by simp, transform_read agree before after⟩
    | scene | canvas | element | body | animation | command => cases isRecord
    | _ => rw [agree.eq]; exact .refl _ _

end Place

/-- One change to a document: the fields of a record in another order, or a field more that `Fit`
    admits and the record does not know, where it is or further down. -/
inductive Rearranged (Fit : Place → Option String → Tree → Prop) : Place → Tree → Tree → Prop
  | permuted {p : Place} {entries more : List (Option String × Tree)} :
      p.isRecord = true → entries.Perm more → Rearranged Fit p (.object entries) (.object more)
  | added {p : Place} {entries : List (Option String × Tree)} {key : Option String} {t : Tree} :
      p.isRecord = true → isScalar t = true → key ∉ (p.names entries).map some → Fit p key t →
      Rearranged Fit p (.object entries) (.object ((key, t) :: entries))
  | field {p : Place} {before after : List (Option String × Tree)} {key : String} {t u : Tree} :
      Rearranged Fit (p.field key) t u →
      Rearranged Fit p (.object (before ++ (some key, t) :: after))
        (.object (before ++ (some key, u) :: after))
  | item {p : Place} {before after : List Tree} {t u : Tree} :
      Rearranged Fit (p.item before.length) t u →
      Rearranged Fit p (.list (before ++ t :: after)) (.list (before ++ u :: after))

/-- A field whose name is a text, and whose value can be read where it is kept. -/
def Readable (p : Place) (key : Option String) (t : Tree) : Prop :=
  ∃ name, key = some name ∧ (p.keeps name = true → (datum? 0 t).isSome = true)

theorem Rearranged.agree {p : Place} {t u : Tree} (change : Rearranged Readable p t u) :
    p.Agree t u := by
  -- From the record that changed upwards: a value or an item that agrees makes what holds it agree.
  induction change with
  | permuted isRecord perm => exact Place.record_agree isRecord (Place.permuted_similar _ perm)
  | added isRecord scalar other fit =>
    obtain ⟨name, rfl, readable⟩ := fit
    refine Place.record_agree isRecord (Place.added_similar scalar readable ?_)
    exact fun known => other (List.mem_map_of_mem known)
  | field _ ih => exact Place.field_agree ih _ _
  | item _ ih => exact Place.item_agree ih _

theorem scene_rearranged {t u : Tree}
    (changes : Relation.EqvGen (Rearranged Readable .scene) t u) (levels : Nat) :
    reader.scene levels t = reader.scene levels u := by
  induction changes with
  | rel t u change => exact change.agree.read levels
  | refl => rfl
  | symm _ _ _ ih => exact ih.symm
  | trans _ _ _ _ _ first second => exact first.trans second

end FromJson

/-- Documents that differ in the order of fields, and in readable scalar fields that the records do
    not know, both fail or give the same scene. -/
theorem ofText_rearranged {text other : String} {t u : Tree} (reads : Tree.ofText? text = some t)
    (others : Tree.ofText? other = some u)
    (changes : Relation.EqvGen (FromJson.Rearranged FromJson.Readable .scene) t u) :
    ofText .json text = ofText .json other := by
  simp only [ofText, FromJson.scene?, reads, others, Option.bind_eq_bind, Option.bind_some,
    FromJson.scene_rearranged changes]

section Documents

def oneElement (fields : List (Option String × Tree)) : Tree :=
  .object [
    (some "canvas", .object [(some "width", .number ['9']), (some "height", .number ['9'])]),
    (some "elements", .list [.object fields])]

theorem FromJson.Rearranged.inside {Fit : Place → Option String → Tree → Prop}
    {fields more : List (Option String × Tree)}
    (change : Rearranged Fit .element (.object fields) (.object more)) :
    Rearranged Fit .scene (oneElement fields) (oneElement more) :=
  have item : Rearranged Fit .elements (.list [.object fields]) (.list [.object more]) :=
    @item Fit .elements [] [] _ _ change
  @field Fit .scene [_] [] "elements" _ _ item

def tagsFirst : String :=
  "\x7b\"canvas\":\x7b\"width\":9,\"height\":9\x7d,\"elements\":[\x7b\"kind\":\"path\",\"commands\":[\x7b\"op\":\"move_to\",\"x\":1,\"y\":2\x7d]\x7d]\x7d"

/-- Paths have no field `r`. -/
def tagsLast : String :=
  "\x7b\"canvas\":\x7b\"width\":9,\"height\":9\x7d,\"elements\":[\x7b\"r\":7,\"commands\":[\x7b\"x\":1,\"y\":2,\"op\":\"move_to\"\x7d],\"kind\":\"path\"\x7d]\x7d"

theorem tags_last_read_alike :
    ∃ t u, Tree.ofText? tagsFirst = some t ∧ Tree.ofText? tagsLast = some u ∧
      Relation.EqvGen (FromJson.Rearranged FromJson.Readable .scene) t u ∧
      ∃ s, ofText .json tagsFirst = .ok s ∧ ofText .json tagsLast = .ok s := by
  let op : Option String × Tree := (some "op", .text (some "move_to"))
  let x : Option String × Tree := (some "x", .number ['1'])
  let y : Option String × Tree := (some "y", .number ['2'])
  let kind : Option String × Tree := (some "kind", .text (some "path"))
  let drawn (fields : List (Option String × Tree)) : Option String × Tree :=
    (some "commands", .list [.object fields])
  have command : FromJson.Rearranged FromJson.Readable .command (.object [op, x, y])
      (.object [x, y, op]) :=
    .permuted rfl (@List.perm_append_comm _ [op] [x, y])
  have op_last : FromJson.Rearranged FromJson.Readable .element
      (.object [kind, drawn [op, x, y]]) (.object [kind, drawn [x, y, op]]) :=
    @FromJson.Rearranged.field _ .element [kind] [] "commands" _ _
      (@FromJson.Rearranged.item _ .commands [] [] _ _ command)
  have kind_last : FromJson.Rearranged FromJson.Readable .element
      (.object [kind, drawn [x, y, op]]) (.object [drawn [x, y, op], kind]) :=
    .permuted rfl (.swap _ _ _)
  have foreign : FromJson.Rearranged FromJson.Readable .element
      (.object [drawn [x, y, op], kind])
      (.object [(some "r", .number ['7']), drawn [x, y, op], kind]) :=
    .added rfl rfl (by decide +kernel) ⟨"r", rfl, fun _ => by decide +kernel⟩
  have changes := (Relation.EqvGen.rel _ _ op_last.inside).trans _ _ _
    ((Relation.EqvGen.rel _ _ kind_last.inside).trans _ _ _ (.rel _ _ foreign.inside))
  have reads : Tree.ofText? tagsFirst = some (oneElement [kind, drawn [op, x, y]]) := by
    decide +kernel +zetaReduce
  have others : Tree.ofText? tagsLast =
      some (oneElement [(some "r", .number ['7']), drawn [x, y, op], kind]) := by
    decide +kernel +zetaReduce
  have alike := ofText_rearranged reads others changes
  obtain ⟨s, found⟩ : ∃ s, FromJson.scene? tagsFirst = some s :=
    Option.isSome_iff_exists.1 (by decide +kernel)
  have first : ofText .json tagsFirst = .ok s := by simp only [ofText, found, Option.elim_some]
  exact ⟨_, _, reads, others, changes, s, first, alike ▸ first⟩

def plainCircle : String :=
  "\x7b\"canvas\":\x7b\"width\":9,\"height\":9\x7d,\"elements\":[\x7b\"kind\":\"circle\",\"cx\":0,\"cy\":0,\"r\":1\x7d]\x7d"

/-- The note is a number that no double can hold. -/
def notedCircle : String :=
  "\x7b\"canvas\":\x7b\"width\":9,\"height\":9\x7d,\"elements\":[\x7b\"note\":1e2147483648,\"kind\":\"circle\",\"cx\":0,\"cy\":0,\"r\":1\x7d]\x7d"

/-- The name of the first field is half of a character. -/
def halfNamedCircle : String :=
  "\x7b\"canvas\":\x7b\"width\":9,\"height\":9\x7d,\"elements\":[\x7b\"\\ud800\":0,\"kind\":\"circle\",\"cx\":0,\"cy\":0,\"r\":1\x7d]\x7d"

/-- Not every field that a record does not know can be added: an element refuses a value that is no
    datum, and every record a name that is no text. -/
theorem unreadable_field_refused :
    ∃ t u v, Tree.ofText? plainCircle = some t ∧ Tree.ofText? notedCircle = some u ∧
      Tree.ofText? halfNamedCircle = some v ∧
      FromJson.Rearranged (fun _ _ _ => True) .scene t u ∧
      FromJson.Rearranged (fun _ _ _ => True) .scene t v ∧
      (∃ s, ofText .json plainCircle = .ok s) ∧
      ofText .json notedCircle = .error .json ∧ ofText .json halfNamedCircle = .error .json := by
  let circle : List (Option String × Tree) :=
    [(some "kind", .text (some "circle")), (some "cx", .number ['0']), (some "cy", .number ['0']),
      (some "r", .number ['1'])]
  have noted : FromJson.Rearranged (fun _ _ _ => True) .element (.object circle)
      (.object ((some "note", .number "1e2147483648".toList) :: circle)) :=
    .added rfl rfl (by decide +kernel) trivial
  have half_named : FromJson.Rearranged (fun _ _ _ => True) .element (.object circle)
      (.object ((none, .number ['0']) :: circle)) :=
    .added rfl rfl (by decide +kernel) trivial
  refine ⟨_, _, _, ?_, ?_, ?_, noted.inside, half_named.inside, ?_, ?_, ?_⟩
  · decide +kernel +zetaReduce
  · decide +kernel +zetaReduce
  · decide +kernel +zetaReduce
  · obtain ⟨s, found⟩ : ∃ s, FromJson.scene? plainCircle = some s :=
      Option.isSome_iff_exists.1 (by decide +kernel)
    exact ⟨s, by simp only [ofText, found, Option.elim_some]⟩
  · have refused : FromJson.scene? notedCircle = none :=
      Option.isNone_iff_eq_none.1 (by decide +kernel)
    simp only [ofText, refused, Option.elim_none]
  · have refused : FromJson.scene? halfNamedCircle = none :=
      Option.isNone_iff_eq_none.1 (by decide +kernel)
    simp only [ofText, refused, Option.elim_none]

end Documents

end SceneScript.Scene
