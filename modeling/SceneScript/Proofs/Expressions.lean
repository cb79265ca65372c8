import SceneScript.Scene.Render

/- Expressions of the script in the attributes of a document: objects with a text under the one key
   `js`. The value of an attribute is that of its JSON with these objects replaced, wherever they
   are, and with nothing else changed. -/
namespace SceneScript

namespace Json

def parts : Json → List Json
  | list items => items
  | object entries => entries.map Prod.snd
  | _ => []

/-- The value at a place: positions among the parts, from the outside in. -/
def at? (j : Json) : List Nat → Option Json
  | [] => some j
  | i :: place => j.parts[i]?.bind fun part => part.at? place

end Json

namespace Value

def parts : Value → List Value
  | list items => items
  | object entries => entries.map Prod.snd
  | _ => []

def at? (v : Value) : List Nat → Option Value
  | [] => some v
  | i :: place => v.parts[i]?.bind fun part => part.at? place

/-- A value without what is inside it: of a list the number of its items, of an object its keys in
    order. -/
def outline : Value → Value
  | list items => list (items.map fun _ => null)
  | object entries => object (entries.map fun (key, _) => (key, null))
  | v => v

mutual

/-- Puts other values in the place of some, the outermost first. -/
def replace (f : Value → Option Value) : Value → Value
  | list items => (f (list items)).getD (list (replaceItems f items))
  | object entries => (f (object entries)).getD (object (replaceEntries f entries))
  | v => (f v).getD v

def replaceItems (f : Value → Option Value) : List Value → List Value
  | [] => []
  | v :: rest => v.replace f :: replaceItems f rest

def replaceEntries (f : Value → Option Value) : List (String × Value) → List (String × Value)
  | [] => []
  | (key, v) :: rest => (key, v.replace f) :: replaceEntries f rest

end

/-- The expression that an object with a text under the one key `js` stands for. -/
def expression? : Value → Option Value
  | object [("js", text source)] => some (verbatim source)
  | _ => none

end Value

namespace Scene

def sourceObject (source : String) : Json :=
  .object [("js", .text source)]

theorem source_iff (j : Json) (source : String) :
    source? j = some source ↔ j = sourceObject source := by
  constructor
  · intro found
    unfold source? at found
    split at found
    · rw [Option.some.inj found, sourceObject]
    · contradiction
  · rintro rfl
    rfl

theorem source_none {j : Json} (plain : ∀ source, j.at? [] ≠ some (sourceObject source)) :
    source? j = none :=
  Option.eq_none_iff_forall_ne_some.mpr fun source found =>
    plain source (congrArg some ((source_iff j source).mp found))

section Maps

theorem values_map (items : List Json) : values items = items.map value := by
  induction items with
  | nil => rfl
  | cons j rest ih => rw [values, ih, List.map_cons]

theorem valueEntries_map (entries : List (String × Json)) :
    valueEntries entries = entries.map fun (key, j) => (key, value j) := by
  induction entries with
  | nil => rfl
  | cons entry rest ih => rw [valueEntries, ih, List.map_cons]

theorem ofJsonItems_map (items : List Json) :
    Value.ofJsonItems items = items.map Value.ofJson := by
  induction items with
  | nil => rfl
  | cons j rest ih => rw [Value.ofJsonItems, ih, List.map_cons]

theorem ofJsonEntries_map (entries : List (String × Json)) :
    Value.ofJsonEntries entries = entries.map fun (key, j) => (key, Value.ofJson j) := by
  induction entries with
  | nil => rfl
  | cons entry rest ih => rw [Value.ofJsonEntries, ih, List.map_cons]

end Maps

theorem value_object {entries : List (String × Json)} (plain : source? (.object entries) = none) :
    value (.object entries) = .object (valueEntries entries) := by
  rw [value, plain]

theorem expression_of_json (j : Json) :
    (Value.ofJson j).expression? = (source? j).map .verbatim := by
  cases found : source? j with
  | some source =>
    rw [(source_iff j source).mp found]
    rfl
  | none =>
    unfold Value.expression?
    split
    · rename_i source same
      have own : j = sourceObject source := by
        cases j with
        | object entries =>
          rw [Value.ofJson, ofJsonEntries_map, Value.object.injEq,
            List.map_eq_singleton_iff] at same
          obtain ⟨⟨key, inner⟩, rfl, same⟩ := same
          obtain ⟨rfl, text⟩ := Prod.mk.inj same
          cases inner <;> simp [Value.ofJson] at text
          rw [text, sourceObject]
        | _ => simp [Value.ofJson] at same
      rw [(source_iff j source).mpr own] at found
      contradiction
    · rfl

mutual

theorem value_replaced (j : Json) : value j = (Value.ofJson j).replace Value.expression? := by
  have here := expression_of_json j
  cases j with
  | list items =>
    rw [Value.ofJson] at here ⊢
    rw [value, Value.replace, here, values_replaced items]
    rfl
  | object entries =>
    rw [Value.ofJson] at here ⊢
    rw [Value.replace, here]
    cases found : source? (.object entries) with
    | some source => rw [(source_iff _ source).mp found]; rfl
    | none => rw [value_object found, valueEntries_replaced entries]; rfl
  | _ => rfl

theorem values_replaced (items : List Json) :
    values items = Value.replaceItems Value.expression? (Value.ofJsonItems items) := by
  cases items with
  | nil => rfl
  | cons j rest =>
    rw [values, Value.ofJsonItems, Value.replaceItems, value_replaced j, values_replaced rest]

theorem valueEntries_replaced (entries : List (String × Json)) :
    valueEntries entries =
      Value.replaceEntries Value.expression? (Value.ofJsonEntries entries) := by
  cases entries with
  | nil => rfl
  | cons entry rest =>
    rw [valueEntries, Value.ofJsonEntries, Value.replaceEntries, value_replaced entry.2,
      valueEntries_replaced rest]

end

section Places

theorem ofJson_parts (j : Json) : (Value.ofJson j).parts = j.parts.map Value.ofJson := by
  cases j with
  | list items => rw [Value.ofJson, ofJsonItems_map]; rfl
  | object entries =>
    rw [Value.ofJson, ofJsonEntries_map]
    simp [Value.parts, Json.parts]
  | _ => rfl

theorem value_parts {j : Json} (plain : source? j = none) :
    (value j).parts = j.parts.map value := by
  cases j with
  | list items => rw [value, values_map]; rfl
  | object entries =>
    rw [value_object plain, valueEntries_map]
    simp [Value.parts, Json.parts]
  | _ => rfl

theorem value_outline {j : Json} (plain : source? j = none) :
    (value j).outline = (Value.ofJson j).outline := by
  cases j with
  | list items =>
    rw [value, values_map, Value.ofJson, ofJsonItems_map]
    simp [Value.outline]
  | object entries =>
    rw [value_object plain, valueEntries_map, Value.ofJson, ofJsonEntries_map]
    simp [Value.outline]
  | _ => rfl

theorem inside_text (source other : String) (place : List Nat) :
    (Json.text source).at? place ≠ some (sourceObject other) := by
  cases place with
  | nil => simp [Json.at?, sourceObject]
  | cons i place => simp [Json.at?, Json.parts]

theorem outside_source {j : Json} {i : Nat} {place : List Nat} {source : String}
    (found : j.at? (i :: place) = some (sourceObject source)) : source? j = none := by
  cases own : source? j with
  | none => rfl
  | some other =>
    rw [(source_iff j other).mp own] at found
    obtain ⟨part, listed, found⟩ := Option.bind_eq_some_iff.mp found
    obtain rfl := List.mem_singleton.mp (List.mem_of_getElem? listed)
    exact absurd found (inside_text other source place)

theorem value_at_source {j : Json} {place : List Nat} {source : String}
    (found : j.at? place = some (sourceObject source)) :
    (value j).at? place = some (.verbatim source) := by
  induction place generalizing j with
  | nil =>
    obtain rfl := Option.some.inj found
    rfl
  | cons i place ih =>
    have plain := outside_source found
    obtain ⟨part, listed, found⟩ := Option.bind_eq_some_iff.mp found
    rw [Value.at?, value_parts plain, List.getElem?_map, listed]
    exact ih found

theorem value_at_plain {j : Json} {place : List Nat}
    (plain : ∀ front, front <+: place → ∀ source, j.at? front ≠ some (sourceObject source)) :
    ((value j).at? place).map Value.outline = ((Value.ofJson j).at? place).map Value.outline := by
  have own : source? j = none := source_none (plain [] List.nil_prefix)
  induction place generalizing j with
  | nil => exact congrArg some (value_outline own)
  | cons i place ih =>
    rw [Value.at?, Value.at?, value_parts own, ofJson_parts, List.getElem?_map, List.getElem?_map]
    cases listed : j.parts[i]? with
    | none => rfl
    | some part =>
      have inner : ∀ front, front <+: place →
          ∀ source, part.at? front ≠ some (sourceObject source) := by
        intro front before source found
        refine plain (i :: front) (List.cons_prefix_cons.mpr ⟨rfl, before⟩) source ?_
        rw [Json.at?, listed]
        exact found
      exact ih inner (source_none (inner [] List.nil_prefix))

end Places

section Plain

def SourceFree (j : Json) : Prop :=
  ∀ place source, j.at? place ≠ some (sourceObject source)

theorem SourceFree.plain {j : Json} (free : SourceFree j) : source? j = none :=
  source_none (free [])

theorem SourceFree.part {j : Json} (free : SourceFree j) : ∀ part ∈ j.parts, SourceFree part := by
  intro part member place source found
  obtain ⟨i, listed⟩ := List.mem_iff_getElem?.mp member
  refine free (i :: place) source ?_
  rw [Json.at?, listed]
  exact found

mutual

theorem value_free (j : Json) (free : SourceFree j) : value j = Value.ofJson j := by
  cases j with
  | list items => rw [value, Value.ofJson, values_free items free.part]
  | object entries =>
    have members : ∀ entry ∈ entries, SourceFree entry.2 :=
      fun entry member => free.part entry.2 (List.mem_map_of_mem member)
    rw [value_object free.plain, Value.ofJson, valueEntries_free entries members]
  | _ => rfl

theorem values_free (items : List Json) (free : ∀ j ∈ items, SourceFree j) :
    values items = Value.ofJsonItems items := by
  cases items with
  | nil => rfl
  | cons j rest =>
    obtain ⟨first, later⟩ := List.forall_mem_cons.mp free
    rw [values, Value.ofJsonItems, value_free j first, values_free rest later]

theorem valueEntries_free (entries : List (String × Json))
    (free : ∀ entry ∈ entries, SourceFree entry.2) :
    valueEntries entries = Value.ofJsonEntries entries := by
  cases entries with
  | nil => rfl
  | cons entry rest =>
    obtain ⟨first, later⟩ := List.forall_mem_cons.mp free
    rw [valueEntries, Value.ofJsonEntries, value_free entry.2 first, valueEntries_free rest later]

end

end Plain

/-- The value of an attribute is that of its JSON with every object that stands for an expression
    replaced. At any depth such an object becomes the expression, and at every place that is neither
    one nor inside one the kind, the number of items and the keys stay as they are. Without such an
    object nothing is replaced. -/
theorem expressions_replaced (j : Json) :
    value j = (Value.ofJson j).replace Value.expression? ∧
    (∀ place source, j.at? place = some (.object [("js", .text source)]) →
      (value j).at? place = some (.verbatim source)) ∧
    (∀ place, (∀ front, front <+: place →
        ∀ source, j.at? front ≠ some (.object [("js", .text source)])) →
      ((value j).at? place).map Value.outline = ((Value.ofJson j).at? place).map Value.outline) ∧
    ((∀ place source, j.at? place ≠ some (.object [("js", .text source)])) →
      value j = Value.ofJson j) :=
  ⟨value_replaced j, fun _ _ => value_at_source, fun _ => value_at_plain, value_free j⟩

theorem nested_expression_replaced :
    let j : Json := .object [("js", .object [("js", .text "a")]),
      ("b", .list [.object [("js", .bool true)], .object [("js", .text "c"), ("d", .null)]])]
    j.at? [0] = some (.object [("js", .text "a")]) ∧
    (value j).at? [0] = some (.verbatim "a") ∧
    (∀ front, front <+: [1, 1] →
      ∀ source, j.at? front ≠ some (.object [("js", .text source)])) ∧
    ((value j).at? [1, 1]).map Value.outline = some (.object [("js", .null), ("d", .null)]) := by
  intro j
  obtain ⟨_, inside, elsewhere, _⟩ := expressions_replaced j
  have clear : ∀ front, front <+: [1, 1] →
      ∀ source, j.at? front ≠ some (.object [("js", .text source)]) := by
    intro front before source
    simp only [List.prefix_cons_iff, List.prefix_nil] at before
    rcases before with rfl | ⟨_, rfl, rfl | ⟨_, rfl, rfl⟩⟩ <;> simp [j, Json.at?, Json.parts]
  exact ⟨rfl, inside [0] "a" rfl, clear, elsewhere [1, 1] clear⟩

end Scene

end SceneScript
