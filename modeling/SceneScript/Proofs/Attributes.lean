import SceneScript.Element
import SceneScript.Proofs.Entries

/- Attribute names are normalized more than once on the way to a statement, which changes nothing,
   and a set of attributes is its list of insertions merged under normalized names. -/
namespace SceneScript
open Entries

theorem isAttributeChar_dash {c : Char} (kept : isAttributeChar c) :
    isAttributeChar (if c = '_' then '-' else c) ∧ (if c = '_' then '-' else c) ≠ '_' := by
  by_cases underscore : c = '_'
  · rw [if_pos underscore]
    decide
  · rw [if_neg underscore]
    exact ⟨kept, underscore⟩

theorem normalizeAttribute_chars {name : String} {c : Char}
    (member : c ∈ (normalizeAttribute name).toList) : isAttributeChar c ∧ c ≠ '_' := by
  simp only [normalizeAttribute, String.toList_ofList, List.mem_map, List.mem_filter] at member
  obtain ⟨d, ⟨_, kept⟩, rfl⟩ := member
  exact isAttributeChar_dash kept

theorem normalizeAttribute_idempotent (name : String) :
    normalizeAttribute (normalizeAttribute name) = normalizeAttribute name := by
  have kept : (normalizeAttribute name).toList.filter isAttributeChar =
      (normalizeAttribute name).toList :=
    List.filter_eq_self.mpr fun _ member => (normalizeAttribute_chars member).1
  have written : (normalizeAttribute name).toList.map (fun c => if c = '_' then '-' else c) =
      (normalizeAttribute name).toList := by
    conv_rhs => rw [← List.map_id (normalizeAttribute name).toList]
    exact List.map_congr_left fun _ member => if_neg (normalizeAttribute_chars member).2
  rw [normalizeAttribute.eq_1 (normalizeAttribute name), kept, written, String.ofList_toList]

namespace Attributes

theorem insert_normalized (a : Attributes) (name : String) (value : Value) :
    a.insert (normalizeAttribute name) value = a.insert name value := by
  rw [insert, insert, normalizeAttribute_idempotent]

def normalized (pairs : List (String × Value)) : List (String × Value) :=
  pairs.map fun (name, value) => (normalizeAttribute name, value)

theorem insertAll_entries (pairs : List (String × Value)) :
    (empty.insertAll pairs).entries = merged (normalized pairs) := by
  have fold : ∀ (a : Attributes), (a.insertAll pairs).entries =
      (normalized pairs).foldl (fun entries (key, value) => Entries.insert key value entries)
        a.entries := by
    induction pairs with
    | nil => exact fun a => rfl
    | cons pair rest ih => exact fun a => ih (a.insert pair.1 pair.2)
  rw [fold, ← ofList_merged]
  rfl

theorem insertAll_id (a : Attributes) (pairs : List (String × Value)) :
    (a.insertAll pairs).id = a.id := by
  induction pairs generalizing a with
  | nil => rfl
  | cons pair rest ih => exact ih (a.insert pair.1 pair.2)

theorem insertAll_empty (pairs : List (String × Value)) :
    empty.insertAll pairs = ⟨none, merged (normalized pairs)⟩ := by
  rw [← insertAll_entries]
  exact congrArg (Attributes.mk · (empty.insertAll pairs).entries) (insertAll_id empty pairs)

theorem merged_key_normalized {pairs : List (String × Value)} {key : String} {value : Value}
    (member : (key, value) ∈ merged (normalized pairs)) : normalizeAttribute key = key := by
  simp only [merged, List.mem_filterMap, List.mem_eraseDups, Option.map_eq_some_iff] at member
  obtain ⟨other, inserted, _, _, eq⟩ := member
  simp only [normalized, keys, List.map_map, List.mem_map, Function.comp_apply] at inserted
  obtain ⟨pair, _, rfl⟩ := inserted
  rw [← (Prod.mk.inj eq).1]
  exact normalizeAttribute_idempotent pair.1

theorem insertAll_merged (pairs : List (String × Value)) :
    (empty.insertAll (merged (normalized pairs))).entries = merged (normalized pairs) := by
  have unchanged : normalized (merged (normalized pairs)) = merged (normalized pairs) := by
    rw [normalized]
    conv_rhs => rw [← List.map_id (merged (normalized pairs))]
    apply List.map_congr_left
    intro entry member
    obtain ⟨key, value⟩ := entry
    change (normalizeAttribute key, value) = (key, value)
    rw [merged_key_normalized member]
  rw [insertAll_entries, unchanged, merged_twice]

end Attributes

theorem Animation.attrs_inserted (a : Animation) (pairs : List (String × Value)) :
    a.attrs pairs =
      { a with first := { a.first with attributes := a.first.attributes.insertAll pairs } } := by
  induction pairs generalizing a with
  | nil => rfl
  | cons pair rest ih =>
    refine (ih (a.attr pair.1 pair.2)).trans ?_
    rw [attr, Attributes.insert_normalized]
    rfl

theorem apply_merged (e : Element) (a : Attributes) (pairs : List (String × Value))
    (entries : a.entries = merged (Attributes.normalized pairs)) :
    e.apply a = (merged (Attributes.normalized pairs)).map fun (key, value) =>
      .call e.name "attr" [.object [(key, value)]] := by
  rw [Element.apply, entries]
  refine List.map_congr_left fun (key, value) member => ?_
  simp only [Element.attr, Attributes.merged_key_normalized member]

end SceneScript
