import Mathlib.Data.Finset.Card
import SceneScript.Proofs.Attributes

/- What a set of attributes keeps of everything that was inserted into it: each normalized name
   once, where it came first, with the value that came last. -/
namespace SceneScript.Attributes
open Entries

/-- A call on a set of attributes; an insertion comes to the same in place and in a chain. -/
inductive Change where
  | insert (name : String) (value : Value)
  | withId (id : String)

def change (a : Attributes) : Change → Attributes
  | .insert name value => a.insert name value
  | .withId id => a.withId id

def run (a : Attributes) (changes : List Change) : Attributes :=
  changes.foldl change a

def Change.insertion? : Change → Option (String × Value)
  | insert name value => some (name, value)
  | withId _ => none

def insertions (changes : List Change) : List (String × Value) :=
  changes.filterMap Change.insertion?

def insertedKeys (changes : List Change) : List String :=
  (insertions changes).map fun pair => normalizeAttribute pair.1

def lastValue? (pairs : List (String × Value)) (name : String) : Option Value :=
  (pairs.filter fun pair => normalizeAttribute pair.1 = normalizeAttribute name).getLast?.map
    Prod.snd

theorem run_entries {a b : Attributes} (same : a.entries = b.entries) (changes : List Change) :
    (a.run changes).entries = (b.insertAll (insertions changes)).entries := by
  induction changes generalizing a b with
  | nil => exact same
  | cons c rest ih =>
    cases c with
    | insert name value =>
      have inserted : (a.insert name value).entries = (b.insert name value).entries :=
        congrArg (Entries.insert (normalizeAttribute name) value) same
      exact ih inserted
    | withId id => exact ih (a := a.withId id) same

theorem run_merged (changes : List Change) :
    (empty.run changes).entries = merged (normalized (insertions changes)) :=
  (run_entries rfl changes).trans (insertAll_entries _)

theorem lookup_normalized (pairs : List (String × Value)) (name : String) :
    Entries.get? (normalizeAttribute name) (normalized pairs).reverse = lastValue? pairs name := by
  induction pairs using List.reverseRecOn with
  | nil => rfl
  | append_singleton pairs pair ih =>
    have last : (normalized (pairs ++ [pair])).reverse =
        (normalizeAttribute pair.1, pair.2) :: (normalized pairs).reverse := by
      simp [normalized]
    rw [last, Entries.get?, ih, lastValue?, lastValue?, List.filter_append]
    by_cases here : normalizeAttribute pair.1 = normalizeAttribute name <;> simp [here]

theorem get_run (changes : List Change) (name : String) :
    (empty.run changes).get? name = lastValue? (insertions changes) name := by
  rw [get?, run_merged, ← ofList_merged, lookup_ofList, lookup_normalized]

theorem lastValue_none_iff (pairs : List (String × Value)) (name : String) :
    lastValue? pairs name = none ↔
      ∀ pair ∈ pairs, normalizeAttribute pair.1 ≠ normalizeAttribute name := by
  simp [lastValue?]

theorem insertAll_own {a : Attributes} (distinct : (keys a.entries).Nodup)
    (normal : ∀ key ∈ keys a.entries, normalizeAttribute key = key)
    {pairs : List (String × Value)} (own : pairs ⊆ a.entries) : a.insertAll pairs = a := by
  induction pairs with
  | nil => rfl
  | cons pair rest ih =>
    obtain ⟨name, value⟩ := pair
    obtain ⟨member, others⟩ := List.cons_subset.mp own
    have kept : a.insert name value = a := by
      rw [insert, normal name (List.mem_map_of_mem member),
        insert_same (lookup_distinct distinct member)]
    exact (congrArg (insertAll · rest) kept).trans (ih others)

section Keys
variable (changes : List Change)

theorem keys_run : keys (empty.run changes).entries = (insertedKeys changes).eraseDups := by
  rw [run_merged, ← ofList_merged, keys_ofList, normalized, keys, List.map_map]
  rfl

theorem keys_run_nodup : (keys (empty.run changes).entries).Nodup := by
  rw [run_merged, ← ofList_merged]
  exact keys_ofList_nodup _

theorem keys_run_normal :
    ∀ key ∈ keys (empty.run changes).entries, normalizeAttribute key = key := by
  rw [run_merged]
  intro key member
  obtain ⟨entry, listed, rfl⟩ := List.mem_map.mp member
  exact merged_key_normalized listed

theorem entries_run_length :
    (empty.run changes).entries.length = (insertedKeys changes).toFinset.card := by
  have same : (insertedKeys changes).toFinset = (keys (empty.run changes).entries).toFinset := by
    ext key
    rw [keys_run, List.mem_toFinset, List.mem_toFinset, List.mem_eraseDups]
  rw [same, List.toFinset_card_of_nodup (keys_run_nodup changes), List.length_map]

theorem lookup_run_entry {entry : String × Value} (member : entry ∈ (empty.run changes).entries) :
    lastValue? (insertions changes) entry.1 = some entry.2 := by
  rw [← get_run, get?, keys_run_normal changes entry.1 (List.mem_map_of_mem member)]
  exact lookup_distinct (keys_run_nodup changes) member

theorem get_run_none_iff (name : String) :
    (empty.run changes).get? name = none ↔ normalizeAttribute name ∉ insertedKeys changes := by
  rw [get_run, lastValue_none_iff, insertedKeys, List.mem_map]
  simp only [not_exists, not_and]

end Keys

/-- After any changes the keys are distinct normalized names: those of what was inserted, in order
    of first insertion. Each has the value that was inserted last under a name with this
    normalization, which is what is looked up under every such name. Entries that are set or applied
    again keep their keys. -/
theorem insertions_kept (changes : List Change) :
    let a := empty.run changes
    let pairs := insertions changes
    (keys a.entries).Nodup ∧
    (∀ key ∈ keys a.entries, normalizeAttribute key = key) ∧
    keys a.entries = (insertedKeys changes).eraseDups ∧
    (∀ entry ∈ a.entries, lastValue? pairs entry.1 = some entry.2) ∧
    (∀ name, a.get? name = lastValue? pairs name) ∧
    (∀ name, a.get? name = none ↔ normalizeAttribute name ∉ insertedKeys changes) ∧
    a.entries.length = (insertedKeys changes).toFinset.card ∧
    a.entries = (empty.insertAll pairs).entries ∧
    a.insertAll a.entries = a ∧
    (empty.insertAll a.entries).entries = a.entries ∧
    ∀ e : Element,
      e.apply a = a.entries.map fun entry => .call e.name "attr" [.object [entry]] := by
  intro a pairs
  have entries : a.entries = merged (normalized pairs) := run_merged changes
  have distinct : (keys a.entries).Nodup := keys_run_nodup changes
  have normal := keys_run_normal changes
  have again : (empty.insertAll a.entries).entries = a.entries := by
    rw [entries, insertAll_merged]
  have own : a.insertAll a.entries = a :=
    insertAll_own distinct normal (List.Subset.refl a.entries)
  refine ⟨distinct, normal, keys_run changes, fun _ => lookup_run_entry changes, get_run changes,
    get_run_none_iff changes, entries_run_length changes, run_entries rfl changes, own, again, ?_⟩
  intro e
  rw [apply_merged e a pairs entries, entries]

example : keys (empty.run [.insert "stroke_width" .null, .insert "é" .null,
    .insert "stroke-width" .null]).entries = ["stroke-width", ""] := by
  decide +kernel

end SceneScript.Attributes
