import Mathlib.Data.List.Induction
import Mathlib.Data.List.Nodup
import SceneScript.Entries

/- Keyed lists without repeated keys are known by the order of their keys and by what is looked up
   under each. A list of insertions leaves the keys in order of first insertion and the values of
   last insertion. -/
namespace SceneScript.Entries
variable {α : Type}

abbrev keys (entries : List (String × α)) : List String :=
  entries.map Prod.fst

/-- The distinct keys by first occurrence, each with its last value. -/
def merged (pairs : List (String × α)) : List (String × α) :=
  (keys pairs).eraseDups.filterMap fun key => (get? key pairs.reverse).map (key, ·)

theorem lookup_insert (key other : String) (value : α) (entries : List (String × α)) :
    get? other (insert key value entries) =
      if key = other then some value else get? other entries := by
  induction entries with
  | nil => rfl
  | cons entry rest ih =>
    obtain ⟨k, v⟩ := entry
    by_cases same : k = key
    · subst k
      by_cases here : key = other <;> simp [insert, get?, here]
    · by_cases here : k = other
      · subst k
        simp [insert, get?, same, Ne.symm same]
      · simp [insert, get?, same, here, ih]

theorem keys_insert (key : String) (value : α) (entries : List (String × α)) :
    keys (insert key value entries) =
      if key ∈ keys entries then keys entries else keys entries ++ [key] := by
  induction entries with
  | nil => rfl
  | cons entry rest ih =>
    obtain ⟨k, v⟩ := entry
    by_cases same : k = key
    · simp [insert, same]
    · have apart : key ≠ k := Ne.symm same
      simp only [keys] at ih
      simp only [insert, same, ↓reduceIte, keys, List.map_cons, ih, List.mem_cons, apart, false_or]
      split <;> rfl

theorem keys_insert_nodup {key : String} {value : α} {entries : List (String × α)}
    (distinct : (keys entries).Nodup) : (keys (insert key value entries)).Nodup := by
  rw [keys_insert]
  split
  · exact distinct
  · rename_i absent
    exact List.nodup_append.mpr ⟨distinct, by simp, by
      intro k member other last
      rw [List.mem_singleton.mp last]
      exact fun eq => absent (eq ▸ member)⟩

theorem entries_from_keys {entries : List (String × α)} (distinct : (keys entries).Nodup) :
    entries = (keys entries).filterMap fun key => (get? key entries).map (key, ·) := by
  induction entries with
  | nil => rfl
  | cons entry rest ih =>
    obtain ⟨k, v⟩ := entry
    obtain ⟨fresh, distinct⟩ := List.nodup_cons.mp distinct
    have later : ∀ key ∈ keys rest, get? key ((k, v) :: rest) = get? key rest := by
      intro key member
      have apart : k ≠ key := fun eq => fresh (eq ▸ member)
      simp [get?, apart]
    have tail : (keys rest).filterMap (fun key => (get? key ((k, v) :: rest)).map (key, ·)) =
        (keys rest).filterMap (fun key => (get? key rest).map (key, ·)) :=
      List.filterMap_congr fun key member => by rw [later key member]
    simp only [keys, List.map_cons, List.filterMap_cons, get?, ↓reduceIte, Option.map_some]
    rw [List.cons.injEq]
    exact ⟨rfl, (ih distinct).trans tail.symm⟩

theorem ofList_append_one (pairs : List (String × α)) (key : String) (value : α) :
    ofList (pairs ++ [(key, value)]) = insert key value (ofList pairs) := by
  simp [ofList]

theorem lookup_ofList (pairs : List (String × α)) (key : String) :
    get? key (ofList pairs) = get? key pairs.reverse := by
  induction pairs using List.reverseRecOn with
  | nil => rfl
  | append_singleton pairs pair ih =>
    obtain ⟨k, v⟩ := pair
    rw [ofList_append_one, lookup_insert, ih]
    simp [get?]

theorem keys_ofList (pairs : List (String × α)) :
    keys (ofList pairs) = (keys pairs).eraseDups := by
  induction pairs using List.reverseRecOn with
  | nil => rfl
  | append_singleton pairs pair ih =>
    obtain ⟨k, v⟩ := pair
    rw [ofList_append_one, keys_insert, ih]
    simp only [keys, List.map_append, List.map_cons, List.map_nil, List.eraseDups_append,
      List.mem_eraseDups]
    by_cases known : k ∈ pairs.map Prod.fst
    · simp [List.removeAll, known]
    · simp [List.removeAll, known, List.eraseDups_cons]

theorem keys_ofList_nodup (pairs : List (String × α)) : (keys (ofList pairs)).Nodup := by
  induction pairs using List.reverseRecOn with
  | nil => simp [ofList]
  | append_singleton pairs pair ih =>
    rw [ofList_append_one]
    exact keys_insert_nodup ih

theorem ofList_merged (pairs : List (String × α)) : ofList pairs = merged pairs := by
  rw [entries_from_keys (keys_ofList_nodup pairs), keys_ofList]
  simp only [merged, lookup_ofList]

theorem lookup_member {key : String} {value : α} {pairs : List (String × α)}
    (found : get? key pairs = some value) : (key, value) ∈ pairs := by
  induction pairs with
  | nil => contradiction
  | cons pair rest ih =>
    obtain ⟨k, v⟩ := pair
    rw [get?] at found
    split at found
    · rename_i same
      rw [← same, ← Option.some.inj found]
      exact List.mem_cons_self
    · exact List.mem_cons_of_mem _ (ih found)

theorem lookup_distinct {key : String} {value : α} {entries : List (String × α)}
    (distinct : (keys entries).Nodup) (member : (key, value) ∈ entries) :
    get? key entries = some value := by
  rw [entries_from_keys distinct, List.mem_filterMap] at member
  obtain ⟨k, _, found⟩ := member
  obtain ⟨v, found, same⟩ := Option.map_eq_some_iff.mp found
  cases same
  exact found

theorem insert_same {key : String} {value : α} {entries : List (String × α)}
    (found : get? key entries = some value) : insert key value entries = entries := by
  induction entries with
  | nil => contradiction
  | cons entry rest ih =>
    obtain ⟨k, v⟩ := entry
    by_cases here : k = key
    · rw [get?, if_pos here] at found
      rw [insert, if_pos here, here, Option.some.inj found]
    · rw [get?, if_neg here] at found
      rw [insert, if_neg here, ih found]

theorem merged_member {pair : String × α} {pairs : List (String × α)}
    (member : pair ∈ merged pairs) : pair ∈ pairs := by
  simp only [merged, List.mem_filterMap, Option.map_eq_some_iff] at member
  obtain ⟨key, _, value, found, rfl⟩ := member
  exact List.mem_reverse.mp (lookup_member found)

theorem insert_fresh {key : String} (value : α) {entries : List (String × α)}
    (fresh : key ∉ keys entries) : insert key value entries = entries ++ [(key, value)] := by
  induction entries with
  | nil => rfl
  | cons entry rest ih =>
    obtain ⟨k, v⟩ := entry
    obtain ⟨apart, later⟩ := not_or.mp (mt List.mem_cons.mpr fresh)
    rw [insert, if_neg (Ne.symm apart), ih later, List.cons_append]

theorem merged_nodup {entries : List (String × α)} (distinct : (keys entries).Nodup) :
    merged entries = entries := by
  rw [← ofList_merged]
  induction entries using List.reverseRecOn with
  | nil => rfl
  | append_singleton entries entry ih =>
    obtain ⟨key, value⟩ := entry
    rw [keys, List.map_append] at distinct
    obtain ⟨before, _, apart⟩ := List.nodup_append.mp distinct
    have fresh : key ∉ keys entries := fun member =>
      apart key member key List.mem_cons_self rfl
    rw [ofList_append_one, ih before, insert_fresh value fresh]

theorem merged_twice (pairs : List (String × α)) : merged (merged pairs) = merged pairs := by
  apply merged_nodup
  rw [← ofList_merged]
  exact keys_ofList_nodup pairs

end SceneScript.Entries
