import SceneScript.Proofs.Brackets
import SceneScript.Proofs.Numerals
import SceneScript.Proofs.Quoting
import SceneScript.Value

/- A value without verbatim parts is read back from its text, at any depth and whatever its texts
   and keys say. -/
namespace SceneScript

namespace Value

mutual

def isPlain : Value → Bool
  | verbatim _ => false
  | list items => isPlainItems items
  | object entries => isPlainEntries entries
  | _ => true

def isPlainItems : List Value → Bool
  | [] => true
  | v :: rest => v.isPlain && isPlainItems rest

def isPlainEntries : List (String × Value) → Bool
  | [] => true
  | (_, v) :: rest => v.isPlain && isPlainEntries rest

end

mutual

/-- The tree that a value is written for, numbers by their text. A verbatim expression has none; it
    counts as null. -/
def tree : Value → Json.Tree
  | null | verbatim _ => .null
  | bool b => .bool b
  | number x => .number (Number.toChars x)
  | text s => .text (some s)
  | list items => .list (treeItems items)
  | object entries => .object (treeEntries entries)

def treeItems : List Value → List Json.Tree
  | [] => []
  | v :: rest => v.tree :: treeItems rest

def treeEntries : List (String × Value) → List (Option String × Json.Tree)
  | [] => []
  | (key, v) :: rest => (some key, v.tree) :: treeEntries rest

end

end Value

namespace Json.Reading

theorem separator_ends {c : Char} (separator : c ∈ [',', ']', '\x7d']) (rest : List Char) :
    Ended (c :: rest) := by
  intro d head
  obtain rfl := Option.some.inj head
  simp only [List.mem_cons, List.not_mem_nil, or_false] at separator
  rcases separator with rfl | rfl | rfl <;> decide

end Json.Reading

namespace Value
open Json Json.Reading

theorem quote_chars (s : String) :
    (Text.quote s).toList = '"' :: (Text.quotedChars s.toList ++ ['"']) := by
  rw [Text.quote, String.toList_ofList]

theorem list_chars (items : List Value) :
    (list items).script.toList = '[' :: ((scriptItems items).toList ++ [']']) := by
  simp [script, String.toList_append]

theorem object_chars (entries : List (String × Value)) :
    (object entries).script.toList = '\x7b' :: ((scriptEntries entries).toList ++ ['\x7d']) := by
  simp [script, String.toList_append]

theorem items_chars (v w : Value) (rest : List Value) :
    (scriptItems (v :: w :: rest)).toList =
      v.script.toList ++ ',' :: (scriptItems (w :: rest)).toList := by
  simp [scriptItems, String.toList_append]

theorem entry_chars (key : String) (v : Value) :
    (scriptEntries [(key, v)]).toList =
      '"' :: (Text.quotedChars key.toList ++ '"' :: ':' :: v.script.toList) := by
  simp [scriptEntries, String.toList_append, quote_chars]

theorem entries_chars (key : String) (v : Value) (w : String × Value)
    (rest : List (String × Value)) :
    (scriptEntries ((key, v) :: w :: rest)).toList =
      '"' :: (Text.quotedChars key.toList ++ '"' :: ':' ::
        (v.script.toList ++ ',' :: (scriptEntries (w :: rest)).toList)) := by
  simp [scriptEntries, String.toList_append, quote_chars]

theorem script_head {v : Value} (plain : v.isPlain = true) :
    ∃ c cs, v.script.toList = c :: cs ∧ isSpace c = false ∧ c ≠ ']' := by
  cases v with
  | null => exact ⟨'n', _, rfl, rfl, by decide⟩
  | bool b => cases b <;> exact ⟨_, _, rfl, rfl, by decide⟩
  | number x =>
    have head := number_text_head x
    rwa [script, Number.text, String.toList_ofList]
  | text s => exact ⟨'"', _, quote_chars s, rfl, by decide⟩
  | list items => exact ⟨'[', _, list_chars items, rfl, by decide⟩
  | object entries => exact ⟨'\x7b', _, object_chars entries, rfl, by decide⟩
  | verbatim source => contradiction

theorem items_head {v : Value} {rest : List Value} (plain : isPlainItems (v :: rest) = true) :
    ∃ c cs, (scriptItems (v :: rest)).toList = c :: cs ∧ isSpace c = false ∧ c ≠ ']' := by
  rw [isPlainItems, Bool.and_eq_true] at plain
  obtain ⟨c, cs, head, visible, apart⟩ := script_head plain.1
  cases rest with
  | nil => exact ⟨c, cs, head, visible, apart⟩
  | cons w rest => exact ⟨c, _, by rw [items_chars, head]; rfl, visible, apart⟩

theorem entries_head (entry : String × Value) (rest : List (String × Value)) :
    ∃ cs, (scriptEntries (entry :: rest)).toList = '"' :: cs := by
  obtain ⟨key, v⟩ := entry
  cases rest with
  | nil => exact ⟨_, entry_chars key v⟩
  | cons w rest => exact ⟨_, entries_chars key v w rest⟩

-- Fuel is spent at brackets, commas and values, each of which is a character of the text at least:
-- twice the length pays for a value, and one less for what stands between brackets.
mutual

theorem value_read (v : Value) (fuel : Nat) (rest : List Char) (plain : v.isPlain = true)
    (enough : 2 * v.script.toList.length ≤ fuel + 1) (ended : Ended rest) :
    value? true (fuel + 1) (v.script.toList ++ rest) = some (v.tree, rest) := by
  cases v with
  | null => rfl
  | bool b => cases b <;> rfl
  | number x =>
    rw [script, Number.text, String.toList_ofList, number_text_read x ended, tree]
  | text s =>
    rw [script, quote_chars, List.cons_append, List.append_assoc, value?, if_pos rfl,
      List.singleton_append, Text.quoted_read, tree]
    rfl
  | list items =>
    cases items with
    | nil => rfl
    | cons w items =>
      obtain ⟨c, cs, head, visible, apart⟩ := items_head plain
      rw [list_chars] at enough ⊢
      simp only [List.length_cons, List.length_append, List.length_nil] at enough
      obtain ⟨fuel, rfl⟩ : ∃ more, fuel = more + 1 := ⟨fuel - 1, by omega⟩
      have read := items_read (w :: items) fuel rest (by simp) plain (by omega)
      rw [List.cons_append, List.append_assoc, List.singleton_append, tree]
      rw [← skip_nothing head visible] at read
      refine list_filled (fun tail same => ?_) read
      rw [skip_nothing head visible, head] at same
      exact apart (List.cons.inj same).1
  | object entries =>
    cases entries with
    | nil => rfl
    | cons w entries =>
      obtain ⟨cs, head⟩ := entries_head w entries
      rw [object_chars] at enough ⊢
      simp only [List.length_cons, List.length_append, List.length_nil] at enough
      obtain ⟨fuel, rfl⟩ : ∃ more, fuel = more + 1 := ⟨fuel - 1, by omega⟩
      have read := entries_read (w :: entries) fuel rest (by simp) plain (by omega)
      rw [List.cons_append, List.append_assoc, List.singleton_append, tree]
      rw [← skip_nothing head rfl] at read
      refine object_filled (fun tail same => ?_) read
      rw [skip_nothing head rfl, head] at same
      exact absurd (List.cons.inj same).1 (by decide)
  | verbatim source => contradiction

theorem items_read (items : List Value) (fuel : Nat) (rest : List Char) (filled : items ≠ [])
    (plain : isPlainItems items = true) (enough : 2 * (scriptItems items).toList.length ≤ fuel) :
    items? true (fuel + 1) ((scriptItems items).toList ++ ']' :: rest) =
      some (treeItems items, rest) := by
  cases items with
  | nil => contradiction
  | cons v items =>
    obtain ⟨own, others⟩ := Bool.and_eq_true_iff.mp plain
    obtain ⟨c, cs, head, _⟩ := script_head own
    cases items with
    | nil =>
      rw [scriptItems] at enough ⊢
      obtain ⟨fuel, rfl⟩ : ∃ more, fuel = more + 1 :=
        ⟨fuel - 1, by rw [head, List.length_cons] at enough; omega⟩
      have ended : Ended (']' :: _) := separator_ends (by decide) rest
      exact items_close (value_read v fuel (']' :: rest) own enough ended) (skip_stays rfl)
    | cons w items =>
      rw [items_chars] at enough ⊢
      simp only [List.length_cons, List.length_append] at enough
      obtain ⟨fuel, rfl⟩ : ∃ more, fuel = more + 1 := ⟨fuel - 1, by omega⟩
      have ended : Ended (',' :: _) := separator_ends (by decide)
        ((scriptItems (w :: items)).toList ++ ']' :: rest)
      have read := value_read v fuel _ own (by omega) ended
      have next := items_read (w :: items) fuel rest (by simp) others (by omega)
      obtain ⟨d, ds, start, visible, _⟩ := items_head others
      rw [List.append_assoc, List.cons_append]
      rw [← skip_nothing start visible] at next
      exact items_comma read (skip_stays rfl) next

theorem entries_read (entries : List (String × Value)) (fuel : Nat) (rest : List Char)
    (filled : entries ≠ []) (plain : isPlainEntries entries = true)
    (enough : 2 * (scriptEntries entries).toList.length ≤ fuel) :
    entries? true (fuel + 1) ((scriptEntries entries).toList ++ '\x7d' :: rest) =
      some (treeEntries entries, rest) := by
  cases entries with
  | nil => contradiction
  | cons entry entries =>
    obtain ⟨key, v⟩ := entry
    obtain ⟨own, others⟩ := Bool.and_eq_true_iff.mp plain
    obtain ⟨c, cs, head, visible, _⟩ := script_head own
    cases entries with
    | nil =>
      rw [entry_chars] at enough ⊢
      simp only [List.length_cons, List.length_append] at enough
      obtain ⟨fuel, rfl⟩ : ∃ more, fuel = more + 1 := ⟨fuel - 1, by omega⟩
      have ended : Ended ('\x7d' :: _) := separator_ends (by decide) rest
      have read := value_read v fuel ('\x7d' :: rest) own (by omega) ended
      rw [List.cons_append, List.append_assoc, List.cons_append, List.cons_append]
      rw [← skip_nothing head visible] at read
      exact entries_close (Text.quoted_read key _) (skip_stays rfl) read (skip_stays rfl)
    | cons w entries =>
      rw [entries_chars] at enough ⊢
      simp only [List.length_cons, List.length_append] at enough
      obtain ⟨fuel, rfl⟩ : ∃ more, fuel = more + 1 := ⟨fuel - 1, by omega⟩
      have ended : Ended (',' :: _) := separator_ends (by decide)
        ((scriptEntries (w :: entries)).toList ++ '\x7d' :: rest)
      have read := value_read v fuel _ own (by omega) ended
      have next := entries_read (w :: entries) fuel rest (by simp) others (by omega)
      obtain ⟨ds, start⟩ := entries_head w entries
      rw [List.cons_append, List.append_assoc, List.cons_append, List.cons_append,
        List.append_assoc, List.cons_append]
      rw [← skip_nothing head visible] at read
      rw [← skip_nothing start rfl] at next
      exact entries_comma (Text.quoted_read key _) (skip_stays rfl) read (skip_stays rfl) next

end

theorem whole_script_read {v : Value} (plain : v.isPlain = true) :
    Tree.ofChars? true v.script.toList = some v.tree := by
  obtain ⟨c, cs, head, visible, _⟩ := script_head plain
  have stays : skipSpaces v.script.toList = v.script.toList := by
    rw [head]
    exact skip_stays visible
  have nothing_follows : Ended [] := by
    rintro _ ⟨⟩
  have read := value_read v (2 * v.script.toList.length + 1) [] plain (by omega) nothing_follows
  rw [List.append_nil] at read
  rw [Tree.ofChars?, stays, read]
  rfl

/-- A plain value is read back from its text with nothing left over: its shape, its texts, its keys
    in order and as often as they occur, and its numbers as they are written. Values with the same
    text therefore differ in numbers of the same text at most. -/
theorem script_read_back (v : Value) (plain : v.isPlain = true) :
    Tree.ofChars? true v.script.toList = some v.tree ∧
      ∀ w : Value, w.isPlain = true → v.script = w.script → v.tree = w.tree := by
  refine ⟨whole_script_read plain, fun w other same => ?_⟩
  have read := whole_script_read plain
  rw [same, whole_script_read other] at read
  exact (Option.some.inj read).symm

theorem script_read_back_of_object :
    let v : Value := .object [("</", .list [.number 0.5, .null, .list []]),
      ("</", .text "\"\\\n</<\x01"), ("", .object [])]
    let w : Value := .object [("</", .text "\"\\\n</<\x01"), ("", .object [])]
    v.isPlain = true ∧ w.isPlain = true ∧ v.script ≠ w.script ∧
      Tree.ofChars? true v.script.toList =
        some (.object [(some "</", .list [.number (Number.toChars 0.5), .null, .list []]),
          (some "</", .text (some "\"\\\n</<\x01")), (some "", .object [])]) := by
  intro v w
  obtain ⟨read, same⟩ := script_read_back v (by decide)
  refine ⟨by decide, by decide, fun equal => ?_, read⟩
  simpa [v, w, tree, treeEntries] using same w (by decide) equal

end Value

end SceneScript
