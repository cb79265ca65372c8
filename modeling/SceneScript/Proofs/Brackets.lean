import SceneScript.Json.Tree

/- Steps of the reader of values at brackets, commas and colons, with spaces in front of them. -/
namespace SceneScript.Json.Reading

theorem skip_stays {c : Char} {cs : List Char} (visible : isSpace c = false) :
    skipSpaces (c :: cs) = c :: cs := by
  simp [skipSpaces, visible]

theorem skip_nothing {text cs : List Char} {c : Char} (head : text = c :: cs)
    (visible : isSpace c = false) (after : List Char) :
    skipSpaces (text ++ after) = text ++ after := by
  rw [head]
  exact skip_stays visible

variable {dialect : Bool} {fuel : Nat}

theorem items_close {cs left rest : List Char} {item : Tree}
    (first : value? dialect fuel cs = some (item, left)) (closed : skipSpaces left = ']' :: rest) :
    items? dialect (fuel + 1) cs = some ([item], rest) := by
  rw [items?, first]
  simp only [Option.bind_eq_bind, Option.bind_some]
  rw [closed]
  rfl

theorem items_comma {cs left later rest : List Char} {item : Tree} {others : List Tree}
    (first : value? dialect fuel cs = some (item, left)) (comma : skipSpaces left = ',' :: later)
    (next : items? dialect fuel (skipSpaces later) = some (others, rest)) :
    items? dialect (fuel + 1) cs = some (item :: others, rest) := by
  rw [items?, first]
  simp only [Option.bind_eq_bind, Option.bind_some]
  rw [comma]
  simp only [next, Option.bind_some]

theorem entries_close {cs named left behind rest : List Char} {key : Option String} {value : Tree}
    (text : text? cs = some (key, named)) (colon : skipSpaces named = ':' :: left)
    (first : value? dialect fuel (skipSpaces left) = some (value, behind))
    (closed : skipSpaces behind = '\x7d' :: rest) :
    entries? dialect (fuel + 1) ('"' :: cs) = some ([(key, value)], rest) := by
  rw [entries?, if_pos rfl, text]
  simp only [Option.bind_eq_bind, Option.bind_some]
  rw [colon]
  simp only [first, Option.bind_some]
  rw [closed]
  rfl

theorem entries_comma {cs named left behind later rest : List Char} {key : Option String}
    {value : Tree} {others : List (Option String × Tree)}
    (text : text? cs = some (key, named)) (colon : skipSpaces named = ':' :: left)
    (first : value? dialect fuel (skipSpaces left) = some (value, behind))
    (comma : skipSpaces behind = ',' :: later)
    (next : entries? dialect fuel (skipSpaces later) = some (others, rest)) :
    entries? dialect (fuel + 1) ('"' :: cs) = some ((key, value) :: others, rest) := by
  rw [entries?, if_pos rfl, text]
  simp only [Option.bind_eq_bind, Option.bind_some]
  rw [colon]
  simp only [first, Option.bind_some]
  rw [comma]
  simp only [next, Option.bind_some]

theorem list_closed {cs rest : List Char} (closed : skipSpaces cs = ']' :: rest) :
    value? dialect (fuel + 1) ('[' :: cs) = some (.list [], rest) := by
  rw [value?, if_neg (by decide), if_pos rfl, closed]
  rfl

theorem list_filled {cs rest : List Char} {items : List Tree}
    (filled : ∀ tail, skipSpaces cs ≠ ']' :: tail)
    (read : items? dialect fuel (skipSpaces cs) = some (items, rest)) :
    value? dialect (fuel + 1) ('[' :: cs) = some (.list items, rest) := by
  rw [value?, if_neg (by decide), if_pos rfl]
  split
  · rename_i closed
    exact absurd closed (filled _)
  · rw [read]
    rfl

theorem object_closed {cs rest : List Char} (closed : skipSpaces cs = '\x7d' :: rest) :
    value? dialect (fuel + 1) ('\x7b' :: cs) = some (.object [], rest) := by
  rw [value?, if_neg (by decide), if_neg (by decide), if_pos rfl, closed]
  rfl

theorem object_filled {cs rest : List Char} {entries : List (Option String × Tree)}
    (filled : ∀ tail, skipSpaces cs ≠ '\x7d' :: tail)
    (read : entries? dialect fuel (skipSpaces cs) = some (entries, rest)) :
    value? dialect (fuel + 1) ('\x7b' :: cs) = some (.object entries, rest) := by
  rw [value?, if_neg (by decide), if_neg (by decide), if_pos rfl]
  split
  · rename_i closed
    exact absurd closed (filled _)
  · rw [read]
    rfl

end SceneScript.Json.Reading
