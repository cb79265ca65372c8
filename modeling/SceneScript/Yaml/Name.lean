import SceneScript.Yaml.Flow
import SceneScript.Yaml.Token

/- Names in a YAML text: anchors, tags and directives. -/
namespace SceneScript.Yaml

def anchorName? (c : Cursor) : Option (String × Cursor) :=
  let (name, c) := (c.skip 1).span isWordChar
  let ended := endsWord c.rest ||
    c.rest.head?.any ['?', ':', ',', ']', '\x7d', '%', '@', '\x60'].contains
  if !name.isEmpty && ended then some (String.ofList name, c) else none

/-- Characters of a tag; commas and square brackets only where they cannot be marks. -/
def isTagChar (marks : Bool) (c : Char) : Bool :=
  isWordChar c || [';', '/', '?', ':', '@', '&', '=', '+', '$', '.', '%', '!', '~', '*', '\'', '(',
    ')'].contains c || (marks && [',', '[', ']'].contains c)

def byte? : List Char → Option (Nat × List Char)
  | '%' :: a :: b :: rest => do
    let n ← hexNumber? [a, b]
    some (n, rest)
  | _ => none

def continuation? : Nat → Nat → List Char → Option (Nat × List Char)
  | 0, value, cs => some (value, cs)
  | count + 1, value, cs => do
    let (n, rest) ← byte? cs
    if n / 64 = 2 then continuation? count (64 * value + n % 64) rest else none

/-- The character of some bytes, each as a percent sign and two digits, and how many bytes there
    are. Bytes that no character is written with stand for none. -/
def bytes? (cs : List Char) : Option (Option Char × Nat) := do
  let (n, rest) ← byte? cs
  let (more, value, least) ←
    if n < 0x80 then some (0, n, 0)
    else if n / 32 = 6 then some (1, n % 32, 0x80)
    else if n / 16 = 14 then some (2, n % 16, 0x800)
    else if n / 8 = 30 then some (3, n % 8, 0x10000)
    else none
  let (value, _) ← continuation? more value rest
  some (if value < least then none else scalarValue? value, more + 1)

def tagText? (marks : Bool) : Nat → Cursor → Option (List (Option Char) × Cursor)
  | 0, _ => none
  | fuel + 1, c =>
    match c.rest with
    | [] => some ([], c)
    | d :: _ =>
      if !isTagChar marks d then some ([], c)
      else if d = '%' then do
        let (e, count) ← bytes? c.rest
        let (more, c) ← tagText? marks fuel (c.skip (3 * count))
        some (e :: more, c)
      else do
        let (more, c) ← tagText? marks fuel (c.skip 1)
        some (some d :: more, c)

def Tag.ofSpelled (cs : List (Option Char)) : Tag :=
  ⟨cs.takeWhile (· ≠ some '\x00')⟩

def tagBody? (marks : Bool) (c : Cursor) : Option (Tag × Cursor) := do
  let (text, c) ← tagText? marks (c.total + 1) c
  if text.isEmpty then none else some (.ofSpelled text, c)

def handle? (c : Cursor) : Option (List Char × Cursor) :=
  match c.rest with
  | '!' :: _ =>
    let (word, c) := (c.skip 1).span isWordChar
    match c.rest with
    | '!' :: _ => some ('!' :: word ++ ['!'], c.skip 1)
    | _ => some ('!' :: word, c)
  | _ => none

/-- A tag is written in full between angle brackets, or begins with a handle. What looks like a
    handle without a second mark is part of the tag itself; nothing more than the mark is a tag. -/
def tag? (inFlow : Bool) (c : Cursor) : Option (Token × Cursor) := do
  let (token, c) ← match c.rest with
    | '!' :: '<' :: _ => do
      let (text, c) ← tagBody? true (c.skip 2)
      if c.rest.head? ≠ some '>' then none else some (Token.tag "" text, c.skip 1)
    | _ => do
      let (handle, c) ← handle? c
      if 1 < handle.length ∧ handle.getLast? = some '!' then do
        let (text, c) ← tagBody? false c
        some (Token.tag (String.ofList handle) text, c)
      else do
        let (more, c) ← tagText? false (c.total + 1) c
        let text := Tag.ofSpelled ((handle.drop 1).map some ++ more)
        some (if text.isEmpty then Token.tag "" (.ofText "!") else Token.tag "!" text, c)
  if endsWord c.rest || (inFlow && c.rest.head? == some ',') then some (token, c) else none

def number? (c : Cursor) : Option (Nat × Cursor) :=
  let (digits, c) := c.span Char.isDigit
  if digits.isEmpty ∨ 9 < digits.length then none
  else some (digits.foldl (fun n d => 10 * n + (d.toNat - '0'.toNat)) 0, c)

def versionValue? (c : Cursor) : Option (Token × Cursor) := do
  let (major, c) ← number? c.skipBlanks
  if c.rest.head? ≠ some '.' then none
  else do
    let (minor, c) ← number? (c.skip 1)
    some (.version major minor, c)

def shorthandValue? (c : Cursor) : Option (Token × Cursor) := do
  let (handle, c) ← handle? c.skipBlanks
  if handle ≠ ['!'] ∧ (handle.getLast? ≠ some '!' ∨ handle.length < 2) then none
  else if !startsBlank c.rest then none
  else do
    let (meaning, c) ← tagBody? true c.skipBlanks
    if endsWord c.rest then some (.shorthand (String.ofList handle) meaning, c) else none

def directive? (c : Cursor) : Option (Token × Cursor) := do
  let (name, c) := (c.skip 1).span isWordChar
  if name.isEmpty ∨ !endsWord c.rest then none
  else do
    let (token, c) ←
      if name = "YAML".toList then versionValue? c
      else if name = "TAG".toList then shorthandValue? c
      else none
    some (token, ← c.finishLine?)

end SceneScript.Yaml
