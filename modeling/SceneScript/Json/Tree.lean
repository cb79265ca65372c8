/- JSON texts as they are written: numbers by their digits, keys in order and as often as they
   occur. -/
namespace SceneScript.Json

/-- A text with an unpaired surrogate in it is kept as `none`: it has no characters, and yet it is
    no fault where nobody asks for them. -/
inductive Tree where
  | null
  | bool (b : Bool)
  | number (written : List Char)
  | text (s : Option String)
  | list (items : List Tree)
  | object (entries : List (Option String × Tree))
  deriving Inhabited

namespace Tree

mutual

def same : Tree → Tree → Bool
  | null, null => true
  | bool b, bool c => b == c
  | number s, number t => s == t
  | text s, text t => s == t
  | list xs, list ys => sameItems xs ys
  | object xs, object ys => sameEntries xs ys
  | _, _ => false

def sameItems : List Tree → List Tree → Bool
  | [], [] => true
  | x :: xs, y :: ys => x.same y && sameItems xs ys
  | _, _ => false

def sameEntries : List (Option String × Tree) → List (Option String × Tree) → Bool
  | [], [] => true
  | (k, x) :: xs, (l, y) :: ys => k == l && x.same y && sameEntries xs ys
  | _, _ => false

end

mutual

theorem same_iff : ∀ {t u : Tree}, t.same u = true ↔ t = u
  | null, u | bool _, u | number _, u | text _, u => by cases u <;> simp [same]
  | list xs, u => by cases u <;> simp [same, sameItems_iff]
  | object xs, u => by cases u <;> simp [same, sameEntries_iff]

theorem sameItems_iff : ∀ {xs ys : List Tree}, sameItems xs ys = true ↔ xs = ys
  | [], ys => by cases ys <;> simp [sameItems]
  | x :: xs, ys => by cases ys <;> simp [sameItems, same_iff, sameItems_iff]

theorem sameEntries_iff :
    ∀ {xs ys : List (Option String × Tree)}, sameEntries xs ys = true ↔ xs = ys
  | [], ys => by cases ys <;> simp [sameEntries]
  | (k, x) :: xs, ys => by
    cases ys <;> simp [sameEntries, same_iff, sameEntries_iff, Prod.ext_iff]

end

instance : DecidableEq Tree :=
  fun _ _ => decidable_of_iff _ same_iff

end Tree

namespace Reading

def isSpace (c : Char) : Bool :=
  c == ' ' || c == '\t' || c == '\n' || c == '\r'

def skipSpaces (cs : List Char) : List Char :=
  cs.dropWhile isSpace

def hexValue? (c : Char) : Option Nat :=
  if c.isDigit then some (c.toNat - '0'.toNat)
  else if 'a' ≤ c ∧ c ≤ 'f' then some (c.toNat - 'a'.toNat + 10)
  else if 'A' ≤ c ∧ c ≤ 'F' then some (c.toNat - 'A'.toNat + 10)
  else none

def fourDigits? : List Char → Option (Nat × List Char)
  | a :: b :: c :: d :: rest => do
    let a ← hexValue? a
    let b ← hexValue? b
    let c ← hexValue? c
    let d ← hexValue? d
    some (((a * 16 + b) * 16 + c) * 16 + d, rest)
  | _ => none

def escaped? (c : Char) : Option Nat :=
  match c with
  | '"' => some 0x22
  | '\\' => some 0x5C
  | '/' => some 0x2F
  | 'b' => some 0x08
  | 'f' => some 0x0C
  | 'n' => some 0x0A
  | 'r' => some 0x0D
  | 't' => some 0x09
  | _ => none

/-- The units of a text up to its closing quote: the code points of plain characters, and sixteen
    bits for an escape. Every unit takes a character, so `fuel` above the length is enough. -/
def units : Nat → List Char → Option (List Nat × List Char)
  | 0, _ => none
  | _ + 1, [] => none
  | _ + 1, '"' :: rest => some ([], rest)
  | fuel + 1, '\\' :: 'u' :: rest => do
    let (unit, rest) ← fourDigits? rest
    let (more, rest) ← units fuel rest
    some (unit :: more, rest)
  | fuel + 1, '\\' :: c :: rest => do
    let unit ← escaped? c
    let (more, rest) ← units fuel rest
    some (unit :: more, rest)
  | fuel + 1, c :: rest =>
    if c.toNat < 0x20 ∨ c = '\\' then none
    else do
      let (more, rest) ← units fuel rest
      some (c.toNat :: more, rest)

def isHigh (unit : Nat) : Bool :=
  0xD800 ≤ unit && unit < 0xDC00

def isLow (unit : Nat) : Bool :=
  0xDC00 ≤ unit && unit < 0xE000

/-- The characters of units, unless a surrogate among them has no partner. -/
def characters? : List Nat → Option (List Char)
  | [] => some []
  | [unit] => if isHigh unit || isLow unit then none else some [Char.ofNat unit]
  | unit :: next :: rest =>
    if isHigh unit then
      if isLow next then
        (characters? rest).map
          (Char.ofNat (0x10000 + (unit - 0xD800) * 0x400 + (next - 0xDC00)) :: ·)
      else none
    else if isLow unit then none
    else (characters? (next :: rest)).map (Char.ofNat unit :: ·)

def text? (cs : List Char) : Option (Option String × List Char) := do
  let (units, rest) ← units (cs.length + 1) cs
  some ((characters? units).map String.ofList, rest)

def digits (cs : List Char) : List Char × List Char :=
  (cs.takeWhile Char.isDigit, cs.dropWhile Char.isDigit)

def wholeDigits? : List Char → Option (List Char × List Char)
  | '0' :: rest =>
    match rest with
    | c :: _ => if c.isDigit then none else some (['0'], rest)
    | [] => some (['0'], [])
  | cs =>
    let (whole, rest) := digits cs
    if whole.isEmpty then none else some (whole, rest)

def fractionDigits? : List Char → Option (List Char × List Char)
  | '.' :: rest =>
    let (fraction, rest) := digits rest
    if fraction.isEmpty then none else some ('.' :: fraction, rest)
  | rest => some ([], rest)

def exponentDigits? : List Char → Option (List Char × List Char)
  | c :: rest =>
    if c = 'e' ∨ c = 'E' then
      let (sign, rest) := match rest with
        | '+' :: rest => (['+'], rest)
        | '-' :: rest => (['-'], rest)
        | rest => ([], rest)
      let (exponent, rest) := digits rest
      if exponent.isEmpty then none else some (c :: sign ++ exponent, rest)
    else some ([], c :: rest)
  | [] => some ([], [])

def number? (cs : List Char) : Option (List Char × List Char) := do
  let (sign, rest) := match cs with
    | '-' :: rest => (['-'], rest)
    | rest => ([], rest)
  let (whole, rest) ← wholeDigits? rest
  let (fraction, rest) ← fractionDigits? rest
  let (exponent, rest) ← exponentDigits? rest
  some (sign ++ whole ++ fraction ++ exponent, rest)

def wordNumbers : List (List Char) :=
  ["NaN".toList, "Infinity".toList, "-Infinity".toList]

def dropWord? (word cs : List Char) : Option (List Char) :=
  if word.isPrefixOf cs then some (cs.drop word.length) else none

def atom? (dialect : Bool) (cs : List Char) : Option (Tree × List Char) :=
  match cs with
  | 'n' :: _ => (dropWord? "null".toList cs).map (Tree.null, ·)
  | 't' :: _ => (dropWord? "true".toList cs).map (Tree.bool true, ·)
  | 'f' :: _ => (dropWord? "false".toList cs).map (Tree.bool false, ·)
  | _ =>
    match if dialect then wordNumbers.find? (·.isPrefixOf cs) else none with
    | some word => some (.number word, cs.drop word.length)
    | none => (number? cs).map fun (written, rest) => (.number written, rest)

mutual

/-- A value at the head of the input, which starts with no space. Twice the length of the input and
    two more are enough `fuel`. -/
def value? (dialect : Bool) : Nat → List Char → Option (Tree × List Char)
  | 0, _ => none
  | _ + 1, [] => none
  | fuel + 1, c :: rest =>
    if c = '"' then (text? rest).map fun (s, rest) => (.text s, rest)
    else if c = '[' then
      match skipSpaces rest with
      | ']' :: rest => some (.list [], rest)
      | rest => (items? dialect fuel rest).map fun (items, rest) => (.list items, rest)
    else if c = '\x7b' then
      match skipSpaces rest with
      | '\x7d' :: rest => some (.object [], rest)
      | rest => (entries? dialect fuel rest).map fun (entries, rest) => (.object entries, rest)
    else atom? dialect (c :: rest)

def items? (dialect : Bool) : Nat → List Char → Option (List Tree × List Char)
  | 0, _ => none
  | fuel + 1, cs => do
    let (item, rest) ← value? dialect fuel cs
    match skipSpaces rest with
    | ']' :: rest => some ([item], rest)
    | ',' :: rest => do
      let (more, rest) ← items? dialect fuel (skipSpaces rest)
      some (item :: more, rest)
    | _ => none

def entries? (dialect : Bool) : Nat → List Char → Option (List (Option String × Tree) × List Char)
  | 0, _ => none
  | _ + 1, [] => none
  | fuel + 1, c :: rest =>
    if c = '"' then do
      let (key, rest) ← text? rest
      match skipSpaces rest with
      | ':' :: rest => do
        let (value, rest) ← value? dialect fuel (skipSpaces rest)
        match skipSpaces rest with
        | '\x7d' :: rest => some ([(key, value)], rest)
        | ',' :: rest => do
          let (more, rest) ← entries? dialect fuel (skipSpaces rest)
          some ((key, value) :: more, rest)
        | _ => none
      | _ => none
    else none

end

end Reading

/-- The tree of a whole text; `dialect` lets `NaN` and the infinities pass for numbers. -/
def Tree.ofChars? (dialect : Bool) (cs : List Char) : Option Tree :=
  match Reading.value? dialect (2 * cs.length + 2) (Reading.skipSpaces cs) with
  | some (tree, rest) => if (Reading.skipSpaces rest).isEmpty then some tree else none
  | none => none

def Tree.ofText? (text : String) : Option Tree :=
  Tree.ofChars? false text.toList

end SceneScript.Json
