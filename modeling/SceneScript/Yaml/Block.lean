import SceneScript.Yaml.Cursor

/- Block scalars, which end where their indentation does. -/
namespace SceneScript.Yaml

inductive Chomping where
  | strip
  | clip
  | keep
  deriving DecidableEq, Repr

def chomping? : Char → Option Chomping
  | '+' => some .keep
  | '-' => some .strip
  | _ => none

def increment? (c : Cursor) : Option (Option Nat × Cursor) :=
  match c.rest with
  | d :: _ =>
    if d = '0' then none
    else if d.isDigit then some (some (d.toNat - '0'.toNat), c.skip 1)
    else some (none, c)
  | [] => some (none, c)

def chompingAt (c : Cursor) : Option Chomping × Cursor :=
  match c.rest.head?.bind chomping? with
  | some k => (some k, c.skip 1)
  | none => (none, c)

def header? (c : Cursor) : Option (Chomping × Option Nat × Cursor) :=
  match chompingAt c with
  | (some k, c) => do
    let (digit, c) ← increment? c
    some (k, digit, c)
  | (none, c) => do
    let (digit, c) ← increment? c
    match digit with
    | none => some (.clip, none, c)
    | some digit =>
      let (k, c) := chompingAt c
      some (k.getD .clip, some digit, c)

/-- Empty lines: their breaks, and the widest indentation among them and the next line. Where the
    indentation is not known yet, all spaces count for it. -/
def emptyLines? (indent : Option Nat) :
    Nat → List Char → Nat → Cursor → Option (List Char × Nat × Cursor)
  | 0, _, _, _ => none
  | fuel + 1, breaks, widest, c =>
    let spaces := (c.rest.takeWhile (· == ' ')).length
    let count := match indent with
      | none => spaces
      | some n => min spaces (n - c.column)
    let c := c.skip count
    let widest := max widest c.column
    let inside := indent.all fun n => c.column < n
    match c.rest with
    | [] => some (breaks, widest, c)
    | d :: _ =>
      if inside && d == '\t' then none
      else if isBreak d then emptyLines? indent fuel (breaks ++ [d]) widest c.skipBreak
      else some (breaks, widest, c)

structure BlockText where
  text : List Char
  last : List Char
  blank : Bool
  empty : List Char

/-- A folded break between two lines that do not begin with a blank is a space, or nothing before
    empty lines. -/
def BlockText.join (t : BlockText) (folded nextBlank : Bool) : List Char :=
  if folded && t.last == ['\n'] && !t.blank && !nextBlank then
    (if t.empty.isEmpty then t.text ++ [' '] else t.text) ++ t.empty
  else t.text ++ t.last ++ t.empty

def blockLines? (folded : Bool) (indent : Nat) :
    Nat → BlockText → Cursor → Option (BlockText × Cursor)
  | 0, _, _ => none
  | fuel + 1, t, c =>
    if c.column ≠ indent ∨ c.rest.isEmpty then some (t, c)
    else do
      let blank := startsBlank c.rest
      let (line, c) := c.span fun d => !isBreak d
      let last := (c.rest.take 1)
      let c := c.skipBreak
      let (empty, _, c) ← emptyLines? (some indent) (c.total + 1) [] 0 c
      blockLines? folded indent fuel ⟨t.join folded blank ++ line, last, blank, empty⟩ c

def BlockText.finish (t : BlockText) : Chomping → List Char
  | .strip => t.text
  | .clip => t.text ++ t.last
  | .keep => t.text ++ t.last ++ t.empty

def blockScalar? (folded : Bool) (parent : Int) (c : Cursor) : Option (List Char × Cursor) := do
  let (k, digit, c) ← header? c
  let c ← c.finishLine?
  let outer := parent.toNat
  let given := digit.map fun n => if 0 ≤ parent then outer + n else n
  let (empty, widest, c) ← emptyLines? given (c.total + 1) [] 0 c
  let indent := given.getD (max widest (max (parent + 1).toNat 1))
  let (t, c) ← blockLines? folded indent (c.total + 1) ⟨[], [], false, empty⟩ c
  some (t.finish k, c)

end SceneScript.Yaml
