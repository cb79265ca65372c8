/- A place in a YAML text: what follows it, and its line and column. Line breaks are single
   characters here. -/
namespace SceneScript.Yaml

structure Cursor where
  rest : List Char
  line : Nat
  column : Nat
  offset : Nat
  /-- The length of the whole text, which no rest exceeds. -/
  total : Nat

/-- Line feed, and the line and paragraph separators; other breaks are line feeds by now. -/
def isBreak (c : Char) : Bool :=
  c == '\n' || c == '\u2028' || c == '\u2029'

def isBlank (c : Char) : Bool :=
  c == ' ' || c == '\t'

def isWordChar (c : Char) : Bool :=
  c.isAlphanum || c == '_' || c == '-'

def endsWord : List Char → Bool
  | [] => true
  | c :: _ => isBlank c || isBreak c

def startsBreak : List Char → Bool
  | [] => false
  | c :: _ => isBreak c

def startsBlank : List Char → Bool
  | [] => false
  | c :: _ => isBlank c

namespace Cursor

def skip (c : Cursor) (count : Nat) : Cursor :=
  { c with
    rest := c.rest.drop count
    column := c.column + count
    offset := (c.rest.take count).foldl (fun n d => n + d.utf8Size) c.offset }

def skipBreak (c : Cursor) : Cursor :=
  match c.rest with
  | [] => c
  | d :: rest =>
    if isBreak d then { c with rest, line := c.line + 1, column := 0, offset := 0 } else c

def span (c : Cursor) (p : Char → Bool) : List Char × Cursor :=
  let taken := c.rest.takeWhile p
  (taken, c.skip taken.length)

def skipWhile (c : Cursor) (p : Char → Bool) : Cursor :=
  (c.span p).2

def skipBlanks (c : Cursor) : Cursor :=
  c.skipWhile isBlank

/-- A line may begin with a byte order mark, which takes a column of it. -/
def skipOrderMark (c : Cursor) : Cursor :=
  if c.column = 0 ∧ c.rest.head? = some '\ufeff' then c.skip 1 else c

def skipComment (c : Cursor) : Cursor :=
  match c.rest with
  | '#' :: _ => c.skipWhile fun d => !isBreak d
  | _ => c

def finishLine? (c : Cursor) : Option Cursor :=
  let c := c.skipBlanks.skipComment
  match c.rest with
  | [] => some c
  | d :: _ => if isBreak d then some c.skipBreak else none

/-- Whether three marks of one kind begin a line and stand alone. -/
def atMarker (c : Cursor) (mark : Char) : Bool :=
  c.column == 0 && (c.rest.take 3 == [mark, mark, mark]) && endsWord (c.rest.drop 3)

def atDocumentMarker (c : Cursor) : Bool :=
  c.atMarker '-' || c.atMarker '.'

end Cursor

def isAllowed (c : Char) : Bool :=
  let n := c.toNat
  n == 0x09 || n == 0x0A || n == 0x0D || (0x20 ≤ n && n ≤ 0x7E) || n == 0x85 ||
    (0xA0 ≤ n && n ≤ 0xD7FF) || (0xE000 ≤ n && n ≤ 0xFFFD) || 0x10000 ≤ n

/-- Writes every carriage return and next-line control, and a line feed after a carriage return, as
    one line feed. -/
def unifyBreaks (text : List Char) : List Char :=
  (text.zip ((text.drop 1).map some ++ [none])).filterMap fun (c, next) =>
    if c = '\r' ∧ next = some '\n' then none
    else if c = '\r' ∨ c = '\u0085' then some '\n'
    else some c

def Cursor.start? (text : List Char) : Option Cursor :=
  if text.all isAllowed then
    let rest := unifyBreaks text
    some ⟨rest, 0, 0, 0, rest.length⟩
  else none

end SceneScript.Yaml
