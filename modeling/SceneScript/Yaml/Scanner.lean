import SceneScript.Yaml.Block
import SceneScript.Yaml.Name

/- The tokens of a YAML text. Indentation opens and closes blocks; a key is recognized by the colon
   behind it, so that the tokens of a key are put in afterwards. -/
namespace SceneScript.Yaml

/-- A place where a key may have begun: the number of tokens before it, its line, its column and the
    bytes of the line before it. -/
structure KeyPlace where
  required : Bool
  position : Nat
  line : Nat
  column : Nat
  offset : Nat

structure Scanner where
  cursor : Cursor
  tokens : Array Token
  indent : Int
  outer : List Int
  flow : Nat
  keyAllowed : Bool
  places : List (Option KeyPlace)

namespace Scanner

def start (c : Cursor) : Scanner :=
  ⟨c, #[], -1, [], 0, true, [none]⟩

def push (s : Scanner) (t : Token) : Scanner :=
  { s with tokens := s.tokens.push t }

def mark (s : Scanner) (t : Token) (length : Nat) : Scanner :=
  { s.push t with cursor := s.cursor.skip length }

def insertToken (s : Scanner) (position : Nat) (t : Token) : Scanner :=
  { s with tokens := s.tokens.insertIdxIfInBounds position t }

def setPlace (s : Scanner) (place : Option KeyPlace) : Scanner :=
  { s with places := place :: s.places.drop 1 }

def place (s : Scanner) : Option KeyPlace :=
  s.places.head?.bind id

def dropPlace? (s : Scanner) : Option Scanner :=
  if s.place.any KeyPlace.required then none else some (s.setPlace none)

def savePlace? (s : Scanner) : Option Scanner :=
  if s.keyAllowed then do
    let s ← s.dropPlace?
    let required := s.flow == 0 && s.indent == s.cursor.column
    let c := s.cursor
    some (s.setPlace (some ⟨required, s.tokens.size, c.line, c.column, c.offset⟩))
  else some s

/-- The place of a key that ends here: on this line, and no more than 1024 bytes away. -/
def openPlace? (s : Scanner) : Option (Option KeyPlace) :=
  match s.place with
  | none => some none
  | some p =>
    if p.line = s.cursor.line ∧ s.cursor.offset ≤ p.offset + 1024 then some (some p)
    else if p.required then none
    else some none

def openBlock (s : Scanner) (column : Nat) (position : Option Nat) (t : Token) : Scanner :=
  if s.flow = 0 ∧ s.indent < column then
    let s := { s with indent := column, outer := s.indent :: s.outer }
    match position with
    | none => s.push t
    | some position => s.insertToken position t
  else s

def closeFrom (column : Int) : Int → List Int → Array Token → Int × List Int × Array Token
  | indent, [], tokens => (indent, [], tokens)
  | indent, next :: outer, tokens =>
    if column < indent then closeFrom column next outer (tokens.push .blockEnd)
    else (indent, next :: outer, tokens)

def closeBlocks (s : Scanner) (column : Int) : Scanner :=
  if s.flow = 0 then
    let (indent, outer, tokens) := closeFrom column s.indent s.outer s.tokens
    { s with indent, outer, tokens }
  else s

/-- Passes over blanks, comments and breaks. A tab does not count as a blank where a key may begin
    outside of brackets; after a break there a key may begin. -/
def toNext : Nat → Scanner → Scanner
  | 0, s => s
  | fuel + 1, s =>
    let tabs := s.flow != 0 || !s.keyAllowed
    let c := s.cursor.skipOrderMark.skipWhile fun d => d == ' ' || (tabs && d == '\t')
    let c := c.skipComment
    if startsBreak c.rest then
      toNext fuel { s with cursor := c.skipBreak, keyAllowed := s.keyAllowed || s.flow == 0 }
    else { s with cursor := c }

/-- Outside of brackets and key places nothing is left open before a directive or document mark. -/
def settle? (s : Scanner) : Option Scanner := do
  let s ← (s.closeBlocks (-1)).dropPlace?
  some { s with keyAllowed := false }

def streamEnd? (s : Scanner) : Option Scanner := do
  some ((← s.settle?).push .streamEnd)

def documentMark? (s : Scanner) (t : Token) : Option Scanner := do
  some ((← s.settle?).mark t 3)

def scanDirective? (s : Scanner) : Option Scanner := do
  let s ← s.settle?
  let (t, c) ← directive? s.cursor
  some { s.push t with cursor := c }

def openFlow? (s : Scanner) (t : Token) : Option Scanner := do
  let s ← s.savePlace?
  some { s.mark t 1 with flow := s.flow + 1, keyAllowed := true, places := none :: s.places }

def closeFlow? (s : Scanner) (t : Token) : Option Scanner := do
  let s ← s.dropPlace?
  some { s.mark t 1 with
    flow := s.flow - 1
    keyAllowed := false
    places := if s.flow = 0 then s.places else s.places.drop 1 }

def flowEntry? (s : Scanner) : Option Scanner := do
  let s ← s.dropPlace?
  some { s.mark .flowEntry 1 with keyAllowed := true }

/-- The entry of a block sequence; inside brackets it is left to the grammar. -/
def blockEntry? (s : Scanner) : Option Scanner :=
  if s.flow = 0 ∧ !s.keyAllowed then none
  else do
    let s ← (s.openBlock s.cursor.column none .blockSequence).dropPlace?
    some { s.mark .blockEntry 1 with keyAllowed := true }

def key? (s : Scanner) : Option Scanner :=
  if s.flow = 0 ∧ !s.keyAllowed then none
  else do
    let s ← (s.openBlock s.cursor.column none .blockMapping).dropPlace?
    some { s.mark .key 1 with keyAllowed := s.flow == 0 }

def value? (s : Scanner) : Option Scanner := do
  match ← s.openPlace? with
  | some p =>
    let s := (s.insertToken p.position .key).openBlock p.column (some p.position) .blockMapping
    some { (s.setPlace none).mark .value 1 with keyAllowed := false }
  | none =>
    let s := s.setPlace none
    if s.flow = 0 ∧ !s.keyAllowed then none
    else
      let s := s.openBlock s.cursor.column none .blockMapping
      some { s.mark .value 1 with keyAllowed := s.flow == 0 }

def leaf? (s : Scanner) (read : Scanner → Option (Token × Cursor)) : Option Scanner := do
  let s ← s.savePlace?
  let (t, c) ← read s
  some { s.push t with cursor := c, keyAllowed := false }

def block? (s : Scanner) (folded : Bool) : Option Scanner := do
  let s ← s.dropPlace?
  let (text, c) ← blockScalar? folded s.indent (s.cursor.skip 1)
  some { s.push (.scalar (String.ofList text) (if folded then .folded else .literal)) with
    cursor := c, keyAllowed := true }

def readQuoted (quote : Char) (style : Style) (s : Scanner) : Option (Token × Cursor) := do
  let (text, c) ← quoted? quote s.cursor
  some (.scalar (String.ofList text) style, c)

/-- After a plain scalar that a break follows, a key may begin. -/
def plainScalar? (s : Scanner) : Option Scanner := do
  let s ← s.savePlace?
  let (text, c, broken) ← plain? (s.flow != 0) (s.indent + 1) s.cursor
  some { s.push (.scalar (String.ofList text) .plain) with cursor := c, keyAllowed := broken }

def startsPlain (inFlow : Bool) : List Char → Bool
  | [] => false
  | c :: rest =>
    if c = '-' then !startsBlank rest
    else if c = '?' ∨ c = ':' then !inFlow && !endsWord rest
    else !([',', '[', ']', '\x7b', '\x7d', '#', '&', '*', '!', '|', '>', '\'', '"', '%', '@',
      '\x60'].contains c) && !isBlank c && !isBreak c

def step? (s : Scanner) : Option Scanner :=
  let s := toNext (s.cursor.total + 1) s
  let s := s.closeBlocks s.cursor.column
  let inFlow := s.flow != 0
  match s.cursor.rest with
  | [] => s.streamEnd?
  | c :: rest =>
    if s.cursor.column = 0 ∧ c = '%' then s.scanDirective?
    else if s.cursor.atMarker '-' then s.documentMark? .documentStart
    else if s.cursor.atMarker '.' then s.documentMark? .documentEnd
    else if c = '[' then s.openFlow? .flowSequence
    else if c = '\x7b' then s.openFlow? .flowMapping
    else if c = ']' then s.closeFlow? .flowSequenceEnd
    else if c = '\x7d' then s.closeFlow? .flowMappingEnd
    else if c = ',' then s.flowEntry?
    else if c = '-' ∧ endsWord rest then s.blockEntry?
    else if c = '?' ∧ (inFlow ∨ endsWord rest) then s.key?
    else if c = ':' ∧ (inFlow ∨ endsWord rest) then s.value?
    else if c = '*' then s.leaf? fun s => do
      let (name, c) ← anchorName? s.cursor
      some (.alias name, c)
    else if c = '&' then s.leaf? fun s => do
      let (name, c) ← anchorName? s.cursor
      some (.anchor name, c)
    else if c = '!' then s.leaf? fun s => tag? (s.flow != 0) s.cursor
    else if c = '|' ∧ !inFlow then s.block? false
    else if c = '>' ∧ !inFlow then s.block? true
    else if c = '\'' then s.leaf? (readQuoted '\'' .singleQuoted)
    else if c = '"' then s.leaf? (readQuoted '"' .doubleQuoted)
    else if startsPlain inFlow (c :: rest) then s.plainScalar?
    else none

/-- Reads tokens up to the end of the text. Each takes a character, so `fuel` above the length of
    the text is enough. -/
def run? : Nat → Scanner → Option (List Token)
  | 0, _ => none
  | fuel + 1, s => do
    let next ← s.step?
    if next.tokens.back? matches some .streamEnd then some next.tokens.toList
    else run? fuel next

end Scanner

def tokens? (text : List Char) : Option (List Token) := do
  let c ← Cursor.start? text
  Scanner.run? (c.total + 2) (.start c)

end SceneScript.Yaml
