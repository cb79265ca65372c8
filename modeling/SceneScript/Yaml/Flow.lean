import SceneScript.Yaml.Cursor

/- Scalars that run over line breaks: plain and quoted ones. -/
namespace SceneScript.Yaml

structure Gap where
  blanks : List Char
  breaks : List Char
  /-- Whether a break, or one that was escaped, came before. -/
  broken : Bool

/-- What a gap stands for: blanks in a line as they are; of line feeds one less than there are, but
    a space for a single one. Behind an escaped break nothing is taken away. -/
def Gap.fold (g : Gap) (escaped : Bool) : List Char :=
  if !g.broken then g.blanks
  else if escaped then g.breaks
  else match g.breaks with
    | ['\n'] => [' ']
    | '\n' :: more => more
    | breaks => breaks

/-- Passes over a gap. Blanks after a break do not count; with a `margin`, no tab may stand there to
    the left of it. Every step takes a character, so `fuel` above the length is enough. -/
def gap? (margin : Option Int) : Nat → Gap → Cursor → Option (Gap × Cursor)
  | 0, _, _ => none
  | fuel + 1, g, c =>
    match c.rest with
    | [] => some (g, c)
    | d :: _ =>
      if isBlank d then
        if !g.broken then gap? margin fuel { g with blanks := g.blanks ++ [d] } (c.skip 1)
        else if d = '\t' ∧ margin.any (fun m => (c.column : Int) < m) then none
        else gap? margin fuel g (c.skip 1)
      else if isBreak d then
        gap? margin fuel ⟨[], g.breaks ++ [d], true⟩ c.skipBreak
      else some (g, c)

/-- One word of a plain scalar. Inside brackets a colon may not touch one of their marks. -/
def word? (inFlow : Bool) : List Char → Option (List Char)
  | [] => some []
  | c :: rest =>
    if isBlank c || isBreak c then some []
    else if inFlow && c == ':' && rest.head?.any [',', '?', '[', ']', '\x7b', '\x7d'].contains then
      none
    else if c == ':' && endsWord rest then some []
    else if inFlow && [',', '[', ']', '\x7b', '\x7d'].contains c then some []
    else (word? inFlow rest).map (c :: ·)

/-- The rest of a plain scalar after `sofar` and a gap: its text, where it ends, and whether a break
    comes before that place. -/
def plainFrom? (inFlow : Bool) (margin : Int) :
    Nat → List Char → Gap → Cursor → Option (List Char × Cursor × Bool)
  | 0, _, _, _ => none
  | fuel + 1, sofar, g, c =>
    if c.atDocumentMarker || c.rest.head? == some '#' then some (sofar, c, g.broken)
    else do
      let word ← word? inFlow c.rest
      if word.isEmpty then some (sofar, c, g.broken)
      else
        let sofar := sofar ++ g.fold false ++ word
        let c := c.skip word.length
        let (g, c) ← gap? (some margin) (c.total + 1) ⟨[], [], false⟩ c
        if g.blanks.isEmpty && !g.broken then some (sofar, c, false)
        else if !inFlow && (c.column : Int) < margin then some (sofar, c, g.broken)
        else plainFrom? inFlow margin fuel sofar g c

def plain? (inFlow : Bool) (margin : Int) (c : Cursor) : Option (List Char × Cursor × Bool) :=
  plainFrom? inFlow margin (c.total + 1) [] ⟨[], [], false⟩ c

def hexValue? (c : Char) : Option Nat :=
  if c.isDigit then some (c.toNat - '0'.toNat)
  else if 'a' ≤ c ∧ c ≤ 'f' then some (c.toNat - 'a'.toNat + 10)
  else if 'A' ≤ c ∧ c ≤ 'F' then some (c.toNat - 'A'.toNat + 10)
  else none

def hexNumber? (cs : List Char) : Option Nat :=
  cs.foldlM (fun n c => (hexValue? c).map (16 * n + ·)) 0

def scalarValue? (n : Nat) : Option Char :=
  if (0xD800 ≤ n ∧ n ≤ 0xDFFF) ∨ 0x10FFFF < n then none else some (Char.ofNat n)

def escape? : List Char → Option (Char × Nat)
  | [] => none
  | c :: rest =>
    let digits (count : Nat) : Option (Char × Nat) :=
      if (rest.take count).length < count then none
      else do
        let d ← scalarValue? (← hexNumber? (rest.take count))
        some (d, count + 1)
    match c with
    | '0' => some ('\x00', 1)
    | 'a' => some ('\x07', 1)
    | 'b' => some ('\x08', 1)
    | 't' | '\t' => some ('\t', 1)
    | 'n' => some ('\n', 1)
    | 'v' => some ('\x0b', 1)
    | 'f' => some ('\x0c', 1)
    | 'r' => some ('\r', 1)
    | 'e' => some ('\x1b', 1)
    | ' ' => some (' ', 1)
    | '"' => some ('"', 1)
    | '/' => some ('/', 1)
    | '\\' => some ('\\', 1)
    | 'N' => some ('\u0085', 1)
    | '_' => some ('\u00a0', 1)
    | 'L' => some ('\u2028', 1)
    | 'P' => some ('\u2029', 1)
    | 'x' => digits 2
    | 'u' => digits 4
    | 'U' => digits 8
    | _ => none

/-- The part of a quoted scalar up to a blank, a break or the closing quote, and whether it ends in
    an escaped break, which is passed over. -/
def chunk? (quote : Char) : Nat → Cursor → Option (List Char × Bool × Cursor)
  | 0, _ => none
  | fuel + 1, c =>
    match c.rest with
    | [] => some ([], false, c)
    | d :: rest =>
      if isBlank d || isBreak d then some ([], false, c)
      else if d = quote then
        if quote = '\'' ∧ rest.head? = some '\'' then do
          let (more, escaped, c) ← chunk? quote fuel (c.skip 2)
          some ('\'' :: more, escaped, c)
        else some ([], false, c)
      else if quote = '"' ∧ d = '\\' then
        if startsBreak rest then some ([], true, (c.skip 1).skipBreak)
        else do
          let (e, length) ← escape? rest
          let (more, escaped, c) ← chunk? quote fuel (c.skip (1 + length))
          some (e :: more, escaped, c)
      else do
        let (more, escaped, c) ← chunk? quote fuel (c.skip 1)
        some (d :: more, escaped, c)

def quotedFrom? (quote : Char) : Nat → List Char → Cursor → Option (List Char × Cursor)
  | 0, _, _ => none
  | fuel + 1, sofar, c =>
    if c.atDocumentMarker || c.rest.isEmpty then none
    else do
      let (part, escaped, c) ← chunk? quote (c.total + 1) c
      let sofar := sofar ++ part
      if c.rest.head? = some quote then some (sofar, c.skip 1)
      else do
        let (g, c) ← gap? none (c.total + 1) ⟨[], [], escaped⟩ c
        quotedFrom? quote fuel (sofar ++ g.fold escaped) c

def quoted? (quote : Char) (c : Cursor) : Option (List Char × Cursor) :=
  quotedFrom? quote (c.total + 1) [] (c.skip 1)

end SceneScript.Yaml
