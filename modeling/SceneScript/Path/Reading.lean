import SceneScript.Error
import SceneScript.Number.Decimal

/- Reading path data. The readers work on the rest of the text, so that where they stop is a rest
   too; only the last step turns it into a position. -/
namespace SceneScript.Path

inductive Argument where
  | number (value : Number.Decimal)
  | flag (value : Bool)
  deriving DecidableEq, Repr

structure ReadSegment where
  letter : Char
  arguments : List Argument
  deriving DecidableEq, Repr

inductive Stop where
  | data (rest : List Char)
  | number (rest : List Char)
  | atEnd
  deriving DecidableEq, Repr

namespace Reading

def isSpace (c : Char) : Bool :=
  c == ' ' || c == '\t' || c == '\n' || c == '\r'

def skipSpaces (cs : List Char) : List Char :=
  cs.dropWhile isSpace

def skipComma : List Char → List Char
  | ',' :: rest => rest
  | rest => rest

inductive Slot where
  | number
  | flag
  deriving DecidableEq, Repr

def slots? (letter : Char) : Option (List Slot) :=
  match letter.toLower with
  | 'm' | 'l' | 't' => some [.number, .number]
  | 'h' | 'v' => some [.number]
  | 'c' => some (List.replicate 6 .number)
  | 's' | 'q' => some (List.replicate 4 .number)
  | 'a' => some [.number, .number, .number, .flag, .flag, .number, .number]
  | 'z' => some []
  | _ => none

def digitRun (cs : List Char) : List Char × List Char :=
  (cs.takeWhile Char.isDigit, cs.dropWhile Char.isDigit)

/-- The exponent that may follow a number, and the rest. A mark before `m` or `x` belongs to a unit,
    not to the number. -/
def exponentRun? : List Char → Option (List Char × List Char)
  | e :: rest =>
    if e = 'e' ∨ e = 'E' then
      match rest with
      | [] => none
      | c :: after =>
        if c = 'm' ∨ c = 'x' then some ([], e :: rest)
        else if c = '+' ∨ c = '-' then
          let (digits, after) := digitRun after
          some (e :: c :: digits, after)
        else if c.isDigit then
          let (digits, after) := digitRun rest
          some (e :: digits, after)
        else none
    else some ([], e :: rest)
  | [] => some ([], [])

def signRun : List Char → List Char × List Char
  | '+' :: rest => (['+'], rest)
  | '-' :: rest => (['-'], rest)
  | rest => ([], rest)

def numberRun? (cs : List Char) : Option (List Char × List Char) := do
  let (sign, rest) := signRun cs
  let (whole, rest) := digitRun rest
  let (fraction, rest) := match rest with
    | '.' :: rest => ('.' :: (digitRun rest).1, (digitRun rest).2)
    | rest => ([], rest)
  if whole.isEmpty && fraction.isEmpty then none
  else do
    let (exponent, rest) ← exponentRun? rest
    some (sign ++ whole ++ fraction ++ exponent, rest)

def number (cs : List Char) : Except Stop (Argument × List Char) :=
  if cs.isEmpty then .error .atEnd
  else
    let start := skipSpaces cs
    match numberRun? start with
    | none => .error (.number start)
    | some (written, rest) =>
      match Number.Decimal.ofChars? written with
      | none => .error (.number start)
      | some value =>
        if value.isFinite then .ok (.number value, skipComma (skipSpaces rest))
        else .error (.number start)

def flag (cs : List Char) : Except Stop (Argument × List Char) :=
  match skipSpaces cs with
  | [] => .error .atEnd
  | '0' :: rest => .ok (.flag false, skipSpaces (skipComma rest))
  | '1' :: rest => .ok (.flag true, skipSpaces (skipComma rest))
  | rest => .error (.data rest)

def argument : Slot → List Char → Except Stop (Argument × List Char)
  | .number => number
  | .flag => flag

def arguments : List Slot → List Char → Except Stop (List Argument × List Char)
  | [], cs => .ok ([], cs)
  | slot :: slots, cs => do
    let (a, rest) ← argument slot cs
    let (as, rest) ← arguments slots rest
    .ok (a :: as, rest)

def startsNumber (c : Char) : Bool :=
  c.isDigit || c == '.' || c == '-' || c == '+'

def repeated? (previous : Char) : Option Char :=
  if previous = 'M' then some 'L'
  else if previous = 'm' then some 'l'
  else if previous = 'Z' ∨ previous = 'z' then none
  else some previous

/-- The letter of the next segment and where its arguments begin. The first one is a move. -/
def heading? (previous : Option Char) (c : Char) (rest : List Char) : Option (Char × List Char) :=
  match previous with
  | none => if c = 'M' ∨ c = 'm' then some (c, rest) else none
  | some p =>
    if (slots? c).isSome then some (c, rest)
    else if startsNumber c then (repeated? p).map (·, c :: rest)
    else none

def carried (previous : Option Char) (named : Bool) (letter : Char) : Option Char :=
  if named then some letter
  else match previous with
    | some 'M' => some 'M'
    | some 'm' => some 'm'
    | _ => some letter

/-- Segments up to the end of the text; a segment takes at least one character, so `fuel` above the
    length of the text is enough. -/
def segments : Nat → Option Char → List Char → Except Stop (List ReadSegment)
  | 0, _, _ => .error .atEnd
  | fuel + 1, previous, cs =>
    match skipSpaces cs with
    | [] => .ok []
    | c :: rest =>
      match heading? previous c rest with
      | none => .error (.data (c :: rest))
      | some (letter, rest) => do
        let (as, after) ← arguments ((slots? letter).getD []) rest
        let more ← segments fuel (carried previous (slots? c).isSome letter) after
        .ok (⟨letter, as⟩ :: more)

def fault (length : Nat) : Stop → PathFault
  | .data rest => .unexpectedData (length - rest.length + 1)
  | .number rest => .invalidNumber (length - rest.length + 1)
  | .atEnd => .unexpectedEnd

end Reading

def read (text : String) : Except PathFault (List ReadSegment) :=
  let cs := text.toList
  match Reading.segments (cs.length + 1) none cs with
  | .ok segments => .ok segments
  | .error stop => .error (Reading.fault cs.length stop)

def validate (text : String) : Except Error Unit :=
  match read text with
  | .ok _ => .ok ()
  | .error fault => .error (.invalidPath fault)

end SceneScript.Path
