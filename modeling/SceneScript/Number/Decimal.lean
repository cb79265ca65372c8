import SceneScript.Number.Binary

/- Decimal numbers as they are written: a sign, digits and a power of ten. -/
namespace SceneScript.Number

/-- The number `± digits · 10 ^ exponent`. -/
structure Decimal where
  negative : Bool
  digits : Nat
  exponent : Int
  deriving DecidableEq, Repr, Inhabited

def digitsValue (cs : List Char) : Nat :=
  cs.foldl (fun value c => 10 * value + (c.toNat - '0'.toNat)) 0

def takeSign : List Char → Bool × List Char
  | '-' :: rest => (true, rest)
  | '+' :: rest => (false, rest)
  | rest => (false, rest)

def exponentOfChars? : List Char → Option Int
  | [] => some 0
  | c :: rest =>
    if c = 'e' ∨ c = 'E' then
      let (negative, digits) := takeSign rest
      if digits ≠ [] ∧ digits.all Char.isDigit then
        some (if negative then -(digitsValue digits : Int) else digitsValue digits)
      else none
    else none

namespace Decimal

def ofUnsigned? (negative : Bool) (cs : List Char) : Option Decimal := do
  let whole := cs.takeWhile Char.isDigit
  let (fraction, rest) := match cs.dropWhile Char.isDigit with
    | '.' :: rest => (rest.takeWhile Char.isDigit, rest.dropWhile Char.isDigit)
    | rest => ([], rest)
  if whole.isEmpty && fraction.isEmpty then none
  else do
    let exponent ← exponentOfChars? rest
    some ⟨negative, digitsValue (whole ++ fraction), exponent - fraction.length⟩

def ofChars? (cs : List Char) : Option Decimal :=
  let (negative, rest) := takeSign cs
  ofUnsigned? negative rest

/-- A number with digits other than zero lies in `[10 ^ (order - 1), 10 ^ order)`. -/
def order (d : Decimal) : Int :=
  (Nat.toDigits 10 d.digits).length + d.exponent

/-- Whether the nearest double is finite: half a unit above the largest one rounds to infinity. -/
def isFinite (d : Decimal) : Bool :=
  d.digits == 0 || d.order ≤ 308 ||
    (d.order == 309 &&
      d.digits * Nat.pow 10 d.exponent.toNat <
        (Nat.pow 2 1024 - Nat.pow 2 970) * Nat.pow 10 (-d.exponent).toNat)

/-- The nearest double. Powers far outside the range of doubles are never computed. -/
def toFloat (d : Decimal) : Float :=
  let magnitude : Float :=
    if d.digits = 0 ∨ d.order < -330 then 0
    else if 310 < d.order then Float.ofBits 0x7FF0000000000000
    else Float.ofScientific d.digits (d.exponent < 0) d.exponent.natAbs
  if d.negative then -magnitude else magnitude

def positional (digits : Nat) (exponent : Int) : List Char :=
  if 0 ≤ exponent then Nat.toDigits 10 digits ++ List.replicate exponent.toNat '0'
  else
    let places := (-exponent).toNat
    let written := (Nat.toDigits 10 digits).leftpad (places + 1) '0'
    written.take (written.length - places) ++ '.' :: written.drop (written.length - places)

def toChars (d : Decimal) : List Char :=
  (if d.negative then ['-'] else []) ++ positional d.digits d.exponent

def reduce (d : Decimal) : Decimal :=
  if _h : d.digits ≠ 0 ∧ d.digits % 10 = 0 then
    reduce { d with digits := d.digits / 10, exponent := d.exponent + 1 }
  else d
termination_by d.digits
decreasing_by exact Nat.div_lt_self (Nat.pos_of_ne_zero _h.1) (by decide)

end Decimal

end SceneScript.Number
