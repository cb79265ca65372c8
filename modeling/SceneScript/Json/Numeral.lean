import SceneScript.Number.Decimal

/- The numbers that JSON digits stand for: words of 64 bits where they fit, else doubles. A double
   comes from the leading digits that fit a word and one multiplication or division by a power of
   ten, so that it may be next to the nearest one. -/
namespace SceneScript.Json

inductive Numeral where
  | natural (n : Nat)
  | negative (n : Nat)
  | double (x : Float)

namespace Numeral

def toFloat : Numeral → Float
  | natural n => Float.ofNat n
  | negative n => -Float.ofNat n
  | double x => x

def toInt? : Numeral → Option Int
  | natural n => some n
  | negative n => some (-n)
  | double _ => none

def gather (word : Nat) : List Char → Nat × List Char
  | [] => (word, [])
  | c :: rest =>
    let next := 10 * word + (c.toNat - '0'.toNat)
    if next < Nat.pow 2 64 then gather next rest else (word, c :: rest)

/-- `magnitude · 10 ^ exponent` unless it overflows. Beyond the powers that doubles have, division
    goes in steps, at the third of which nothing is left. -/
def scale? : Nat → Float → Int → Option Float
  | 0, magnitude, _ => some magnitude
  | fuel + 1, magnitude, exponent =>
    if exponent.natAbs ≤ 308 then
      let power := Float.ofScientific 1 false exponent.natAbs
      if 0 ≤ exponent then
        let product := magnitude * power
        if product.isInf then none else some product
      else some (magnitude / power)
    else if magnitude == 0 then some magnitude
    else if 0 ≤ exponent then none
    else scale? fuel (magnitude / Float.ofScientific 1 false 308) (exponent + 308)

/-- An exponent beyond 32 bits makes zero of everything that it does not overflow. -/
def double? (isNegative : Bool) (word : Nat) (exponent : Int) (mark : Option (Bool × List Char)) :
    Option Numeral :=
  let magnitude := match mark with
    | none => scale? 8 (Float.ofNat word) exponent
    | some (below, digits) =>
      let written := Number.digitsValue digits
      if written < Nat.pow 2 31 then
        scale? 8 (Float.ofNat word) (if below then exponent - written else exponent + written)
      else if word ≠ 0 ∧ !below then none
      else some 0
  magnitude.map fun x => double (if isNegative then -x else x)

def mark? (cs : List Char) : Option (Bool × List Char) :=
  match cs with
  | _ :: '-' :: digits => some (true, digits)
  | _ :: '+' :: digits => some (false, digits)
  | _ :: digits => some (false, digits)
  | [] => none

def ofChars? (written : List Char) : Option Numeral :=
  let (isNegative, rest) := Number.takeSign written
  let (word, long) := gather 0 (rest.takeWhile Char.isDigit)
  match rest.dropWhile Char.isDigit with
  | [] =>
    if !long.isEmpty then double? isNegative word long.length none
    else if !isNegative then some (natural word)
    else if word = 0 ∨ Nat.pow 2 63 < word then some (double (-Float.ofNat word))
    else some (negative word)
  | '.' :: rest =>
    let fraction := rest.takeWhile Char.isDigit
    let (word, ignored) := gather word fraction
    let places : Int := fraction.length - ignored.length
    double? isNegative word (long.length - places) (mark? (rest.dropWhile Char.isDigit))
  | rest => double? isNegative word long.length (mark? rest)

end Numeral

end SceneScript.Json
