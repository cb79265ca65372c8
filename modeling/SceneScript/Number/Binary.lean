/- Doubles as exact numbers. Every rule of this library that looks at a double's value looks at it
   here, so that it can be stated in natural numbers. -/
namespace SceneScript.Number

/-- What a double stands for; a finite one is `± significand · 2 ^ exponent`. -/
inductive Binary where
  | nan
  | infinite (negative : Bool)
  | finite (negative : Bool) (significand : Nat) (exponent : Int)
  deriving DecidableEq, Repr, Inhabited

namespace Binary

def ofWord (word : Nat) : Binary :=
  let negative := word / Nat.pow 2 63 % 2 == 1
  let exponent := word / Nat.pow 2 52 % Nat.pow 2 11
  let fraction := word % Nat.pow 2 52
  if exponent = Nat.pow 2 11 - 1 then
    if fraction = 0 then infinite negative else nan
  else if exponent = 0 then finite negative fraction (-1074)
  else finite negative (fraction + Nat.pow 2 52) (Int.ofNat exponent - 1075)

def ofFloat (x : Float) : Binary :=
  ofWord x.toBits.toNat

def isWhole (significand : Nat) (exponent : Int) : Bool :=
  0 ≤ exponent || significand % Nat.pow 2 (-exponent).toNat == 0

def wholePart (significand : Nat) (exponent : Int) : Nat :=
  significand * Nat.pow 2 exponent.toNat / Nat.pow 2 (-exponent).toNat

end Binary

/-- The quotient to the nearest whole number, a half going to the even neighbour. -/
def divHalfEven (numerator denominator : Nat) : Nat :=
  let quotient := numerator / denominator
  let twice := 2 * (numerator % denominator)
  if denominator < twice || (twice == denominator && quotient % 2 == 1) then quotient + 1
  else quotient

def roundHalfAway (x : Float) : Float :=
  match Binary.ofFloat x with
  | .finite negative significand exponent =>
    if 0 ≤ exponent then x
    else
      let unit := Nat.pow 2 (-exponent).toNat
      let rounded := ((2 * significand + unit) / (2 * unit)).toUInt64.toFloat
      if negative then -rounded else rounded
  | _ => x

end SceneScript.Number
