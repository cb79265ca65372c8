import SceneScript.Number.Decimal

/- Coordinates of path data: whole numbers as such, others to three places. -/
namespace SceneScript.Number

/-- Three places of `± significand · 2 ^ exponent`, a half going to the even neighbour. The sign
    stays when the digits are all zero. -/
def thousandths (negative : Bool) (significand : Nat) (exponent : Int) : Decimal :=
  let numerator := significand * 1000 * Nat.pow 2 exponent.toNat
  ⟨negative, divHalfEven numerator (Nat.pow 2 (-exponent).toNat), -3⟩

/-- The decimal that a coordinate is written as: below `10 ^ 15` a whole one has no places. -/
def coordinateDecimal (negative : Bool) (significand : Nat) (exponent : Int) : Decimal :=
  let whole := Binary.wholePart significand exponent
  if Binary.isWhole significand exponent ∧ whole < Nat.pow 10 15 then
    ⟨negative && whole != 0, whole, 0⟩
  else thousandths negative significand exponent

def coordinateChars (x : Float) : List Char :=
  match Binary.ofFloat x with
  | .nan => "NaN".toList
  | .infinite negative => (if negative then ['-'] else []) ++ "inf".toList
  | .finite negative significand exponent =>
    (coordinateDecimal negative significand exponent).toChars

def coordinate (x : Float) : String :=
  String.ofList (coordinateChars x)

end SceneScript.Number
