import SceneScript.Number.Decimal

/- The shortest decimal that reads back as a given double, and the text of a number. Shortest means
   on the coarsest decimal grid that has a point among the reals rounding to the double. -/
namespace SceneScript.Number

namespace Shortest

/-- The reals that round to `significand · 2 ^ exponent`, in quarters of the last binary place; the
    ends belong to it when the significand is even. Below a power of two the gap is half as wide. -/
structure Interval where
  low : Nat
  high : Nat
  closed : Bool
  deriving DecidableEq, Repr

def interval (significand : Nat) (exponent : Int) : Interval where
  low := if significand = Nat.pow 2 52 ∧ -1074 < exponent then 4 * significand - 1
    else 4 * significand - 2
  high := 4 * significand + 2
  closed := significand % 2 == 0

/-- One step of the grid `10 ^ scale` against a quarter of the last binary place, as a quotient. -/
def step (exponent scale : Int) : Nat × Nat :=
  (Nat.pow 10 scale.toNat * Nat.pow 2 (2 - exponent).toNat,
    Nat.pow 10 (-scale).toNat * Nat.pow 2 (exponent - 2).toNat)

def Interval.holds (i : Interval) (step : Nat × Nat) (digits : Nat) : Bool :=
  let point := digits * step.1
  if i.closed then i.low * step.2 ≤ point && point ≤ i.high * step.2
  else i.low * step.2 < point && point < i.high * step.2

/-- The grid point in the interval that is nearest to the value; a value in the middle takes the
    upper one. If any point of the grid is in the interval, one next to the value is. -/
def onGrid? (significand : Nat) (exponent scale : Int) : Option Nat :=
  let i := interval significand exponent
  let s := step exponent scale
  let value := 4 * significand * s.2
  let below := value / s.1
  let nearer := if s.1 ≤ 2 * (value % s.1) then below + 1 else below
  let farther := if nearer = below then below + 1 else below
  if i.holds s nearer then some nearer
  else if i.holds s farther then some farther
  else none

def search (significand : Nat) (exponent : Int) : Nat → Int → Option (Nat × Int)
  | 0, _ => none
  | tries + 1, scale =>
    match onGrid? significand exponent scale with
    | some digits => some (digits, scale)
    | none => search significand exponent tries (scale - 1)

/-- A power of ten above the value: `30103 / 100000` is just above the logarithm of two. -/
def ceiling (significand : Nat) (exponent : Int) : Int :=
  (((significand.log2 : Int) + 1 + exponent) * 30103).fdiv 100000 + 2

def exact (significand : Nat) (exponent : Int) : Nat × Int :=
  if 0 ≤ exponent then (significand * Nat.pow 2 exponent.toNat, 0)
  else (significand * Nat.pow 5 (-exponent).toNat, exponent)

end Shortest

/-- The shortest decimal that reads back as `± significand · 2 ^ exponent`, nearest to it among
    those; seventeen digits always suffice. -/
def shortest (negative : Bool) (significand : Nat) (exponent : Int) : Decimal :=
  let found := Shortest.search significand exponent 24 (Shortest.ceiling significand exponent)
  let (digits, scale) := found.getD (Shortest.exact significand exponent)
  Decimal.reduce ⟨negative, digits, scale⟩

/-- A number as a person writes it: the fewest digits that read back, never a power of ten, and
    zero without a sign. -/
def toChars (x : Float) : List Char :=
  match Binary.ofFloat x with
  | .nan => "NaN".toList
  | .infinite negative => (if negative then ['-'] else []) ++ "Infinity".toList
  | .finite negative significand exponent =>
    if significand = 0 then ['0']
    else (shortest negative significand exponent).toChars

def text (x : Float) : String :=
  String.ofList (toChars x)

end SceneScript.Number
