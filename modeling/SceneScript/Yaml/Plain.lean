import SceneScript.Number.Decimal
import SceneScript.Yaml.Node

/- What plain scalars stand for. -/
namespace SceneScript.Yaml

def null? (s : String) : Bool :=
  s == "null" || s == "Null" || s == "NULL" || s == "~"

def bool? (s : String) : Option Bool :=
  if s = "true" ∨ s = "True" ∨ s = "TRUE" then some true
  else if s = "false" ∨ s = "False" ∨ s = "FALSE" then some false
  else none

def isDigitIn (base : Nat) (c : Char) : Bool :=
  (c.isDigit && c.toNat - '0'.toNat < base) ||
    (base == 16 && (('a' ≤ c && c ≤ 'f') || ('A' ≤ c && c ≤ 'F')))

def digitValue (c : Char) : Nat :=
  if c.isDigit then c.toNat - '0'.toNat else c.toLower.toNat - 'a'.toNat + 10

def digits? (base : Nat) (cs : List Char) : Option Nat :=
  if !cs.isEmpty && cs.all (isDigitIn base) then
    some (cs.foldl (fun n c => base * n + digitValue c) 0)
  else none

def based? : List Char → Option Nat
  | '0' :: 'x' :: cs => digits? 16 cs
  | '0' :: 'o' :: cs => digits? 8 cs
  | '0' :: 'b' :: cs => digits? 2 cs
  | _ => none

/-- Several digits that start with a zero, with or without a sign, are no decimal number. -/
def isPadded (cs : List Char) : Bool :=
  let digits := match cs with
    | '+' :: rest | '-' :: rest => rest
    | cs => cs
  1 < digits.length && digits.head? == some '0' && digits.all Char.isDigit

def natural? (cs : List Char) : Option Nat :=
  let body := match cs with
    | '+' :: rest => rest
    | cs => cs
  match based? body with
  | some n => some n
  | none => if isPadded cs then none else digits? 10 body

def negated? : List Char → Option Nat
  | '-' :: body =>
    match based? body with
    | some n => some n
    | none => if isPadded body then none else digits? 10 body
  | _ => none

def integer? (cs : List Char) : Option Int :=
  match natural? cs with
  | some n => some n
  | none => (negated? cs).map fun n => -(n : Int)

def infinity : Float := Float.ofBits 0x7FF0000000000000

def notANumber : Float := Float.ofBits 0x7FF8000000000000

def float? (s : String) : Option Float :=
  let cs := s.toList
  let body := match cs with
    | '+' :: rest => rest
    | cs => cs
  if [".inf".toList, ".Inf".toList, ".INF".toList].contains body then some infinity
  else if s = "-.inf" ∨ s = "-.Inf" ∨ s = "-.INF" then some (-infinity)
  else if s = ".nan" ∨ s = ".NaN" ∨ s = ".NAN" then some notANumber
  else
    let signed := match cs with
      | '+' :: '+' :: _ | '+' :: '-' :: _ => true
      | _ => false
    match if signed then none else Number.Decimal.ofChars? body with
    | some d => if d.isFinite then some d.toFloat else none
    | none => none

inductive Resolved where
  | null
  | bool (b : Bool)
  | whole (n : Int)
  | real (x : Float)
  | text (s : String)

/-- A whole number; of those beyond 64 bits a value is refused as long as 128 bits hold it, and
    beyond that they count as none. -/
def whole? (s : String) : Option (Option Int) :=
  match natural? s.toList with
  | some n =>
    if n < Nat.pow 2 64 then some (some n) else if n < Nat.pow 2 128 then none else some none
  | none =>
    match negated? s.toList with
    | some n =>
      if n ≤ Nat.pow 2 63 then some (some (-n)) else if n ≤ Nat.pow 2 127 then none else some none
    | none => some none

def resolvePlain? (s : String) : Option Resolved :=
  if s = "" ∨ null? s then some .null
  else match bool? s with
    | some b => some (.bool b)
    | none => do
      match ← whole? s with
      | some n => some (.whole n)
      | none =>
        if isPadded s.toList then some (.text s)
        else match float? s with
          | some x => some (.real x)
          | none => some (.text s)

def coreTag (name : String) : Tag :=
  .ofText ("tag:yaml.org,2002:" ++ name)

def isPrivate (tag : Option Tag) : Bool :=
  tag.any fun t => t.isLocal && t.isText

namespace Scalar

/-- The value of a scalar that nothing is expected of. A tag of the core schema asks for its type,
    and a local one that is no text asks for nothing; under any other, as in quotes, a scalar is a
    text. -/
def resolve? (s : Scalar) : Option Resolved :=
  if isPrivate s.tag then none
  else if s.style = .plain ∧ s.tag.all Tag.isLocal then resolvePlain? s.text
  else if s.tag = some (coreTag "bool") then (bool? s.text).map .bool
  else if s.tag = some (coreTag "int") then do
    match ← whole? s.text with
    | some n => some (.whole n)
    | none => none
  else if s.tag = some (coreTag "float") then (float? s.text).map .real
  else if s.tag = some (coreTag "null") then if null? s.text then some .null else none
  else some (.text s.text)

def isOpenTo (s : Scalar) (name : String) : Bool :=
  s.style == .plain || (s.style == .literal && s.tag == some (coreTag name))

/-- Whether a scalar is a null where one is allowed; a null tag on anything else is a fault. -/
def isNull? (s : Scalar) : Option Bool :=
  if s.style ≠ .plain then some false
  else match s.tag with
    | none => some (s.text == "" || null? s.text)
    | some tag =>
      if tag = coreTag "null" then if null? s.text then some true else none
      else some false

end Scalar

end SceneScript.Yaml
