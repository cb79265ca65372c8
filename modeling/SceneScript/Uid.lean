import SceneScript.Error
import SceneScript.Text.Blank

/- Suffixes of generated names. A canvas draws its first suffix with number one. -/
namespace SceneScript

structure Ambient where
  seconds : Nat → Int
  salt : Nat → Fin 10000
  bits : Nat → BitVec 128

namespace Uid

inductive Strategy where
  /-- The seconds since 1970 and a number below ten thousand. -/
  | timestamp
  | sequential
  | uuid
  | custom (texts : Nat → String)

def Strategy.name : Strategy → String
  | timestamp => "timestamp"
  | sequential => "sequential"
  | uuid => "uuid"
  | custom _ => "custom"

/-- The strategy of a name between any blanks; without a name, timestamps. -/
def Strategy.ofText? : Option String → Except Error Strategy
  | none => .ok timestamp
  | some text =>
    let name := Text.trim text
    if name = "timestamp" then .ok timestamp
    else if name = "sequential" then .ok sequential
    else if name = "uuid" then .ok uuid
    else .error (.config (.unknownStrategy name))

/-- One of the 32 digits; the thirteenth is the version, and the seventeenth is `8` to `b`. -/
def uuidDigit (bits : BitVec 128) (place : Nat) : Char :=
  let digit := bits.toNat / Nat.pow 16 (31 - place) % 16
  if place = 12 then '4'
  else if place = 16 then Text.hexDigit (8 + digit % 4)
  else Text.hexDigit digit

def uuidText (bits : BitVec 128) : String :=
  String.ofList ((List.range 32).map (uuidDigit bits))

def Strategy.suffix (ambient : Ambient) : Strategy → Nat → String
  | timestamp, n => toString (ambient.seconds n) ++ "_" ++ toString (ambient.salt n).val
  | sequential, n => toString n
  | uuid, n => uuidText (ambient.bits n)
  | custom texts, n => texts n

end Uid

end SceneScript
