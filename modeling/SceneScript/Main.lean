import SceneScript.CommandLine
import Std.Time.DateTime.Timestamp

/- The program: time, chance, the environment and files are looked up here, and nowhere else. -/
namespace SceneScript

def usageText : String :=
  "Usage: scenescript render [--format yaml|json] [--tag|--html] FILE\n" ++
    "       scenescript attributes"

def environment : IO Environment := do
  return ⟨← IO.getEnv "RAFA_RAPHAEL_VERSION", ← IO.getEnv "RAFA_RAPHAEL_SRC",
    ← IO.getEnv "RAFA_UID_STRATEGY"⟩

def draws (seed : Nat) : Nat → Nat
  | 0 => (stdNext (mkStdGen seed)).1
  | n + 1 => (stdNext (mkStdGen (draws seed n + seed))).1

def ambientNow : IO Ambient := do
  let now ← Std.Time.Timestamp.now
  let bytes ← IO.getRandomBytes 16
  let seed := bytes.toList.foldl (fun n b => 256 * n + b.toNat) 0
  return {
    seconds := fun _ => now.toSecondsSinceUnixEpoch.val
    salt := fun n => Fin.ofNat 10000 (draws (seed % Nat.pow 2 31) n)
    bits := fun n => BitVec.ofNat 128 (seed + n * 0x9E3779B97F4A7C15F39CC0605CEDC835) }

def readFile (file : String) : IO (Except FileFault ByteArray) := do
  try
    return .ok (← IO.FS.readBinFile file)
  catch
    | .inappropriateType _ code _ => return .error (if code = 21 then .directory else .notDirectory)
    | _ => return .error .missing

end SceneScript

open SceneScript

def main (args : List String) : IO UInt32 := do
  let bytes ← match CommandLine.parse args with
    | .ok (.render file _ _) => readFile file
    | _ => pure (.error .missing)
  match CommandLine.run (← ambientNow) (← environment) (fun _ => bytes) args with
  | .printed text =>
    IO.print text
    return 0
  | .failed e =>
    IO.eprintln ("error [" ++ e.code ++ "]: " ++ e.message)
    return 1
  | .usage u =>
    if u.exitCode = 0 then IO.println usageText else IO.eprintln usageText
    return UInt32.ofNat u.exitCode
