import SceneScript.Page
import SceneScript.Scene.Format
import SceneScript.Scene.Render

/- The command line: what its arguments ask for, and the answer. -/
namespace SceneScript.CommandLine

inductive Wrapping where
  | plain
  | element
  | page
  deriving DecidableEq, Repr

inductive Command where
  | render (file : String) (format : Option Scene.Format) (wrapping : Wrapping)
  | attributes
  deriving DecidableEq, Repr

inductive Usage where
  | help
  | invalid
  deriving DecidableEq, Repr

def Usage.exitCode : Usage → Nat
  | help => 0
  | invalid => 2

/-- What was given so far; nothing may be given twice. -/
structure Options where
  file : Option String
  format : Option Scene.Format
  element : Bool
  page : Bool

namespace Options

def none : Options :=
  ⟨.none, .none, false, false⟩

def withFile (o : Options) (file : String) : Except Usage Options :=
  if o.file.isSome ∨ file = "" then .error .invalid else .ok { o with file := some file }

def withFormat (o : Options) (name : String) : Except Usage Options :=
  match o.format, Scene.Format.ofName? name with
  | .none, some format => .ok { o with format := some format }
  | _, _ => .error .invalid

def withElement (o : Options) : Except Usage Options :=
  if o.element then .error .invalid else .ok { o with element := true }

def withPage (o : Options) : Except Usage Options :=
  if o.page then .error .invalid else .ok { o with page := true }

def command (o : Options) : Except Usage Command :=
  match o.file, o.element, o.page with
  | .none, _, _ => .error .invalid
  | _, true, true => .error .invalid
  | some file, true, false => .ok (.render file o.format .element)
  | some file, false, true => .ok (.render file o.format .page)
  | some file, false, false => .ok (.render file o.format .plain)

end Options

def formatOption : String := "--format="

/-- Whether an argument is a help flag; a cluster of short flags is read from its first letter. -/
def isHelp (arg : String) : Bool :=
  arg == "--help" || "-h".toList.isPrefixOf arg.toList

def isFlag (arg : String) : Bool :=
  match arg.toList with
  | '-' :: _ :: _ => true
  | _ => false

/-- Reads the arguments of rendering in turn; after `--` all of them are files. -/
def renderOptions (o : Options) : List String → Except Usage Options
  | [] => .ok o
  | "--" :: rest => rest.foldlM Options.withFile o
  | "--format" :: value :: rest => do renderOptions (← o.withFormat value) rest
  | arg :: rest =>
    if isHelp arg then .error .help
    else if arg = "--tag" then do renderOptions (← o.withElement) rest
    else if arg = "--html" then do renderOptions (← o.withPage) rest
    else if formatOption.toList.isPrefixOf arg.toList then do
      renderOptions (← o.withFormat (String.ofList (arg.toList.drop formatOption.length))) rest
    else if isFlag arg then .error .invalid
    else do renderOptions (← o.withFile arg) rest

def attributesOptions : List String → Except Usage Unit
  | [] => .ok ()
  | ["--"] => .ok ()
  | arg :: _ => .error (if isHelp arg then .help else .invalid)

def helpTopic : List String → Usage
  | [] | ["render"] | ["attributes"] | ["help"] => .help
  | _ => .invalid

def parse : List String → Except Usage Command
  | "render" :: rest => do (← renderOptions .none rest).command
  | "attributes" :: rest => do
    attributesOptions rest
    .ok .attributes
  | "help" :: topic => .error (helpTopic topic)
  | arg :: _ => .error (if isHelp arg then .help else .invalid)
  | [] => .error .invalid

inductive Outcome where
  | usage (u : Usage)
  | failed (e : Error)
  | printed (text : String)

abbrev Files := String → Except FileFault ByteArray

def Files.text (files : Files) (file : String) : Except Error String :=
  match files file with
  | .error fault => .error (.file fault)
  | .ok bytes =>
    match String.fromUTF8? bytes with
    | some text => .ok text
    | none => .error (.file .notText)

/-- Renders the scene in a file. The configuration is checked before the file is looked at. -/
def render (ambient : Ambient) (env : Environment) (files : Files) (file : String)
    (format : Option Scene.Format) (wrapping : Wrapping) : Except Error String := do
  let config ← Config.ofEnvironment env
  let text ← files.text file
  let format := format.getD ((Scene.Format.ofPath? file).getD .yaml)
  let scene ← Scene.ofText format text
  let canvas ← scene.render (config.uid.suffix ambient)
  .ok (match wrapping with
    | .plain => canvas.script
    | .element => canvas.scriptElement
    | .page => page canvas config)

def run (ambient : Ambient) (env : Environment) (files : Files) (args : List String) : Outcome :=
  match parse args with
  | .error u => .usage u
  | .ok .attributes => .printed (String.join (knownAttributes.map (· ++ "\n")))
  | .ok (.render file format wrapping) =>
    match render ambient env files file format wrapping with
    | .ok text => .printed (text ++ "\n")
    | .error e => .failed e

end SceneScript.CommandLine
