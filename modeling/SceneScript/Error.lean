import SceneScript.Text.Shown

/- What can go wrong, and how it is reported. -/
namespace SceneScript

/-- Why a text is no path data. Positions count characters from one. -/
inductive PathFault where
  | unexpectedData (position : Nat)
  | unexpectedEnd
  | invalidNumber (position : Nat)
  deriving DecidableEq, Repr

inductive ConfigFault where
  | emptyVersion
  | unknownStrategy (name : String)
  deriving DecidableEq, Repr

/-- The element of a scene that a fault is about: by its id, else by its place from zero. -/
inductive ElementLabel where
  | named (id : String)
  | numbered (index : Nat)
  deriving DecidableEq, Repr

inductive SceneFault where
  | duplicateId (id : String)
  | unknownMember (id : String)
  deriving DecidableEq, Repr

inductive FileFault where
  | missing
  | directory
  | notDirectory
  | notText
  deriving DecidableEq, Repr

inductive Error where
  | invalidIdentifier (name : String)
  | invalidContainer
  | invalidDimensions (width height : UInt32)
  | foreignElement (name : String)
  | invalidCorner (text : String)
  | invalidPath (fault : PathFault)
  | config (fault : ConfigFault)
  | scene (element : ElementLabel) (fault : SceneFault)
  | file (fault : FileFault)
  | yaml
  | json
  deriving DecidableEq, Repr

def PathFault.message : PathFault → String
  | unexpectedData position => s!"unexpected data at position {position}"
  | unexpectedEnd => "unexpected end of stream"
  | invalidNumber position => s!"invalid number at position {position}"

def ConfigFault.message : ConfigFault → String
  | emptyVersion => "RAFA_RAPHAEL_VERSION is empty"
  | unknownStrategy name =>
    s!"unknown RAFA_UID_STRATEGY '{name}' (expected 'timestamp', 'sequential' or 'uuid')"

def ElementLabel.text : ElementLabel → String
  | named id => s!"element '{id}'"
  | numbered index => s!"element #{index}"

def SceneFault.message : SceneFault → String
  | duplicateId id => s!"duplicate element id '{id}'"
  | unknownMember id => s!"unknown set member '{id}'"

def FileFault.message : FileFault → String
  | missing => "No such file or directory (os error 2)"
  | directory => "Is a directory (os error 21)"
  | notDirectory => "Not a directory (os error 20)"
  | notText => "stream did not contain valid UTF-8"

namespace Error

def code : Error → String
  | invalidIdentifier _ => "E_INVALID_IDENTIFIER"
  | invalidContainer => "E_INVALID_CONTAINER"
  | invalidDimensions _ _ => "E_INVALID_DIMENSIONS"
  | foreignElement _ => "E_FOREIGN_ELEMENT"
  | invalidCorner _ => "E_INVALID_CORNER"
  | invalidPath _ => "E_INVALID_PATH"
  | config _ => "E_CONFIG_PARSE"
  | scene _ _ => "E_SCENE"
  | file _ => "E_IO"
  | yaml => "E_YAML"
  | json => "E_JSON"

def message : Error → String
  | invalidIdentifier name => "invalid javascript identifier: " ++ Text.shown name
  | invalidContainer => "canvas container id must not be empty"
  | invalidDimensions width height =>
    s!"invalid canvas dimensions {width}x{height}: both must be positive"
  | foreignElement name => s!"element {name} belongs to a different canvas"
  | invalidCorner text => "invalid rounded corner direction: " ++ Text.shown text
  | invalidPath fault => "invalid path data: " ++ fault.message
  | config fault => "config parse failed: " ++ fault.message
  | scene element fault => "scene error: " ++ element.text ++ ": " ++ fault.message
  | file fault => "io error: " ++ fault.message
  | yaml => "yaml parse failed"
  | json => "json parse failed"

end Error

end SceneScript
