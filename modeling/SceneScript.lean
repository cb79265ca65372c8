import SceneScript.Animation
import SceneScript.Attributes
import SceneScript.Canvas
import SceneScript.CommandLine
import SceneScript.Config
import SceneScript.Element
import SceneScript.Entries
import SceneScript.Error
import SceneScript.Identifier
import SceneScript.Json
import SceneScript.Json.Numeral
import SceneScript.Json.Tree
import SceneScript.Main
import SceneScript.Number.Binary
import SceneScript.Number.Coordinate
import SceneScript.Number.Decimal
import SceneScript.Number.Shortest
import SceneScript.Page
import SceneScript.Path.Builder
import SceneScript.Path.Corner
import SceneScript.Path.Reading
import SceneScript.Path.Segment
import SceneScript.Proofs.Acceptance
import SceneScript.Proofs.Animations
import SceneScript.Proofs.Attributes
import SceneScript.Proofs.Blocks
import SceneScript.Proofs.Boxes
import SceneScript.Proofs.Brackets
import SceneScript.Proofs.BuiltPaths
import SceneScript.Proofs.Calls
import SceneScript.Proofs.Chains
import SceneScript.Proofs.Checked
import SceneScript.Proofs.Commands
import SceneScript.Proofs.Conversions
import SceneScript.Proofs.Coordinates
import SceneScript.Proofs.Corners
import SceneScript.Proofs.Declarations
import SceneScript.Proofs.Delimited
import SceneScript.Proofs.Doubles
import SceneScript.Proofs.Drawing
import SceneScript.Proofs.Emission
import SceneScript.Proofs.Entries
import SceneScript.Proofs.Expressions
import SceneScript.Proofs.Failures
import SceneScript.Proofs.FieldOrder
import SceneScript.Proofs.Fields
import SceneScript.Proofs.GeneratedNames
import SceneScript.Proofs.InitialPath
import SceneScript.Proofs.Insertions
import SceneScript.Proofs.KeptFields
import SceneScript.Proofs.Lines
import SceneScript.Proofs.Mentions
import SceneScript.Proofs.NumberTexts
import SceneScript.Proofs.Numbering
import SceneScript.Proofs.Numerals
import SceneScript.Proofs.Occurrences
import SceneScript.Proofs.Operations
import SceneScript.Proofs.Pages
import SceneScript.Proofs.PathData
import SceneScript.Proofs.PathJoining
import SceneScript.Proofs.PathReading
import SceneScript.Proofs.Places
import SceneScript.Proofs.PlainRuns
import SceneScript.Proofs.PlainScenes
import SceneScript.Proofs.Playback
import SceneScript.Proofs.Quoting
import SceneScript.Proofs.ReadBack
import SceneScript.Proofs.References
import SceneScript.Proofs.Removal
import SceneScript.Proofs.Rendering
import SceneScript.Proofs.ScenePaths
import SceneScript.Proofs.ScriptData
import SceneScript.Proofs.Separation
import SceneScript.Proofs.StringLiterals
import SceneScript.Proofs.Subjects
import SceneScript.Proofs.Tags
import SceneScript.Proofs.Thousandths
import SceneScript.Proofs.Tracing
import SceneScript.Proofs.Variables
import SceneScript.Proofs.Weaving
import SceneScript.Scene.Basic
import SceneScript.Scene.Datum
import SceneScript.Scene.Format
import SceneScript.Scene.FromJson
import SceneScript.Scene.FromYaml
import SceneScript.Scene.Reading
import SceneScript.Scene.Render
import SceneScript.Session
import SceneScript.Statement
import SceneScript.Text.Blank
import SceneScript.Text.Hidden
import SceneScript.Text.Html
import SceneScript.Text.Quoted
import SceneScript.Text.Shown
import SceneScript.Uid
import SceneScript.Value
import SceneScript.Yaml.Block
import SceneScript.Yaml.Cursor
import SceneScript.Yaml.Flow
import SceneScript.Yaml.Name
import SceneScript.Yaml.Node
import SceneScript.Yaml.Plain
import SceneScript.Yaml.Scanner
import SceneScript.Yaml.Token
