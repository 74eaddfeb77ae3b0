import ShaderPlayer.Bindings.Frame
import ShaderPlayer.Bindings.Host
import ShaderPlayer.Bindings.Rig
import ShaderPlayer.CommandLine.Arguments
import ShaderPlayer.CommandLine.Program
import ShaderPlayer.Entries
import ShaderPlayer.Fault
import ShaderPlayer.Gpu.Call
import ShaderPlayer.Gpu.Device
import ShaderPlayer.Gpu.Object
import ShaderPlayer.Gpu.Rule
import ShaderPlayer.Gpu.Trace
import ShaderPlayer.Include.Library
import ShaderPlayer.Include.Source
import ShaderPlayer.Log
import ShaderPlayer.Main
import ShaderPlayer.Number.Double
import ShaderPlayer.Number.Format
import ShaderPlayer.Number.Reader
import ShaderPlayer.Number.Rounding
import ShaderPlayer.Number.Shortest
import ShaderPlayer.NumericArray
import ShaderPlayer.Outside.Basic
import ShaderPlayer.Outside.FileTree
import ShaderPlayer.Picture
import ShaderPlayer.Picture.ColourTable
import ShaderPlayer.Picture.Cosine
import ShaderPlayer.Picture.Format
import ShaderPlayer.Picture.Icon
import ShaderPlayer.Picture.Plane
import ShaderPlayer.Picture.Resample
import ShaderPlayer.Picture.Stored
import ShaderPlayer.Pipeline
import ShaderPlayer.Player.Basic
import ShaderPlayer.Player.Window
import ShaderPlayer.Screen
import ShaderPlayer.Shader.Comment
import ShaderPlayer.Shader.Directive
import ShaderPlayer.Shader.EntryPoint
import ShaderPlayer.Shader.Error
import ShaderPlayer.Shader.Literal
import ShaderPlayer.Shader.Location
import ShaderPlayer.Shader.Macro
import ShaderPlayer.Shader.Prelude
import ShaderPlayer.Shader.Preprocess
import ShaderPlayer.Shader.SourceMap
import ShaderPlayer.Text.Basic
import ShaderPlayer.Text.Blank
import ShaderPlayer.Text.CaseTable
import ShaderPlayer.Text.Digit
import ShaderPlayer.Text.Lower
import ShaderPlayer.Text.Newline
import ShaderPlayer.Text.NumericTable
import ShaderPlayer.Text.PrintableTable
import ShaderPlayer.Text.Quoted
import ShaderPlayer.Text.Utf8
import ShaderPlayer.Text.Word
import ShaderPlayer.Text.WordTable
import ShaderPlayer.Uniform
import ShaderPlayer.Value
import ShaderPlayer.Window.Blitter
import ShaderPlayer.Window.Keyboard
import ShaderPlayer.Proofs.Effect
import ShaderPlayer.Proofs.Text.Lines
import ShaderPlayer.Proofs.Text.Characters
import ShaderPlayer.Proofs.Shader.Trace
import ShaderPlayer.Proofs.Shader.Reading
import ShaderPlayer.Proofs.Shader.Tables
import ShaderPlayer.Proofs.Shader.Unbroken
import ShaderPlayer.Proofs.Text.Numerals
import ShaderPlayer.Proofs.Shader.Location
import ShaderPlayer.Proofs.Shader.Unit
import ShaderPlayer.Proofs.Pipeline
import ShaderPlayer.Proofs.Shader.Relocation
import ShaderPlayer.Proofs.Shader.Inlining
import ShaderPlayer.Proofs.Bindings.Connection
import ShaderPlayer.Proofs.Player.Reachable
import ShaderPlayer.Proofs.Include.Notes
import ShaderPlayer.Proofs.Player.Swap
import ShaderPlayer.Proofs.Number.Single
import ShaderPlayer.Proofs.Bindings.Custom
import ShaderPlayer.Proofs.Bindings.Renewal
import ShaderPlayer.Proofs.Shader.Inert
import ShaderPlayer.Proofs.Player.Exchange
import ShaderPlayer.Proofs.Player.CustomUniforms
import ShaderPlayer.Proofs.Shader.Structures
import ShaderPlayer.Proofs.Player.Session
import ShaderPlayer.Proofs.Player.CustomStructure
import ShaderPlayer.Proofs.Bindings.TableBytes
import ShaderPlayer.Proofs.Player.DataStructure
import ShaderPlayer.Proofs.Player.ScreenSize
import ShaderPlayer.Proofs.Gpu.Frames
import ShaderPlayer.Proofs.Bindings.Encoding
import ShaderPlayer.Proofs.Bindings.Operated
import ShaderPlayer.Proofs.Player.Frames
import ShaderPlayer.Proofs.Player.BindGroup
import ShaderPlayer.Proofs.Shader.CountLine
import ShaderPlayer.Proofs.Player.DispatchNumbers
import ShaderPlayer.Proofs.Player.Once
import ShaderPlayer.Proofs.Shader.Overlong
import ShaderPlayer.Proofs.Shader.Included
import ShaderPlayer.Proofs.Shader.Growth
import ShaderPlayer.Proofs.Shader.Attribution
import ShaderPlayer.Proofs.Shader.Streaming
import ShaderPlayer.Proofs.Shader.Work
import ShaderPlayer.Proofs.Shader.IncludeDepth
import ShaderPlayer.Proofs.Shader.Counters
import ShaderPlayer.Proofs.Number.Integer
import ShaderPlayer.Proofs.Player.Assertions
import ShaderPlayer.Proofs.Bindings.Prelude
import ShaderPlayer.Proofs.Shader.Size
import ShaderPlayer.Proofs.Shader.Declarations
import ShaderPlayer.Proofs.Text.Stored
import ShaderPlayer.Proofs.Outside.Paths
import ShaderPlayer.Proofs.Include.Directories
import ShaderPlayer.Proofs.Outside.Tree
import ShaderPlayer.Proofs.Player.FileIncludes
import ShaderPlayer.Proofs.Include.Cache
import ShaderPlayer.Proofs.Include.History
import ShaderPlayer.Proofs.Shader.Simulation
import ShaderPlayer.Proofs.Include.Transparency
import ShaderPlayer.Proofs.Bindings.Keys
import ShaderPlayer.Proofs.Shader.Expansion
import ShaderPlayer.Proofs.Player.LatestFrame
import ShaderPlayer.Proofs.Gpu.Seen
import ShaderPlayer.Proofs.Bindings.Planned
import ShaderPlayer.Proofs.Bindings.Deferred
import ShaderPlayer.Proofs.Shader.Redefinition
import ShaderPlayer.Proofs.Shader.Hoisting
import ShaderPlayer.Proofs.Shader.Conservation
import ShaderPlayer.Proofs.Shader.IntegerLiteral
import ShaderPlayer.Proofs.Shader.DataValues
import ShaderPlayer.Proofs.Shader.StringLiteral
import ShaderPlayer.Proofs.Shader.EscapeSequence
import ShaderPlayer.Proofs.Shader.TrailingComment
import ShaderPlayer.Proofs.Number.Nearest
import ShaderPlayer.Proofs.Uniform.Layout
import ShaderPlayer.Proofs.Uniform.Assignments
import ShaderPlayer.Proofs.Uniform.Refusals
import ShaderPlayer.Proofs.Bindings.Blocks
import ShaderPlayer.Proofs.Player.Blocks
import ShaderPlayer.Proofs.Player.MousePosition
import ShaderPlayer.Proofs.Player.CustomValues
import ShaderPlayer.Proofs.Player.SameNames
import ShaderPlayer.Proofs.Player.Percentages
import ShaderPlayer.Proofs.Shader.LineEndings
import ShaderPlayer.Proofs.Shader.DispatchMoved
import ShaderPlayer.Proofs.Player.KeyEvents
import ShaderPlayer.Proofs.Include.Failures
import ShaderPlayer.Proofs.Shader.IncludeArgument
import ShaderPlayer.Proofs.Bindings.ChannelPictures
import ShaderPlayer.Proofs.Player.Coverage
import ShaderPlayer.Proofs.Shader.Unescaping
import ShaderPlayer.Proofs.Shader.LiteralGrammar
