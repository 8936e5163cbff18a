import CityScript.Text.Blank
import CityScript.Text.Word
import CityScript.Text.Pieces
import CityScript.Text.Lines
import CityScript.Text.Quoted
import CityScript.Number.Word
import CityScript.Number.Binary64
import CityScript.Number.Rounding
import CityScript.Number.Numeral
import CityScript.Number.Shortest
import CityScript.Number.Layout
import CityScript.Json.Basic
import CityScript.Json.Reader
import CityScript.Json.Writer
import CityScript.Script.Value
import CityScript.Script.Signature
import CityScript.Script.Catalog
import CityScript.Script.Quote
import CityScript.Script.Comment
import CityScript.Script.CallLine
import CityScript.Script.Arguments
import CityScript.Script.Diagnostic
import CityScript.Script.Line
import CityScript.Script.Program
import CityScript.Grid.Cell
import CityScript.Grid.Mask
import CityScript.Grid.Ring
import CityScript.Grid.Allocator
import CityScript.World.Object
import CityScript.World.Basic
import CityScript.World.Map
import CityScript.Session.Settings
import CityScript.Session.Operation
import CityScript.Session.Registry
import CityScript.Session.Execution
import CityScript.Session.Basic
import CityScript.Session.Report
import CityScript.Toml.Basic
import CityScript.Toml.Lexical
import CityScript.Toml.Tree
import CityScript.Toml.Reader
import CityScript.CommandLine.Path
import CityScript.CommandLine.Files
import CityScript.CommandLine.Invocation
import CityScript.CommandLine.Config
import CityScript.CommandLine.Basic
import CityScript.CommandLine.Plan
import CityScript.CommandLine.Log
import CityScript.Main
import CityScript.Proofs.RingOrder
import CityScript.Proofs.NearestCell
import CityScript.Proofs.WordSearch
import CityScript.Proofs.GridCells
import CityScript.Proofs.RingPartition
import CityScript.Proofs.SearchCost
import CityScript.Proofs.Grants
import CityScript.Proofs.MaskRows
import CityScript.Proofs.MaskText
import CityScript.Proofs.Placing
import CityScript.Proofs.History
import CityScript.Proofs.Occupancy
import CityScript.Proofs.Numbering
import CityScript.Proofs.Composition
import CityScript.Proofs.LineEnds
import CityScript.Proofs.Isolation
import CityScript.Proofs.Replay
import CityScript.Proofs.FaithfulMap
import CityScript.Proofs.CallGrammar
import CityScript.Proofs.NumberText
import CityScript.Proofs.IntegerText
import CityScript.Proofs.LineReading
import CityScript.Proofs.LineAccount
import CityScript.Proofs.QuotedMarks
import CityScript.Proofs.CallText
import CityScript.Proofs.ArgumentFilling
import CityScript.Proofs.NamedArguments
import CityScript.Proofs.ArgumentSlots
import CityScript.Proofs.ValueText
import CityScript.Proofs.RoundTrip
import CityScript.Proofs.WrittenCalls
import CityScript.Proofs.IntegerSpelling
import CityScript.Proofs.Filling
import CityScript.Proofs.DefaultReach
import CityScript.Proofs.FreshStart
import CityScript.Proofs.CleanReport
import CityScript.Proofs.LineLoop
import CityScript.Proofs.Handlers
import CityScript.Proofs.JsonReading
import CityScript.Proofs.JsonWriting
import CityScript.Proofs.DocumentText
import CityScript.Proofs.MinorEvents
import CityScript.Proofs.CommandAnswers
import CityScript.Proofs.TomlValues
import CityScript.Proofs.TomlReading
import CityScript.Proofs.SettingsText
import CityScript.Proofs.FileReading
import CityScript.Proofs.Requirements
import CityScript.Proofs.Attributes
import CityScript.Proofs.Roads
import CityScript.Proofs.PaddedLines
import CityScript.Proofs.ScriptLayout
import CityScript.Proofs.DocumentText
