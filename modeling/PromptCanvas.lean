import PromptCanvas.Codec.Base64
import PromptCanvas.Codec.DataUrl
import PromptCanvas.Codec.Encoding
import PromptCanvas.Codec.Hex
import PromptCanvas.Decimal.Binary64
import PromptCanvas.Decimal.Reading
import PromptCanvas.Decimal.Shortest
import PromptCanvas.Generation.Client
import PromptCanvas.Generation.Instruction
import PromptCanvas.Generation.Service
import PromptCanvas.Generation.Trouble
import PromptCanvas.Graph.Basic
import PromptCanvas.Graph.Change
import PromptCanvas.Graph.Export
import PromptCanvas.Graph.Integrity
import PromptCanvas.Graph.Removal
import PromptCanvas.Http.Asked
import PromptCanvas.Http.Form
import PromptCanvas.Http.Route
import PromptCanvas.Http.Server
import PromptCanvas.Http.Target
import PromptCanvas.Json.Basic
import PromptCanvas.Json.Display
import PromptCanvas.Json.Measure
import PromptCanvas.Json.Reader
import PromptCanvas.Json.Writer
import PromptCanvas.Node.Basic
import PromptCanvas.Node.Kind
import PromptCanvas.Node.Status
import PromptCanvas.Proofs.Graph.Deletion
import PromptCanvas.Proofs.Graph.Execution
import PromptCanvas.Proofs.Graph.Forest
import PromptCanvas.Proofs.Graph.Inheritance
import PromptCanvas.Proofs.Graph.Integrity
import PromptCanvas.Proofs.Graph.Lineage
import PromptCanvas.Proofs.Graph.Lookup
import PromptCanvas.Proofs.Graph.Operation
import PromptCanvas.Proofs.Graph.Reach
import PromptCanvas.Proofs.Graph.Removal
import PromptCanvas.Proofs.Graph.Search
import PromptCanvas.Proofs.Graph.Sound
import PromptCanvas.Proofs.Graph.Step
import PromptCanvas.Proofs.Http.Asked
import PromptCanvas.Proofs.Script.Blanks
import PromptCanvas.Proofs.Script.Flatten
import PromptCanvas.Proofs.Script.Folding
import PromptCanvas.Proofs.Script.Frame
import PromptCanvas.Proofs.Script.Idle
import PromptCanvas.Proofs.Script.Layout
import PromptCanvas.Proofs.Script.Legible
import PromptCanvas.Proofs.Script.Line
import PromptCanvas.Proofs.Script.LineEnd
import PromptCanvas.Proofs.Script.Margin
import PromptCanvas.Proofs.Script.Outline
import PromptCanvas.Proofs.Script.Phrase
import PromptCanvas.Proofs.Script.Prompt
import PromptCanvas.Proofs.Script.Property
import PromptCanvas.Proofs.Script.Scan
import PromptCanvas.Proofs.Script.Stripped
import PromptCanvas.Proofs.Script.Telling
import PromptCanvas.Proofs.Script.Token
import PromptCanvas.Proofs.Script.Unclosed
import PromptCanvas.Proofs.Script.Unquoted
import PromptCanvas.Proofs.Script.Written
import PromptCanvas.Proofs.Session.Accounting
import PromptCanvas.Proofs.Session.Deletion
import PromptCanvas.Proofs.Session.Descent
import PromptCanvas.Proofs.Session.Execution
import PromptCanvas.Proofs.Session.Inheritance
import PromptCanvas.Proofs.Session.Kept
import PromptCanvas.Proofs.Session.Run
import PromptCanvas.Proofs.Session.Script
import PromptCanvas.Proofs.Session.Staleness
import PromptCanvas.Proofs.Session.Structure
import PromptCanvas.Proofs.Session.Upload
import PromptCanvas.Proofs.Studio.Begin
import PromptCanvas.Proofs.Studio.Operation
import PromptCanvas.Proofs.Studio.Reply
import PromptCanvas.Proofs.Studio.Run
import PromptCanvas.Proofs.Studio.Tracking
import PromptCanvas.Proofs.Studio.Upload
import PromptCanvas.Proofs.Table
import PromptCanvas.Proofs.Text.Trim
import PromptCanvas.Recipe.Registry
import PromptCanvas.Recipe.Template
import PromptCanvas.Rejection
import PromptCanvas.Script.Block
import PromptCanvas.Script.Comment
import PromptCanvas.Script.Description
import PromptCanvas.Script.Export
import PromptCanvas.Script.Layout
import PromptCanvas.Script.Line
import PromptCanvas.Script.Lint
import PromptCanvas.Script.Outline
import PromptCanvas.Script.Prompt
import PromptCanvas.Script.Telling
import PromptCanvas.Script.Written
import PromptCanvas.Session.Basic
import PromptCanvas.Settings
import PromptCanvas.Studio.Basic
import PromptCanvas.Studio.Operation
import PromptCanvas.Studio.Served
import PromptCanvas.Text.Blank
import PromptCanvas.Text.LetterCase
import PromptCanvas.Text.Numeral
import PromptCanvas.Text.Printable
import PromptCanvas.Text.Quoted
import PromptCanvas.Text.Ranges
import PromptCanvas.Text.Search
import PromptCanvas.Text.Symbols
import PromptCanvas.Text.Word
import PromptCanvas.Validation.Fault
import PromptCanvas.Validation.Moment
import PromptCanvas.Validation.Value
import PromptCanvas.Proofs.Graph.Frame
import PromptCanvas.Proofs.Studio.Frame
import PromptCanvas.Proofs.Session.Frame
import PromptCanvas.Proofs.Session.Fresh
import PromptCanvas.Proofs.Session.Result
import PromptCanvas.Proofs.Validation.Sendable
import PromptCanvas.Proofs.Http.Sendable
import PromptCanvas.Proofs.Http.Picture
import PromptCanvas.Proofs.Studio.Sendable
import PromptCanvas.Proofs.Studio.Refusal
import PromptCanvas.Proofs.Http.Answer
import PromptCanvas.Proofs.Session.Answer
import PromptCanvas.Proofs.Graph.Commute
import PromptCanvas.Proofs.Graph.Untimed
import PromptCanvas.Proofs.Studio.Deed
import PromptCanvas.Proofs.Session.Commute
import PromptCanvas.Proofs.Text.Search
import PromptCanvas.Proofs.Codec.Base64
import PromptCanvas.Proofs.Codec.DataUrl
import PromptCanvas.Proofs.Codec.Payload
import PromptCanvas.Proofs.Graph.Fresh
import PromptCanvas.Proofs.Recipe.Registry
import PromptCanvas.Proofs.Studio.Recipe
import PromptCanvas.Proofs.Session.Recipe
import PromptCanvas.Proofs.Generation.Failure
import PromptCanvas.Proofs.Generation.Classification
import PromptCanvas.Proofs.Studio.Failure
import PromptCanvas.Graph.Assignment
import PromptCanvas.Proofs.Graph.Assignment
import PromptCanvas.Proofs.Session.Assignment
import PromptCanvas.Proofs.Graph.Addition
import PromptCanvas.Proofs.Session.Addition
import PromptCanvas.Proofs.Session.Call
import PromptCanvas.Proofs.Studio.Parameters
import PromptCanvas.Proofs.Session.Parameters
import PromptCanvas.Proofs.Studio.Boost
import PromptCanvas.Proofs.Session.Boost
import PromptCanvas.Proofs.Script.Lint
import PromptCanvas.Proofs.Script.Semicolon
import PromptCanvas.Proofs.Script.Occurrence
import PromptCanvas.Proofs.Script.Recognition
import PromptCanvas.Proofs.Graph.Statistics
import PromptCanvas.Proofs.Session.Statistics
import PromptCanvas.Graph.Erasure
import PromptCanvas.Proofs.Graph.Erasure
import PromptCanvas.Proofs.Text.Placeholder
import PromptCanvas.Proofs.Recipe.Template
import PromptCanvas.Proofs.Studio.Wording
import PromptCanvas.Json.Grammar
import PromptCanvas.Proofs.Json.Text
import PromptCanvas.Proofs.Json.Number
import PromptCanvas.Proofs.Generation.Method
