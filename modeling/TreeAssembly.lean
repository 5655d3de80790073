import TreeAssembly.Builder.Decl
import TreeAssembly.Builder.Expr
import TreeAssembly.Builder.Replay
import TreeAssembly.Builder.Run
import TreeAssembly.Builder.State
import TreeAssembly.Builder.Stmt
import TreeAssembly.Cli.Host
import TreeAssembly.Cli.Options
import TreeAssembly.Cli.Run
import TreeAssembly.Cli.Volume
import TreeAssembly.Decimal.Layout
import TreeAssembly.Decimal.Reading
import TreeAssembly.Decimal.Scaled
import TreeAssembly.Decimal.Shortest
import TreeAssembly.Error
import TreeAssembly.Event
import TreeAssembly.Event.Decode
import TreeAssembly.Ieee.Format
import TreeAssembly.Json.Number
import TreeAssembly.Json.Reader
import TreeAssembly.Json.Value
import TreeAssembly.Json.Writer
import TreeAssembly.Literal
import TreeAssembly.Location
import TreeAssembly.Main
import TreeAssembly.Outline.Basic
import TreeAssembly.Script
import TreeAssembly.Symbol
import TreeAssembly.Text.Blank
import TreeAssembly.Text.Printable
import TreeAssembly.Tree.Decl
import TreeAssembly.Tree.Expr
import TreeAssembly.Tree.Stmt
import TreeAssembly.Tree.ToJson
import TreeAssembly.Tree.ToOutline
import TreeAssembly.Types.Basic
import TreeAssembly.Types.Registry
import TreeAssembly.Proofs.Run
import TreeAssembly.Proofs.Assembly
import TreeAssembly.Proofs.Derivation
import TreeAssembly.Proofs.Refinement.Expr
import TreeAssembly.Proofs.Refinement.Stmt
import TreeAssembly.Proofs.Refinement.Unit
import TreeAssembly.Proofs.Refinement.File
import TreeAssembly.Proofs.Steps.Expr
import TreeAssembly.Proofs.Steps.Stmt
import TreeAssembly.Proofs.Steps.Decl
import TreeAssembly.Proofs.Steps.Failure
import TreeAssembly.Proofs.WellFormed.Tree
import TreeAssembly.Proofs.WellFormed.Builder
import TreeAssembly.Proofs.Steps.Frame
import TreeAssembly.Proofs.ConnectorQualifiers
import TreeAssembly.Proofs.Registry.Invariant
import TreeAssembly.Proofs.Registry.Events
import TreeAssembly.Proofs.Registry.Resolution
import TreeAssembly.Proofs.Registry.ArrayMemo
import TreeAssembly.Proofs.Faults
import TreeAssembly.Proofs.SourceFaults
import TreeAssembly.Proofs.FaultSites
import TreeAssembly.Proofs.Refinement.Frame
import TreeAssembly.Proofs.ScriptFormat
import TreeAssembly.Proofs.LiteralText
