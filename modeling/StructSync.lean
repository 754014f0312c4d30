import StructSync.CType.Builtin
import StructSync.CType.Declaration
import StructSync.CType.Integer
import StructSync.CType.Kind
import StructSync.CType.Resolve
import StructSync.CommandLine.Arguments
import StructSync.CommandLine.Logger
import StructSync.CommandLine.Machine
import StructSync.CommandLine.Options
import StructSync.CommandLine.Palette
import StructSync.CommandLine.Run
import StructSync.CommandLine.Workspace
import StructSync.Config
import StructSync.Confirmation
import StructSync.Confirmation.Dialogue
import StructSync.DataFlags
import StructSync.Database
import StructSync.Database.Format
import StructSync.Decimal.Fixed
import StructSync.Decimal.Shortest
import StructSync.DeclaredType
import StructSync.Descriptor
import StructSync.Duration
import StructSync.Host
import StructSync.Json.Decoder
import StructSync.Json.Fields
import StructSync.Json.Problem
import StructSync.Json.Scan
import StructSync.Json.Skip
import StructSync.Json.Writer
import StructSync.Layout
import StructSync.Log
import StructSync.Log.Filter
import StructSync.Logged
import StructSync.Main
import StructSync.Member
import StructSync.Pattern
import StructSync.Pattern.Brackets
import StructSync.Pattern.Cursor
import StructSync.Pattern.Escape
import StructSync.Pattern.Expression
import StructSync.Pattern.Meaning
import StructSync.Pattern.Position
import StructSync.Pattern.Problem
import StructSync.Pattern.Reading
import StructSync.Pattern.Size
import StructSync.Pattern.Tree
import StructSync.Proofs.Accumulation
import StructSync.Proofs.Additions
import StructSync.Proofs.Agreement
import StructSync.Proofs.AllOrNothing
import StructSync.Proofs.Bindings
import StructSync.Proofs.CType.Dimensions
import StructSync.Proofs.CType.Grammar
import StructSync.Proofs.CType.Integer
import StructSync.Proofs.CType.Specifiers
import StructSync.Proofs.CType.Spelling
import StructSync.Proofs.CType.Wording
import StructSync.Proofs.Call
import StructSync.Proofs.Commands
import StructSync.Proofs.Consent
import StructSync.Proofs.Creation
import StructSync.Proofs.Database.Atomic
import StructSync.Proofs.Database.Built
import StructSync.Proofs.Database.Identity
import StructSync.Proofs.Database.Lineage
import StructSync.Proofs.Database.Loaded
import StructSync.Proofs.Database.Members
import StructSync.Proofs.Database.Obtained
import StructSync.Proofs.Database.Reachable
import StructSync.Proofs.Database.Replay
import StructSync.Proofs.Database.Requests
import StructSync.Proofs.Database.Saved
import StructSync.Proofs.Database.Sound
import StructSync.Proofs.Database.Touched
import StructSync.Proofs.Declared
import StructSync.Proofs.Declaring
import StructSync.Proofs.Dialogue
import StructSync.Proofs.Exchange
import StructSync.Proofs.Failing
import StructSync.Proofs.Files
import StructSync.Proofs.Guarded
import StructSync.Proofs.InStep
import StructSync.Proofs.Interleaving
import StructSync.Proofs.Journal
import StructSync.Proofs.Json.Reads
import StructSync.Proofs.Json.Words
import StructSync.Proofs.LateAnswer
import StructSync.Proofs.Layout
import StructSync.Proofs.LifeCycle
import StructSync.Proofs.LiveDescriptors
import StructSync.Proofs.Materialization
import StructSync.Proofs.Morphism
import StructSync.Proofs.Observed
import StructSync.Proofs.OrderRule
import StructSync.Proofs.Parallel
import StructSync.Proofs.Parse
import StructSync.Proofs.Placement
import StructSync.Proofs.Registry
import StructSync.Proofs.Renamed
import StructSync.Proofs.Renaming
import StructSync.Proofs.Rendering
import StructSync.Proofs.Reordering
import StructSync.Proofs.Replacing
import StructSync.Proofs.Resolve
import StructSync.Proofs.Rollback
import StructSync.Proofs.Run
import StructSync.Proofs.Schema
import StructSync.Proofs.SelectionOrder
import StructSync.Proofs.Stepwise
import StructSync.Proofs.StorageFlags
import StructSync.Proofs.Sync
import StructSync.Proofs.Told
import StructSync.Proofs.Trace
import StructSync.Proofs.Twice
import StructSync.Proofs.Untouched
import StructSync.Proofs.Validation
import StructSync.Proofs.Verdict
import StructSync.Proofs.WordMap
import StructSync.Proofs.Work
import StructSync.Reconcile
import StructSync.Refusal
import StructSync.Registry
import StructSync.Rendering
import StructSync.Report
import StructSync.Schema
import StructSync.Sync
import StructSync.SyncError
import StructSync.Text.Blank
import StructSync.Text.Casing
import StructSync.Text.CharSet
import StructSync.Text.ControlSequence
import StructSync.Text.Numeral
import StructSync.Text.Printable
import StructSync.Text.Property
import StructSync.Text.Property.Age
import StructSync.Text.Property.Binary
import StructSync.Text.Property.Category
import StructSync.Text.Property.Script
import StructSync.Text.Property.ScriptExtension
import StructSync.Text.Property.Segmentation
import StructSync.Text.Quoted
import StructSync.Word
import StructSync.WordMap
