import NativeFlow.Call.Basic
import NativeFlow.Call.Field
import NativeFlow.Call.Member
import NativeFlow.Call.Method
import NativeFlow.Call.Native
import NativeFlow.Call.Object
import NativeFlow.Call.Reply
import NativeFlow.Call.Text
import NativeFlow.Catalog
import NativeFlow.Command.Files
import NativeFlow.Command.Options
import NativeFlow.Command.Run
import NativeFlow.Descriptor
import NativeFlow.Finding
import NativeFlow.Interface.Basic
import NativeFlow.Interface.Naming
import NativeFlow.Interface.Table
import NativeFlow.Json.Basic
import NativeFlow.Json.Reader
import NativeFlow.Kind
import NativeFlow.Main
import NativeFlow.Memory
import NativeFlow.Note
import NativeFlow.Proofs.Effect
import NativeFlow.Proofs.Findings
import NativeFlow.Proofs.Intent
import NativeFlow.Proofs.Monotone
import NativeFlow.Proofs.Position
import NativeFlow.Proofs.Related
import NativeFlow.Proofs.Run
import NativeFlow.Proofs.Similar.Basic
import NativeFlow.Proofs.Similar.Call
import NativeFlow.Proofs.Similar.Run
import NativeFlow.Proofs.Value
import NativeFlow.Proofs.WellFormed.Basic
import NativeFlow.Proofs.WellFormed.Run
import NativeFlow.Proofs.WriteBack
import NativeFlow.Registry
import NativeFlow.Replay.Basic
import NativeFlow.Replay.Coverage
import NativeFlow.Report.Document
import NativeFlow.Report.Rendering
import NativeFlow.Report.Summary
import NativeFlow.SortedMap
import NativeFlow.Taint
import NativeFlow.Text.Blank
import NativeFlow.Text.Invisible
import NativeFlow.Text.Numeral
import NativeFlow.Text.Quoted
import NativeFlow.Text.Utf16
import NativeFlow.Text.Utf8
import NativeFlow.Trace.Basic
import NativeFlow.Trace.Reader
import NativeFlow.Value
import NativeFlow.Proofs.Frame
import NativeFlow.Proofs.Control
import NativeFlow.Proofs.FieldHistory
import NativeFlow.Proofs.Derivation
import NativeFlow.Proofs.Untainted
import NativeFlow.Proofs.Composition
import NativeFlow.Proofs.Categories
import NativeFlow.Proofs.Convention
import NativeFlow.Proofs.Accounting
import NativeFlow.Proofs.Handles
import NativeFlow.Proofs.Rebinding
import NativeFlow.Proofs.Document.Reading
import NativeFlow.Proofs.Precedence
import NativeFlow.Proofs.Inheritance
import NativeFlow.Proofs.ByteOrder
import NativeFlow.Proofs.Sinks
import NativeFlow.Proofs.Fallback
import NativeFlow.Proofs.Descriptor.Denotation
import NativeFlow.Proofs.Registry
import NativeFlow.Proofs.Memory
import NativeFlow.Proofs.Records
import NativeFlow.Proofs.Catalog
import NativeFlow.Proofs.ByteReads
import NativeFlow.Proofs.Utf16
import NativeFlow.Proofs.Objects
import NativeFlow.Proofs.Join
import NativeFlow.Proofs.ClassNames
import NativeFlow.Proofs.Report.Written
import NativeFlow.Proofs.Report.Results
import NativeFlow.Proofs.Report.Totals
import NativeFlow.Proofs.Command.Options
import NativeFlow.Proofs.Command.Run
