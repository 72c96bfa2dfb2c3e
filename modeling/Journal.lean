import Journal.Main
import Journal.Checkpoint.Round
import Journal.Segment.Reader
import Journal.Proofs.Codec.Numbers
import Journal.Proofs.Codec.Schema
import Journal.Proofs.Codec.Payload
import Journal.Proofs.Codec.Record
import Journal.Proofs.Segment.Language
import Journal.Proofs.Json.Legible
import Journal.Proofs.Json.Numeral
import Journal.Proofs.Json.Structure
import Journal.Proofs.Json.Lexemes
import Journal.Proofs.Json.Texts
import Journal.Proofs.Codec.Textual
import Journal.Proofs.Document
import Journal.Proofs.Segment.Writer
import Journal.Proofs.Segment.Emitter
import Journal.Proofs.Checkpoint.Transfer
import Journal.Proofs.Storage.Directories
import Journal.Proofs.Transcoding
import Journal.Proofs.Checkpoint.Names
import Journal.Proofs.Checkpoint.Consolidation
import Journal.Proofs.Checkpoint.Ledger
import Journal.Proofs.Checkpoint.Obstacle
import Journal.Proofs.Segment.Trace
import Journal.Proofs.Segment.Resync
import Journal.Proofs.Segment.Lookahead
import Journal.Proofs.Segment.Session
import Journal.Proofs.Codec.Damage
import Journal.Proofs.Segment.Damage
import Journal.Proofs.Segment.Truncation
import Journal.Proofs.Segment.StrictTruncation
import Journal.Proofs.Segment.Append
import Journal.Proofs.Segment.History
import Journal.Proofs.Segment.InProgress
import Journal.Proofs.Segment.Backlog
import Journal.Proofs.Segment.Accounting
import Journal.Proofs.Segment.Modes
import Journal.Proofs.Repair
import Journal.Proofs.Checkpoint.FailedCommit
import Journal.Proofs.Protocol
import Journal.Proofs.Checkpoint.Chain
import Journal.Proofs.Checkpoint.Interference
import Journal.Proofs.Checkpoint.Recording
import Journal.Proofs.Checkpoint.Report
import Journal.Proofs.Checkpoint.Conclusion
import Journal.Proofs.Codec.Canonical
import Journal.Proofs.Segment.Content
import Journal.Proofs.Order
import Journal.Proofs.Codec.Stability
import Journal.Proofs.Json.Grammar
import Journal.Proofs.Json.Rewriting
import Journal.Proofs.Rewriting
import Journal.Proofs.Segment.Header
import Journal.Proofs.Segment.Acknowledged
import Journal.Proofs.Sniffing
import Journal.Proofs.Simulation
import Journal.Proofs.Intake
import Journal.Proofs.Storage.Names
import Journal.Proofs.Conversion
import Journal.Proofs.Codec.Delimited
import Journal.Proofs.Lines
import Journal.Proofs.Statistics
