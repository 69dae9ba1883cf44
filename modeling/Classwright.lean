import Classwright.Class.Assembly
import Classwright.CommandLine.Reach
import Classwright.Config.Logging
import Classwright.Config.Settings
import Classwright.Disk.Change
import Classwright.Document.Input
import Classwright.Generation
import Classwright.Macro.Registry
import Classwright.Main
import Classwright.Proofs.Class.Described
import Classwright.Proofs.Class.Lines
import Classwright.Proofs.Class.Member
import Classwright.Proofs.Class.Retraction
import Classwright.Proofs.Class.Sequence
import Classwright.Proofs.CommandLine.Console
import Classwright.Proofs.CommandLine.Run
import Classwright.Proofs.Comment.Break
import Classwright.Proofs.Comment.Collapse
import Classwright.Proofs.Comment.Flow
import Classwright.Proofs.Comment.Frame
import Classwright.Proofs.Comment.Kept
import Classwright.Proofs.Comment.Line
import Classwright.Proofs.Comment.Packing
import Classwright.Proofs.Comment.Paragraph
import Classwright.Proofs.Comment.Phrase
import Classwright.Proofs.Comment.Rewrap
import Classwright.Proofs.Comment.Separator
import Classwright.Proofs.Comment.Terminator
import Classwright.Proofs.Comment.Token
import Classwright.Proofs.Comment.Words
import Classwright.Proofs.DocType.Stability
import Classwright.Proofs.Document.Failure
import Classwright.Proofs.Document.Members
import Classwright.Proofs.Generation.Added
import Classwright.Proofs.Generation.Agreement
import Classwright.Proofs.Generation.Batch
import Classwright.Proofs.Generation.Failure
import Classwright.Proofs.Generation.Obstruction
import Classwright.Proofs.Macro.Expansion
import Classwright.Proofs.Macro.Placeholder
import Classwright.Proofs.Macro.Registry
import Classwright.Proofs.Macro.Requote
import Classwright.Proofs.Outcome
import Classwright.Proofs.Snippet.Stray
import Classwright.Proofs.Stateful
import Classwright.Proofs.Text.Boundary
import Classwright.Proofs.Text.Occurrence
import Classwright.Proofs.Writer.Appending
import Classwright.Proofs.Writer.Ledger
import Classwright.Snippet
import Classwright.Xml.Document
import Classwright.Proofs.Comment.TabStop
import Classwright.Proofs.Macro.Gap
