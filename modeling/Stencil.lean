import Stencil.CommandLine.Invocation
import Stencil.CommandLine.Run
import Stencil.CommandLine.Setup
import Stencil.CommandLine.Usage
import Stencil.CommandLine.Words
import Stencil.Document
import Stencil.Inclusion
import Stencil.Lookup
import Stencil.Mapping
import Stencil.Markers
import Stencil.Note
import Stencil.Number.Binary64
import Stencil.Number.Shortest
import Stencil.Path
import Stencil.Pipeline
import Stencil.Property
import Stencil.Scan
import Stencil.Segmentation
import Stencil.Session
import Stencil.Settings.Basic
import Stencil.Settings.Coercion
import Stencil.Settings.Reading
import Stencil.Str
import Stencil.Surroundings.Columns
import Stencil.Surroundings.Pictogram
import Stencil.Surroundings.PictogramTable
import Stencil.Surroundings.Wording
import Stencil.Text.Basic
import Stencil.Text.Blank
import Stencil.Text.Digits
import Stencil.Text.Lines
import Stencil.Text.Printable
import Stencil.Text.Quoted
import Stencil.Text.Utf8
import Stencil.Value
import Stencil.VariableFile
import Stencil.Wording
import Stencil.World
import Stencil.Main
import Stencil.Proofs.Scan.Spans
import Stencil.Proofs.Scan.Decomposition
import Stencil.Proofs.Inclusion.Confinement
import Stencil.Proofs.Scan.Quoting
import Stencil.Proofs.Scan.Replies
import Stencil.Proofs.Scan.Filling
import Stencil.Proofs.Lookup.Pass
import Stencil.Proofs.Lookup.Rewrapping
import Stencil.Proofs.Mapping.Entries
import Stencil.Proofs.Lookup.Staging
import Stencil.Proofs.Pipeline.Failure
import Stencil.Proofs.Pipeline.Notes
import Stencil.Proofs.Session.Building
import Stencil.Proofs.Document.Rendering
import Stencil.Proofs.Document.Reading
import Stencil.Proofs.CommandLine.Spelling
import Stencil.Proofs.CommandLine.Agreement
import Stencil.Proofs.CommandLine.Collecting
import Stencil.Proofs.Property.Options
import Stencil.Proofs.CommandLine.Output
import Stencil.Proofs.Scan.Extending
import Stencil.Proofs.Scan.Joining
import Stencil.Proofs.Inclusion.Transparency
import Stencil.Proofs.Lookup.Unanswered
import Stencil.Proofs.Scan.Restarting
import Stencil.Proofs.Inclusion.Checking
import Stencil.Proofs.Document.Loading
import Stencil.Proofs.Lookup.Asking
import Stencil.Proofs.Pipeline.Trace
import Stencil.Proofs.Scan.Accounting
import Stencil.Proofs.Document.Acceptance
import Stencil.Proofs.CommandLine.Failing
import Stencil.Proofs.Scan.Closing
