import TraceWeave.Interchange.Reader
import TraceWeave.Main
import TraceWeave.Proofs.Rounding
import TraceWeave.Report.Reader
import TraceWeave.Toolset.Table
import TraceWeave.Proofs.Magnitude
import TraceWeave.Proofs.Microseconds
import TraceWeave.Proofs.StableSort
import TraceWeave.Proofs.Timeline
import TraceWeave.Proofs.Merge
import TraceWeave.Proofs.Moment
import TraceWeave.Proofs.Arithmetic
import TraceWeave.Proofs.Normalization
import TraceWeave.Proofs.Marker
import TraceWeave.Proofs.Clock
import TraceWeave.Proofs.Calls
import TraceWeave.Proofs.Csv
import TraceWeave.Proofs.Outcome
import TraceWeave.Proofs.Success
import TraceWeave.Proofs.Json.Grammar
import TraceWeave.Proofs.Decimal.Nearest
import TraceWeave.Proofs.Json.Reader
import TraceWeave.Proofs.Decimal.Shortest
import TraceWeave.Proofs.Decimal.Numeral
import TraceWeave.Proofs.Decimal.Layout
import TraceWeave.Proofs.Interchange
import TraceWeave.Proofs.Decimal.Grammar
import TraceWeave.Proofs.Decimal.Closest
import TraceWeave.Proofs.Monotone
import TraceWeave.Proofs.Row
import TraceWeave.Proofs.Order
import TraceWeave.Proofs.StableMerge
import TraceWeave.Proofs.Threads
import TraceWeave.Proofs.Accounting
import TraceWeave.Proofs.Ingest
import TraceWeave.Proofs.Parts
import TraceWeave.Proofs.Frame
import TraceWeave.Proofs.Alignment
import TraceWeave.Proofs.Restoration
import TraceWeave.Proofs.Start
import TraceWeave.Proofs.Blank
import TraceWeave.Proofs.Decimal.Reading
import TraceWeave.Proofs.Decoding
import TraceWeave.Proofs.Boundary
import TraceWeave.Proofs.Report
import TraceWeave.Proofs.Number
import TraceWeave.Proofs.FirstSeen
import TraceWeave.Proofs.Arrangement
import TraceWeave.Proofs.FrameRange
import TraceWeave.Proofs.History
