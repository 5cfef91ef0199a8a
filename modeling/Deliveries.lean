import Deliveries.Text.Ranges
import Deliveries.Text.Blank
import Deliveries.Text.Utf8
import Deliveries.Text.Utf8.Lemmas
import Deliveries.Text.Decimal
import Deliveries.Text.Alphanumeric
import Deliveries.Text.Unprintable
import Deliveries.Text.Quoted
import Deliveries.Calendar
import Deliveries.Datetime.Basic
import Deliveries.Datetime.Written
import Deliveries.Datetime.Reading
import Deliveries.Csv.Basic
import Deliveries.Csv.Scanner
import Deliveries.Csv.Source
import Deliveries.Csv.Rendering
import Deliveries.Csv.Sink
import Deliveries.Files
import Deliveries.Fault
import Deliveries.Dataset.Basic
import Deliveries.Dataset.Reading
import Deliveries.Dataset.Writing
import Deliveries.Criteria
import Deliveries.Dataset.Extract
import Deliveries.Session
import Deliveries.Log.Level
import Deliveries.Log.Event
import Deliveries.Log.Pattern.Basic
import Deliveries.Log.Pattern.Reading
import Deliveries.Log.Condition
import Deliveries.Log.Filter
import Deliveries.Command
import Deliveries.Run
import Deliveries.Machine
import Deliveries.Main
import Deliveries.Proofs.Text.Ascii
import Deliveries.Proofs.Text.Decimal
import Deliveries.Proofs.Datetime.Spelling
import Deliveries.Proofs.Datetime.RoundTrip
import Deliveries.Proofs.Csv.Cursor
import Deliveries.Proofs.Csv.Layout
import Deliveries.Proofs.Csv.Joining
import Deliveries.Proofs.Csv.Places
import Deliveries.Proofs.Csv.Rendering
import Deliveries.Proofs.Csv.Text
import Deliveries.Proofs.Datetime.Canonical
import Deliveries.Proofs.Csv.Sink
import Deliveries.Proofs.Dataset.Reading
import Deliveries.Proofs.Dataset.RoundTrip
import Deliveries.Proofs.Criteria.Selection
import Deliveries.Proofs.Criteria.Candidates
import Deliveries.Proofs.Criteria.Meet
import Deliveries.Proofs.Criteria.Stepwise
import Deliveries.Proofs.Dataset.WellFormed
import Deliveries.Proofs.Dataset.Agreement
import Deliveries.Proofs.Dataset.Extract
import Deliveries.Proofs.Dataset.Layouts
import Deliveries.Proofs.Dataset.Appending
import Deliveries.Proofs.Dataset.Header
import Deliveries.Proofs.Dataset.Lines
import Deliveries.Proofs.Session
import Deliveries.Proofs.Files
import Deliveries.Proofs.Command
import Deliveries.Proofs.Machine
import Deliveries.Proofs.Dataset.Range
import Deliveries.Proofs.Csv.Positions
import Deliveries.Proofs.Dataset.Partition
import Deliveries.Proofs.Csv.Textual
import Deliveries.Proofs.Dataset.Verdict
import Deliveries.Proofs.Dataset.Breaking
import Deliveries.Proofs.Criteria.Alike
import Deliveries.Proofs.Dataset.Writing
import Deliveries.Proofs.Files.Logged
import Deliveries.Proofs.Ending
