import Allotment.Order
import Allotment.Text.Ranges
import Allotment.Text.Blank
import Allotment.Text.CaseTable
import Allotment.Text.Printable
import Allotment.Text.DecimalDigit
import Allotment.Text.Lower
import Allotment.Text.Numeral
import Allotment.Text.Hex
import Allotment.Text.Quoted
import Allotment.Text.Lines
import Allotment.Text.Utf8
import Allotment.Text.CodePoint
import Allotment.Text.Wide
import Allotment.Text.Encoding
import Allotment.Space
import Allotment.Failure
import Allotment.Notice
import Allotment.Zone
import Allotment.Window
import Allotment.Digest.Sha256
import Allotment.Placement.Hash
import Allotment.Placement.Search
import Allotment.Number.Binary64
import Allotment.Number.Shortest
import Allotment.Argument
import Allotment.Assoc
import Allotment.Registrant
import Allotment.Path
import Allotment.Layout
import Allotment.Reservation
import Allotment.Text.Json
import Allotment.Report
import Allotment.Text.Entries
import Allotment.Ledger.Basic
import Allotment.Ledger.Settlement
import Allotment.Roster.Basic
import Allotment.Disk
import Allotment.Roster.Admission
import Allotment.Registry.Basic
import Allotment.Registry.Desk
import Allotment.Registry.Request
import Allotment.Usage
import Allotment.Office
import Allotment.Proofs.Reservation
import Allotment.Proofs.Disk.Reading
import Allotment.Proofs.Disk.Frame
import Allotment.Proofs.Text.LowerCase
import Allotment.Proofs.Naming
import Allotment.Proofs.Text.Written
import Allotment.Proofs.Text.Breaks
import Allotment.Proofs.Ledger.Table
import Allotment.Proofs.Ledger.Copy
import Allotment.Proofs.Ledger.RoundTrip
import Allotment.Proofs.Ledger.Fate
import Allotment.Proofs.Roster.Copy
import Allotment.Proofs.Roster.RoundTrip
import Allotment.Proofs.Roster.Grammar
import Allotment.Proofs.Roster.Receiving
import Allotment.Proofs.Placement.Room
import Allotment.Proofs.Placement.Gaps
import Allotment.Proofs.Placement.Reference
import Allotment.Proofs.Placement.Crowding
import Allotment.Proofs.Placement.Round
import Allotment.Proofs.Placement.Complement
import Allotment.Proofs.Placement.Tiling
import Allotment.Proofs.Placement.HashValue
import Allotment.Proofs.Number.Fraction
import Allotment.Proofs.Registry.Act
import Allotment.Proofs.Registry.Lawful
import Allotment.Proofs.Registry.Files
import Allotment.Proofs.Registry.Turn
import Allotment.Proofs.Registry.Saving
import Allotment.Proofs.Registry.Opening
import Allotment.Proofs.Registry.Loading
import Allotment.Proofs.Registry.Placing
import Allotment.Proofs.Registry.Allocating
import Allotment.Proofs.Registry.Serve
import Allotment.Proofs.Registry.Invariants
import Allotment.Proofs.Registry.UsageReport
import Allotment.Proofs.Registry.Lifetimes
import Allotment.Proofs.Registry.Restart
import Allotment.Proofs.Registry.Durability
import Allotment.Proofs.Registry.Stored
import Allotment.Proofs.Registry.WriteThrough
import Allotment.Proofs.Registry.SettingUp
import Allotment.Proofs.Registry.NormalForm
import Allotment.Proofs.Registry.Frozen
import Allotment.Proofs.Registry.Isolation
import Allotment.Proofs.Registry.Spelling
import Allotment.Proofs.Registry.Availability
import Allotment.Proofs.Registry.Independence
import Allotment.Proofs.Registry.Refusal
import Allotment.Proofs.Registry.Lineage
import Allotment.Proofs.Registry.Attachment
import Allotment.Proofs.Registry.Reissue
import Allotment.Proofs.FirstCome
import Allotment.Proofs.Ledger.Settling
import Allotment.Proofs.Roster.Admitting
import Allotment.Proofs.Registry.Enlisting
import Allotment.Proofs.Registry.Traces
import Allotment.Proofs.Registry.Dealing
