import Atari6502.Address
import Atari6502.Bytes
import Atari6502.CommandLine.Basic
import Atari6502.CommandLine.Parse
import Atari6502.CommandLine.Run
import Atari6502.CommandLine.Step
import Atari6502.Decimal.Binary
import Atari6502.Decimal.Fixed
import Atari6502.Decimal.Shortest
import Atari6502.Directory
import Atari6502.Disassembly
import Atari6502.Event
import Atari6502.Failure
import Atari6502.Hex
import Atari6502.HexDump
import Atari6502.Instruction
import Atari6502.Json
import Atari6502.Listing
import Atari6502.Load.Chain
import Atari6502.Load.Log
import Atari6502.Load.Report
import Atari6502.Load.Warning
import Atari6502.Main
import Atari6502.Mode
import Atari6502.Opcode
import Atari6502.Operand
import Atari6502.Proofs.Additivity
import Atari6502.Proofs.AddressMap
import Atari6502.Proofs.Appending
import Atari6502.Proofs.Balance
import Atari6502.Proofs.Branches
import Atari6502.Proofs.Counting
import Atari6502.Proofs.Documents
import Atari6502.Proofs.Events
import Atari6502.Proofs.Excerpt
import Atari6502.Proofs.Format
import Atari6502.Proofs.Grammar
import Atari6502.Proofs.HexDump
import Atari6502.Proofs.Kinds
import Atari6502.Proofs.Layout
import Atari6502.Proofs.Listing
import Atari6502.Proofs.Notation
import Atari6502.Proofs.Numerals
import Atari6502.Proofs.Objects
import Atari6502.Proofs.Outcomes
import Atari6502.Proofs.Overrides
import Atari6502.Proofs.Placement
import Atari6502.Proofs.Program
import Atari6502.Proofs.RawImage
import Atari6502.Proofs.Relocation
import Atari6502.Proofs.Report
import Atari6502.Proofs.RoundTrip
import Atari6502.Proofs.Scanning
import Atari6502.Proofs.Skipping
import Atari6502.Proofs.Streaming
import Atari6502.Proofs.Sweep
import Atari6502.Proofs.Table
import Atari6502.Proofs.Text
import Atari6502.Proofs.Validity
import Atari6502.Proofs.Words
import Atari6502.Segment
import Atari6502.Session
import Atari6502.Settings.Basic
import Atari6502.Settings.Document
import Atari6502.Settings.Fault
import Atari6502.Settings.Format
import Atari6502.Settings.Scan
import Atari6502.Settings.Scan.Number
import Atari6502.Settings.Scan.Skip
import Atari6502.Settings.Scan.Text
import Atari6502.Settings.Schema
import Atari6502.Tally.Basic
import Atari6502.Tally.Report
import Atari6502.Text.Blank
import Atari6502.Text.Control
import Atari6502.Text.Printable
import Atari6502.Text.Quoted
