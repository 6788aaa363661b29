import PowerSupply.Attribute
import PowerSupply.Binding
import PowerSupply.CommandLine.Arguments
import PowerSupply.CommandLine.Help
import PowerSupply.CommandLine.Request
import PowerSupply.CommandLine.Session
import PowerSupply.CommandLine.Threshold
import PowerSupply.Configuration
import PowerSupply.Discovery
import PowerSupply.Fault
import PowerSupply.FileTree.Basic
import PowerSupply.FileTree.Change
import PowerSupply.Json.Basic
import PowerSupply.Json.Display
import PowerSupply.Json.Merge
import PowerSupply.Json.Printer
import PowerSupply.Json.Reader
import PowerSupply.Main
import PowerSupply.Note
import PowerSupply.Number.Binary64
import PowerSupply.Number.Fixed
import PowerSupply.Number.Shortest
import PowerSupply.Path
import PowerSupply.Proofs.Attribute
import PowerSupply.Proofs.CommandLine.Watch
import PowerSupply.Proofs.Configuration
import PowerSupply.Proofs.Discovery.Device
import PowerSupply.Proofs.Discovery.Files
import PowerSupply.Proofs.Discovery.Level
import PowerSupply.Proofs.Discovery.Scan
import PowerSupply.Proofs.Discovery.Voltage
import PowerSupply.Proofs.FileTree.Write
import PowerSupply.Proofs.Json.Basic
import PowerSupply.Proofs.Json.Distinct
import PowerSupply.Proofs.Json.Merge
import PowerSupply.Proofs.Json.RoundTrip
import PowerSupply.Proofs.Json.Text
import PowerSupply.Proofs.Json.Visible
import PowerSupply.Proofs.Last
import PowerSupply.Proofs.Number.Quotient
import PowerSupply.Proofs.Refresh.Discovered
import PowerSupply.Proofs.Refresh.Effect
import PowerSupply.Proofs.Refresh.History
import PowerSupply.Proofs.Refresh.Locality
import PowerSupply.Proofs.Report
import PowerSupply.Proofs.Service.Calls
import PowerSupply.Proofs.Service.Stage
import PowerSupply.Proofs.Settings
import PowerSupply.Proofs.Text.Digits
import PowerSupply.Proofs.Text.Integer
import PowerSupply.Proofs.Text.Utf8
import PowerSupply.Proofs.Trace
import PowerSupply.Provider
import PowerSupply.Provider.Scripted
import PowerSupply.Refresh
import PowerSupply.Report
import PowerSupply.Service
import PowerSupply.Settings
import PowerSupply.Snapshot
import PowerSupply.Supply
import PowerSupply.Text.Blank
import PowerSupply.Text.DecimalDigit
import PowerSupply.Text.Hex
import PowerSupply.Text.Integer
import PowerSupply.Text.Lines
import PowerSupply.Text.Quoted
import PowerSupply.Text.Unseen
import PowerSupply.Text.Utf8
import PowerSupply.Trace
import PowerSupply.Proofs.Refresh.Divisor
import PowerSupply.Proofs.Discovery.Outcome
import PowerSupply.Proofs.Json.LineEnds
import PowerSupply.Proofs.Settings.Content
import PowerSupply.Proofs.CommandLine.Objects
import PowerSupply.Proofs.Service.Updates
import PowerSupply.Proofs.Service.Ranges
import PowerSupply.Proofs.Attribute.Word
import PowerSupply.Proofs.Discovery.Chargers
import PowerSupply.Proofs.Settings.Lookup
import PowerSupply.Proofs.CommandLine.Pauses
import PowerSupply.Proofs.Discovery.Quantities
import PowerSupply.Proofs.Discovery.Log
import PowerSupply.Proofs.Refresh.Online
import PowerSupply.Proofs.Refresh.Level
import PowerSupply.Proofs.Number.Nearest
import PowerSupply.Proofs.Number.Truncation
import PowerSupply.Proofs.Refresh.Voltage
import PowerSupply.Proofs.Service.Names
import PowerSupply.Proofs.Service.Failures
import PowerSupply.Proofs.Binding.Refusal
import PowerSupply.Proofs.Json.Walk
import PowerSupply.Proofs.Json.Absorption
import PowerSupply.Proofs.Settings.Merging
import PowerSupply.Proofs.FileTree.Ways
import PowerSupply.Proofs.FileTree.Growth
import PowerSupply.Proofs.Settings.Reload
import PowerSupply.Proofs.Attribute.Number
import PowerSupply.Proofs.Number.Tenths
import PowerSupply.Proofs.Report.Temperature
import PowerSupply.Proofs.Attribute.Flag
import PowerSupply.Proofs.CommandLine.Verbosity
import PowerSupply.Proofs.Attribute.Content
import PowerSupply.Proofs.Attribute.Vocabulary
import PowerSupply.Proofs.CommandLine.Number
