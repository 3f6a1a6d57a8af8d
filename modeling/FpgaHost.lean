import FpgaHost.Bytes
import FpgaHost.Cli.Commands
import FpgaHost.Cli.Files
import FpgaHost.Cli.Options
import FpgaHost.Cli.Report
import FpgaHost.Decimal.Fixed
import FpgaHost.Device.Api
import FpgaHost.Device.Basic
import FpgaHost.Device.Instrumented
import FpgaHost.Device.Request
import FpgaHost.Image.Argument
import FpgaHost.Image.Basic
import FpgaHost.Image.Error
import FpgaHost.Image.Filling
import FpgaHost.Image.Header
import FpgaHost.Image.Layout
import FpgaHost.Image.Manifest
import FpgaHost.Image.Memory
import FpgaHost.Image.Mode
import FpgaHost.Image.Region
import FpgaHost.Image.Section
import FpgaHost.Image.Spec
import FpgaHost.Image.Summary
import FpgaHost.Main
import FpgaHost.Octets
import FpgaHost.Placement
import FpgaHost.Proofs.Cli.Simulation
import FpgaHost.Proofs.Device.Calls
import FpgaHost.Proofs.Device.Commands
import FpgaHost.Proofs.Device.Ledger
import FpgaHost.Proofs.Image.Assembly
import FpgaHost.Proofs.Image.Banks
import FpgaHost.Proofs.Image.Counted
import FpgaHost.Proofs.Image.Declared
import FpgaHost.Proofs.Image.Directory
import FpgaHost.Proofs.Image.Document
import FpgaHost.Proofs.Image.Faults
import FpgaHost.Proofs.Image.Fields
import FpgaHost.Proofs.Image.Filling
import FpgaHost.Proofs.Image.Identification
import FpgaHost.Proofs.Image.LaidOut
import FpgaHost.Proofs.Image.Manifest
import FpgaHost.Proofs.Image.Numbering
import FpgaHost.Proofs.Image.Parsed
import FpgaHost.Proofs.Image.RoundTrip
import FpgaHost.Proofs.Image.Selection
import FpgaHost.Proofs.Image.Slots
import FpgaHost.Proofs.Image.Tables
import FpgaHost.Proofs.Image.Truncation
import FpgaHost.Proofs.Image.WhiteSpace
import FpgaHost.Proofs.Outcome
import FpgaHost.Proofs.Placement
import FpgaHost.Proofs.Session.Acceptance
import FpgaHost.Proofs.Session.Accounts
import FpgaHost.Proofs.Session.Arguments
import FpgaHost.Proofs.Session.Attempts
import FpgaHost.Proofs.Session.Bills
import FpgaHost.Proofs.Session.Binding
import FpgaHost.Proofs.Session.Chaining
import FpgaHost.Proofs.Session.Custody
import FpgaHost.Proofs.Session.CycleTime
import FpgaHost.Proofs.Session.Cycles
import FpgaHost.Proofs.Session.DataFlow
import FpgaHost.Proofs.Session.Decisions
import FpgaHost.Proofs.Session.Directives
import FpgaHost.Proofs.Session.Failures
import FpgaHost.Proofs.Session.Holding
import FpgaHost.Proofs.Session.Ledger
import FpgaHost.Proofs.Session.Managers
import FpgaHost.Proofs.Session.Measured
import FpgaHost.Proofs.Session.Operations
import FpgaHost.Proofs.Session.Orderly
import FpgaHost.Proofs.Session.Prices
import FpgaHost.Proofs.Session.Profiling
import FpgaHost.Proofs.Session.Protocol
import FpgaHost.Proofs.Session.Reachable
import FpgaHost.Proofs.Session.Retention
import FpgaHost.Proofs.Session.Running
import FpgaHost.Proofs.Session.Sound
import FpgaHost.Proofs.Session.Stages
import FpgaHost.Proofs.Session.Start
import FpgaHost.Proofs.Session.Submissions
import FpgaHost.Proofs.Session.Teardown
import FpgaHost.Proofs.Simulator.Calls
import FpgaHost.Proofs.Simulator.Chronicle
import FpgaHost.Proofs.Simulator.Collection
import FpgaHost.Proofs.Simulator.Completion
import FpgaHost.Proofs.Simulator.Contexts
import FpgaHost.Proofs.Simulator.Costs
import FpgaHost.Proofs.Simulator.Execution
import FpgaHost.Proofs.Simulator.Freshness
import FpgaHost.Proofs.Simulator.Handles
import FpgaHost.Proofs.Simulator.History
import FpgaHost.Proofs.Simulator.HostKernels
import FpgaHost.Proofs.Simulator.Instants
import FpgaHost.Proofs.Simulator.Memory
import FpgaHost.Proofs.Simulator.Pace
import FpgaHost.Proofs.Simulator.Prospect
import FpgaHost.Proofs.Simulator.Reachable
import FpgaHost.Proofs.Simulator.Records
import FpgaHost.Proofs.Simulator.Refusals
import FpgaHost.Proofs.Simulator.Relay
import FpgaHost.Proofs.Simulator.Remains
import FpgaHost.Proofs.Simulator.Rounds
import FpgaHost.Proofs.Simulator.Serial
import FpgaHost.Proofs.Simulator.Sizes
import FpgaHost.Proofs.Simulator.Starts
import FpgaHost.Proofs.Simulator.Timeline
import FpgaHost.Proofs.Simulator.Timing
import FpgaHost.Proofs.Simulator.Trace
import FpgaHost.Proofs.Simulator.Words
import FpgaHost.Proofs.Table
import FpgaHost.Proofs.Text.Encoding
import FpgaHost.Proofs.Text.Numeral
import FpgaHost.Proofs.Word
import FpgaHost.Proofs.Xml.Grammar
import FpgaHost.Proofs.Xml.Markup
import FpgaHost.Proofs.Xml.Reading
import FpgaHost.Proofs.Xml.Value
import FpgaHost.Session.Attempt
import FpgaHost.Session.Basic
import FpgaHost.Session.Binding
import FpgaHost.Session.Buffers
import FpgaHost.Session.Config
import FpgaHost.Session.Error
import FpgaHost.Session.Pipeline
import FpgaHost.Session.Stage
import FpgaHost.Session.Timing
import FpgaHost.Simulator.Calls
import FpgaHost.Simulator.Execution
import FpgaHost.Simulator.HostKernel
import FpgaHost.Simulator.Script
import FpgaHost.Simulator.State
import FpgaHost.Table
import FpgaHost.Text.Blank
import FpgaHost.Text.Column
import FpgaHost.Text.Hidden
import FpgaHost.Text.Numeral
import FpgaHost.Text.Quoted
import FpgaHost.Text.Utf8
import FpgaHost.Word
import FpgaHost.Xml.Character
import FpgaHost.Xml.Document
import FpgaHost.Xml.Name
import FpgaHost.Xml.Token
import FpgaHost.Xml.Value
