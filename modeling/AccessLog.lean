import AccessLog.Calendar
import AccessLog.Decimal.Binary64
import AccessLog.Decimal.Fixed
import AccessLog.Decimal.Shortest
import AccessLog.Diagnostics.Line
import AccessLog.Diagnostics.Loggers
import AccessLog.Diagnostics.Notice
import AccessLog.Diagnostics.Template
import AccessLog.Emitter.Basic
import AccessLog.Emitter.Network
import AccessLog.Emitter.Options
import AccessLog.Environment
import AccessLog.Exchange.App
import AccessLog.Exchange.Context
import AccessLog.Exchange.Install
import AccessLog.Exchange.Layer
import AccessLog.Exchange.Loop
import AccessLog.Exchange.Play
import AccessLog.Exchange.Response
import AccessLog.Exchange.Scope
import AccessLog.Exchange.Stack
import AccessLog.Exchange.View
import AccessLog.Failure
import AccessLog.Format.Compiled
import AccessLog.Format.Registry
import AccessLog.Format.Specifier
import AccessLog.Network.Address
import AccessLog.Proofs.Diagnostics.Setups
import AccessLog.Proofs.Emitter.Accounts
import AccessLog.Proofs.Emitter.Delivery
import AccessLog.Proofs.Emitter.Leaks
import AccessLog.Proofs.Emitter.Options
import AccessLog.Proofs.Exchange.Alongside
import AccessLog.Proofs.Exchange.Bare
import AccessLog.Proofs.Exchange.Completion
import AccessLog.Proofs.Exchange.Contexts
import AccessLog.Proofs.Exchange.Course
import AccessLog.Proofs.Exchange.Gating
import AccessLog.Proofs.Exchange.Kept
import AccessLog.Proofs.Exchange.Outcome
import AccessLog.Proofs.Exchange.Records
import AccessLog.Proofs.Exchange.Reply
import AccessLog.Proofs.Exchange.Signals
import AccessLog.Proofs.Exchange.Skipping
import AccessLog.Proofs.Exchange.Stacking
import AccessLog.Proofs.Exchange.Status
import AccessLog.Proofs.Exchange.Steady
import AccessLog.Proofs.Exchange.Transparency
import AccessLog.Proofs.Exchange.Turns
import AccessLog.Proofs.Exchange.Untimed
import AccessLog.Proofs.Exchange.Waiting
import AccessLog.Proofs.Format.Failing
import AccessLog.Proofs.Format.Fields
import AccessLog.Proofs.Format.Grammar
import AccessLog.Proofs.Format.Options
import AccessLog.Proofs.Format.Registry
import AccessLog.Proofs.Format.Rendering
import AccessLog.Proofs.Settings.Paths
import AccessLog.Proofs.Settings.Transport
import AccessLog.Proofs.Text.Case
import AccessLog.Proofs.Text.Decoding
import AccessLog.Proofs.Text.Pieces
import AccessLog.Proofs.Text.Utf8
import AccessLog.Proofs.Token.Answers
import AccessLog.Proofs.Token.Clocks
import AccessLog.Proofs.Token.Headers
import AccessLog.Proofs.Wire.Canonical
import AccessLog.Proofs.Wire.Consumption
import AccessLog.Proofs.Wire.Extent
import AccessLog.Proofs.Wire.Layout
import AccessLog.Proofs.Wire.Names
import AccessLog.Proofs.Wire.Reading
import AccessLog.Proofs.Wire.RoundTrip
import AccessLog.Proofs.Wire.Truncation
import AccessLog.Service.Answer
import AccessLog.Service.Basic
import AccessLog.Service.Pages
import AccessLog.Settings.Basic
import AccessLog.Settings.File
import AccessLog.Simulation.Inspection
import AccessLog.Simulation.Script
import AccessLog.Table
import AccessLog.Text.Basic
import AccessLog.Text.Blank
import AccessLog.Text.Case
import AccessLog.Text.Encoding
import AccessLog.Text.Json
import AccessLog.Text.Percent
import AccessLog.Text.Printable
import AccessLog.Text.Quoted
import AccessLog.Text.Ranges
import AccessLog.Text.Word
import AccessLog.Token.Basic
import AccessLog.Token.BuiltIn
import AccessLog.Validation
import AccessLog.Value.Basic
import AccessLog.Value.Display
import AccessLog.Wire.Basic
import AccessLog.Wire.Read
import AccessLog.Wire.Values
import AccessLog.Wire.Write
