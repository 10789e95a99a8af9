import Clearance.Batches
import Clearance.Component.Coordinates
import Clearance.Component.Id
import Clearance.Component.Notation
import Clearance.Component.Notation.FivePart
import Clearance.Component.Notation.Maven
import Clearance.Component.Notation.Npm
import Clearance.Component.Notation.PackageUrl
import Clearance.Decimal.Binary64
import Clearance.Decimal.Shortest
import Clearance.Duration
import Clearance.Entry
import Clearance.Event
import Clearance.Invocation
import Clearance.Json.Number
import Clearance.Json.Reader
import Clearance.Json.Token
import Clearance.Json.Value
import Clearance.Json.Writer
import Clearance.License.ApprovedSet
import Clearance.License.Expr
import Clearance.License.Parser
import Clearance.License.Token
import Clearance.Main
import Clearance.Observation
import Clearance.Proofs.Register
import Clearance.Proofs.Resolution.Calls
import Clearance.Proofs.Resolution.Turn
import Clearance.Proofs.Resolution.Walk
import Clearance.Provider
import Clearance.Provider.Failure
import Clearance.Register
import Clearance.Report.Row
import Clearance.Report.Table
import Clearance.Report.Tally
import Clearance.Report.Terminal
import Clearance.Resolution
import Clearance.Resolution.Options
import Clearance.Service.ClearlyDefined
import Clearance.Service.Foundation
import Clearance.Session
import Clearance.Settings
import Clearance.Settings.Discovery
import Clearance.Settings.Document
import Clearance.Text.Basic
import Clearance.Text.CharClass
import Clearance.Text.CharWidth
import Clearance.Text.Joining
import Clearance.Text.Percent
import Clearance.Text.Pictograph
import Clearance.Text.Width
import Clearance.Toml.Number
import Clearance.Toml.Reader
import Clearance.Toml.Text
import Clearance.Toml.Value
import Clearance.Transport
import Clearance.Transport.Script
import Clearance.Proofs.Resolution.Schedule
import Clearance.Proofs.Resolution.Queries
import Clearance.Proofs.Service.Requests
import Clearance.Proofs.Resolution.Truncation
import Clearance.Proofs.License.Spelling
import Clearance.Proofs.License.Derivation
import Clearance.Proofs.License.Grammar
import Clearance.Proofs.License.Regrouping
import Clearance.Proofs.License.Printing
import Clearance.Proofs.Component.Canonical
import Clearance.Proofs.Component.Separation
import Clearance.Proofs.Session.ExitCode
import Clearance.Proofs.Resolution.Answers
import Clearance.Proofs.Component.Answerable
import Clearance.Proofs.Component.Words
import Clearance.Proofs.Component.Releases
import Clearance.Proofs.Resolution.Evidence
import Clearance.Proofs.Service.Provenance
import Clearance.Proofs.Component.Hiding
import Clearance.Proofs.Component.Scheme
import Clearance.Proofs.Report.Summary
import Clearance.Proofs.License.Approval
import Clearance.Proofs.Service.Judgement
import Clearance.Proofs.Text.Encoding
import Clearance.Proofs.Text.Pattern
import Clearance.Proofs.Component.PackageUrls
import Clearance.Proofs.Component.Dependencies
import Clearance.Proofs.Component.FixedPoint
import Clearance.Proofs.Component.Lists
import Clearance.Proofs.Batches
import Clearance.Proofs.Entry
import Clearance.Proofs.License.FullForm
import Clearance.Proofs.License.Composition
import Clearance.Proofs.License.Layout
import Clearance.Proofs.License.Visibility
import Clearance.Proofs.Json.Printing
import Clearance.Proofs.Text.Forms
import Clearance.Proofs.Service.Exchange
import Clearance.Proofs.Json.Digits
import Clearance.Proofs.Json.Paths
import Clearance.Proofs.Service.Confidence
import Clearance.Proofs.Text.Order
import Clearance.Proofs.Json.Order
import Clearance.Proofs.Report.Table
import Clearance.Proofs.Report.Agreement
import Clearance.Proofs.Service.Payload
import Clearance.Proofs.Service.Records
import Clearance.Proofs.Report.Tally
import Clearance.Proofs.License.Shape
import Clearance.Proofs.Resolution.Merging
