import FormatReview.Json.Reader
import FormatReview.Json.Writer
import FormatReview.Review.Response
import FormatReview.Settings.Record
import FormatReview.Upload.Percent
import FormatReview.Upload.Failure
import FormatReview.Storage
import FormatReview.Web.MediaType
import FormatReview.Web.Status
import FormatReview.Web.Address
import FormatReview.Client
import FormatReview.Table
import FormatReview.Chart
import FormatReview.Font.TrueType
import FormatReview.Paper.Layout
import FormatReview.Export
import FormatReview.CommandLine.Program
import FormatReview.Main
import FormatReview.Proofs.Session.Run
import FormatReview.Proofs.Session.History
import FormatReview.Proofs.Session.Fields
import FormatReview.Proofs.Session.Coherence
import FormatReview.Proofs.Session.Begun
import FormatReview.Proofs.Upload.Run
import FormatReview.Proofs.Upload.Percent
import FormatReview.Proofs.Upload.Verdict
import FormatReview.Proofs.Upload.Protocol
import FormatReview.Proofs.Session.Relay
import FormatReview.Proofs.Client.Run
import FormatReview.Proofs.Client.Provenance
import FormatReview.Proofs.Client.Outcome
import FormatReview.Proofs.Paper.Script
import FormatReview.Proofs.Paper.Drawn
import FormatReview.Proofs.Paper.Reading
import FormatReview.Proofs.Paper.Order
import FormatReview.Proofs.Paper.Sheets
import FormatReview.Proofs.SortedMap
import FormatReview.Proofs.Json.Decoder
import FormatReview.Proofs.Json.Record
import FormatReview.Proofs.Review.Grammar
import FormatReview.Proofs.Paper.Refusal
import FormatReview.Proofs.Paper.Throughout
import FormatReview.Proofs.Paper.Advances
import FormatReview.Proofs.Paper.Coverage
import FormatReview.Proofs.Review.Counts
import FormatReview.Proofs.Upload.Parcel
import FormatReview.Proofs.Paper.Spelling
import FormatReview.Proofs.Table.Pages
import FormatReview.Proofs.Review.Views
import FormatReview.Proofs.Paper.Borders
import FormatReview.Proofs.Paper.Single
import FormatReview.Proofs.Paper.Coordinates
import FormatReview.Proofs.Path
import FormatReview.Proofs.Storage.Growth
import FormatReview.Proofs.Storage.Moments
import FormatReview.Proofs.Storage.Replacing
import FormatReview.Proofs.Storage.Report
import FormatReview.Proofs.Client.Reads
import FormatReview.Proofs.CommandLine.Course
import FormatReview.Proofs.CommandLine.Output
import FormatReview.Proofs.Paper.Breaks
import FormatReview.Proofs.Paper.Widths
import FormatReview.Proofs.Json.Written
import FormatReview.Proofs.Records
import FormatReview.Proofs.Upload.Rounding
import FormatReview.Proofs.Session.Progress
import FormatReview.Proofs.Table.Shortening
import FormatReview.Proofs.Paper.Pieces
import FormatReview.Proofs.Json.Tokens
import FormatReview.Proofs.Json.Sentences
import FormatReview.Proofs.Json.Printed
import FormatReview.Proofs.Review.Again
import FormatReview.Proofs.Chart
import FormatReview.Proofs.Storage.Elsewhere
import FormatReview.Proofs.Client.Selecting
import FormatReview.Proofs.Upload.Failure
import FormatReview.Proofs.Settings.Latest
import FormatReview.Proofs.Settings.Requirements
import FormatReview.Proofs.Path.Names
import FormatReview.Proofs.Text.Lower
import FormatReview.Proofs.Intake
import FormatReview.Proofs.Table.Colour
import FormatReview.Proofs.Chart.Beyond
