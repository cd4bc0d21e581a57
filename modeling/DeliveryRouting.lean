import DeliveryRouting.CommandLine.Answer
import DeliveryRouting.CommandLine.Arguments
import DeliveryRouting.CommandLine.Command
import DeliveryRouting.CommandLine.Settings
import DeliveryRouting.Decimal.Layout
import DeliveryRouting.Decimal.Shortest
import DeliveryRouting.Dispatch.Assembly
import DeliveryRouting.Dispatch.Demo
import DeliveryRouting.Dispatch.Draft
import DeliveryRouting.Dispatch.Plan
import DeliveryRouting.Dispatch.Request
import DeliveryRouting.Dispatch.Response
import DeliveryRouting.Jobs.Entry
import DeliveryRouting.Jobs.FreshId
import DeliveryRouting.Jobs.Service
import DeliveryRouting.Jobs.Status
import DeliveryRouting.Jobs.Table
import DeliveryRouting.Json.Codec
import DeliveryRouting.Json.Fault
import DeliveryRouting.Json.Form
import DeliveryRouting.Json.Printer
import DeliveryRouting.Json.Reader
import DeliveryRouting.Json.Value
import DeliveryRouting.Main
import DeliveryRouting.Model.Basic
import DeliveryRouting.Model.Fault
import DeliveryRouting.Model.Matrix
import DeliveryRouting.Model.Priority
import DeliveryRouting.Model.Window
import DeliveryRouting.Model.WindowCodec
import DeliveryRouting.Proofs.Dispatch.Attribution
import DeliveryRouting.Proofs.Jobs.Answers
import DeliveryRouting.Proofs.Jobs.Staffing
import DeliveryRouting.Proofs.Search.Cancellation
import DeliveryRouting.Search.Descent
import DeliveryRouting.Search.Guidance
import DeliveryRouting.Search.Move
import DeliveryRouting.Search.Neighbourhood
import DeliveryRouting.Search.Outcome
import DeliveryRouting.Search.Params
import DeliveryRouting.Search.Polling
import DeliveryRouting.Search.Random
import DeliveryRouting.Search.Solve
import DeliveryRouting.Text.Numeral
import DeliveryRouting.Text.Quoted
import DeliveryRouting.Text.Visible
import DeliveryRouting.Time.Clock
import DeliveryRouting.Time.Timespan
import DeliveryRouting.Time.TimespanText
import DeliveryRouting.Time.Timestamp
import DeliveryRouting.Travel.Answer
import DeliveryRouting.Travel.GreatCircle
import DeliveryRouting.Travel.Provider
import DeliveryRouting.Travel.Table
import DeliveryRouting.Trip.Construction
import DeliveryRouting.Trip.Insertion
import DeliveryRouting.Trip.Schedule
import DeliveryRouting.Trip.Solution
import DeliveryRouting.Proofs.Dispatch.Punctuality
import DeliveryRouting.Proofs.Jobs.Records
import DeliveryRouting.Proofs.Search.Objective
import DeliveryRouting.Proofs.Search.Rounds
import DeliveryRouting.Proofs.Search.Improvement
import DeliveryRouting.Proofs.Trip.Alike
import DeliveryRouting.Proofs.Search.AlikeMoves
import DeliveryRouting.Proofs.Search.InertInputs
import DeliveryRouting.Proofs.Trip.Earliest
import DeliveryRouting.Proofs.Search.Pruning
import DeliveryRouting.Proofs.Search.Completeness
import DeliveryRouting.Proofs.Jobs.AtOnce
import DeliveryRouting.Proofs.Search.Replacement
import DeliveryRouting.Proofs.Search.Edits
import DeliveryRouting.Proofs.Search.Reversal
import DeliveryRouting.Proofs.Arithmetic.Doubles
import DeliveryRouting.Proofs.Arithmetic.Comparison
import DeliveryRouting.Proofs.Search.Price
import DeliveryRouting.Proofs.Construction.Insertions
import DeliveryRouting.Proofs.Construction.Greedy
import DeliveryRouting.Proofs.Construction.Urgency
import DeliveryRouting.Proofs.Construction.Division
import DeliveryRouting.Proofs.Search.LocalOptima
import DeliveryRouting.Proofs.Search.Budget
import DeliveryRouting.Proofs.Model.Alignment
import DeliveryRouting.Proofs.Dispatch.Regrouping
import DeliveryRouting.Proofs.Time.Grammar
import DeliveryRouting.Proofs.Time.RoundTrip
import DeliveryRouting.Proofs.Dispatch.Completion
import DeliveryRouting.Proofs.Time.Words
import DeliveryRouting.Proofs.Travel.Answers
import DeliveryRouting.Proofs.Model.Ragged
import DeliveryRouting.Proofs.Dispatch.Misfits
import DeliveryRouting.Proofs.Search.Penalties
import DeliveryRouting.Proofs.Search.Uncrossing
import DeliveryRouting.Proofs.Search.Words
