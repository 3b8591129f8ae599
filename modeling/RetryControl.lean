import RetryControl.Backoff
import RetryControl.Backoff.Uniform
import RetryControl.Binary64.Parts
import RetryControl.Binary64.Read
import RetryControl.Binary64.Shortest
import RetryControl.Binary64.Text
import RetryControl.Budget
import RetryControl.Call.Basic
import RetryControl.Call.Blocking
import RetryControl.Call.Cancellable
import RetryControl.Clock
import RetryControl.Count
import RetryControl.Duration
import RetryControl.Failure
import RetryControl.Gate
import RetryControl.Json.Basic
import RetryControl.Json.Read
import RetryControl.Json.Scan
import RetryControl.Json.Write
import RetryControl.Log.Event
import RetryControl.Log.Record
import RetryControl.NameMap
import RetryControl.Proofs.Admission.Decision
import RetryControl.Proofs.Budget.Capacity
import RetryControl.Rate.Arithmetic
import RetryControl.Rate.Config
import RetryControl.Rate.Limiter
import RetryControl.RetryError
import RetryControl.RetryRule
import RetryControl.Session
import RetryControl.Settings.Basic
import RetryControl.Settings.Environment
import RetryControl.Settings.Files
import RetryControl.Settings.KeyPath
import RetryControl.Settings.Layout
import RetryControl.Settings.Load
import RetryControl.Settings.Node
import RetryControl.Settings.OfJson
import RetryControl.Settings.OfNode
import RetryControl.Settings.OfText
import RetryControl.Strategy.Adaptive
import RetryControl.Strategy.Basic
import RetryControl.Strategy.Plan
import RetryControl.Strategy.Request
import RetryControl.Strategy.Standard
import RetryControl.Text.Cased
import RetryControl.Text.Digits
import RetryControl.Text.Lowercase
import RetryControl.Text.Quoted
import RetryControl.Text.Ranges
import RetryControl.Text.Unshown
import RetryControl.Token
import RetryControl.Toml.Basic
import RetryControl.Toml.Read
import RetryControl.Toml.Scan
import RetryControl.Toml.Tree
import RetryControl.Word
import RetryControl.Proofs.Strategy.Unjittered
import RetryControl.Proofs.Budget.Overdraw
import RetryControl.Proofs.Traffic.Basic
import RetryControl.Proofs.Traffic.Conservation
import RetryControl.Proofs.Admission.Agreement
import RetryControl.Proofs.Admission.Numbering
import RetryControl.Proofs.Call.Blocking
import RetryControl.Proofs.Binary64.Rounding
import RetryControl.Proofs.Binary64.Operations
import RetryControl.Proofs.Binary64.Words
import RetryControl.Proofs.Rate.Laws
import RetryControl.Proofs.Binary64.Rates
import RetryControl.Proofs.Rate.Bounds
import RetryControl.Proofs.Rate.Throttles
import RetryControl.Proofs.Rate.Moves
import RetryControl.Proofs.Scope.Entries
import RetryControl.Proofs.Scope.Independence
import RetryControl.Proofs.Scope.Freshness
import RetryControl.Proofs.Session.Copies
import RetryControl.Proofs.Call.Cancellable
import RetryControl.Proofs.Backoff.Doubling
import RetryControl.Proofs.Rate.Slots
import RetryControl.Proofs.Settings.Buildable
import RetryControl.Proofs.Settings.Values
import RetryControl.Proofs.Settings.Spelling
import RetryControl.Proofs.Settings.Variables
import RetryControl.Proofs.Settings.Layers
import RetryControl.Proofs.Settings.Reading
import RetryControl.Proofs.Settings.Saving
import RetryControl.Proofs.Settings.Paths
import RetryControl.Proofs.Settings.Loading
import RetryControl.Proofs.Clock.Readings
import RetryControl.Proofs.Backoff.Jitter
import RetryControl.Proofs.Rate.Schedule
import RetryControl.Proofs.Rate.Windows
import RetryControl.Proofs.Rate.Refusals
import RetryControl.Proofs.Admission.Rules
import RetryControl.Proofs.Strategy.Delays
import RetryControl.Proofs.Budget.Reopening
import RetryControl.Proofs.Json.Numbers
import RetryControl.Proofs.Binary64.Naturals
import RetryControl.Proofs.Json.Rereading
import RetryControl.Proofs.Settings.Reloading
import RetryControl.Proofs.Binary64.Nearest
import RetryControl.Proofs.Binary64.ShortestDigits
import RetryControl.Proofs.Json.Brief
import RetryControl.Proofs.Failure.Chains
import RetryControl.Proofs.Strategy.Growth
import RetryControl.Proofs.Rate.Measurement
import RetryControl.Proofs.Scope.Memory
