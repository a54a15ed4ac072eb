import IssueBridge.Script
import IssueBridge.Settings.Layers
import IssueBridge.Toolbox.Programs
import IssueBridge.Web.App
import IssueBridge.Proofs.Step.Frame
import IssueBridge.Proofs.Step.Composed
import IssueBridge.Proofs.Step.Books
import IssueBridge.Proofs.Tracker.Operation
import IssueBridge.Proofs.Tracker.Ticket
import IssueBridge.Proofs.Tracker.Store
import IssueBridge.Proofs.Text.Digits
import IssueBridge.Proofs.Correlation.Query
import IssueBridge.Proofs.Bridge.Find
import IssueBridge.Proofs.Bridge.Counterpart
import IssueBridge.Proofs.Bridge.Thread
import IssueBridge.Proofs.Projection.Result
import IssueBridge.Proofs.Tracker.Fresh
import IssueBridge.Proofs.Bridge.Creation
import IssueBridge.Proofs.Bridge.Pass
import IssueBridge.Proofs.Bridge.Books
import IssueBridge.Proofs.Bridge.Visit
import IssueBridge.Proofs.Bridge.Account
import IssueBridge.Proofs.Bridge.Accounted
import IssueBridge.Proofs.Bridge.Audit
import IssueBridge.Proofs.Step.Fiber
import IssueBridge.Proofs.Bridge.Concurrent
import IssueBridge.Proofs.Bridge.Interleaved
import IssueBridge.Proofs.Bridge.Carrier
import IssueBridge.Proofs.Bridge.Event
import IssueBridge.Proofs.Bridge.Reach
import IssueBridge.Proofs.Bridge.Run
import IssueBridge.Proofs.Bridge.Native
import IssueBridge.Proofs.Bridge.Aside
import IssueBridge.Proofs.Bridge.Current
import IssueBridge.Proofs.Bridge.Discussed
import IssueBridge.Proofs.Bridge.Delivered
import IssueBridge.Proofs.Bridge.Live
import IssueBridge.Proofs.GitHub.Reading
import IssueBridge.Proofs.Json.Limit
import IssueBridge.Proofs.Tracker.Native
import IssueBridge.Proofs.Step.Calm
import IssueBridge.Proofs.Tracker.Served
import IssueBridge.Proofs.Bridge.Refresh
import IssueBridge.Proofs.Bridge.Served
import IssueBridge.Proofs.Bridge.Comments
import IssueBridge.Proofs.Bridge.Whole
import IssueBridge.Proofs.Tracker.Numbered
import IssueBridge.Proofs.Bridge.Spare
import IssueBridge.Proofs.Bridge.Mirror
import IssueBridge.Proofs.Tracker.Discussion
import IssueBridge.Proofs.Bridge.Upheld
import IssueBridge.Proofs.Bridge.Repeat
import IssueBridge.Proofs.Step.Coupled
import IssueBridge.Proofs.Tracker.Apart
import IssueBridge.Proofs.Tracker.Beside
import IssueBridge.Proofs.Bridge.Beside
import IssueBridge.Proofs.Bridge.Isolated
import IssueBridge.Proofs.Bridge.Order
import IssueBridge.Proofs.Bridge.Converge
import IssueBridge.Proofs.Web.Delivery
import IssueBridge.Proofs.Step.Journal
import IssueBridge.Proofs.Step.Elementary
import IssueBridge.Proofs.Step.Lockstep
import IssueBridge.Proofs.Tracker.Work
import IssueBridge.Proofs.Bridge.Work
import IssueBridge.Proofs.Bridge.Dispatching
import IssueBridge.Proofs.Web.Answer
import IssueBridge.Proofs.Time.Calendar
import IssueBridge.Proofs.Time.Iso
import IssueBridge.Proofs.Bridge.Watermark
import IssueBridge.Proofs.Bridge.Window
import IssueBridge.Proofs.Bridge.Database
import IssueBridge.Proofs.Correlation.Rendered
import IssueBridge.Proofs.Bridge.Failed
import IssueBridge.Proofs.Step.Course
import IssueBridge.Proofs.Tracker.Asked
import IssueBridge.Proofs.Tracker.Rewritten
import IssueBridge.Proofs.Bridge.Discourse
import IssueBridge.Proofs.Bridge.Tolerant
import IssueBridge.Proofs.Time.Universal
import IssueBridge.Proofs.Time.Order
import IssueBridge.Proofs.Bridge.RoundTrip
import IssueBridge.Proofs.Bridge.Stalled
import IssueBridge.Proofs.Text.Words
import IssueBridge.Proofs.Projection.Converter
import IssueBridge.Proofs.Projection.Shown
import IssueBridge.Proofs.Bridge.Retry
import IssueBridge.Proofs.Bridge.Waiting
import IssueBridge.Proofs.Bridge.Rules
import IssueBridge.Proofs.Bridge.Labels
import IssueBridge.Proofs.Bridge.Independent
import IssueBridge.Proofs.Projection.Cut
import IssueBridge.Proofs.Bridge.Workers
import IssueBridge.Proofs.Correlation.Grammar
import IssueBridge.Proofs.Correlation.Rejection
import IssueBridge.Text.CaseMap
