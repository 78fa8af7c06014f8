import MetricTPower.Library.Loops
import MetricTPower.Library.CriticalSections
import MetricTPower.Library.Fairness
import MetricTPower.Library.FixedPoint
import MetricTPower.Library.LevelSearch
import MetricTPower.Library.Outcome
import MetricTPower.Library.Reachability
import MetricTPower.Library.WrappedAge
import MetricTPower.Unit.TPUnit
import MetricTPower.Unit.Calculation
import MetricTPower.Unit.Store
import MetricTPower.Unit.Totals
import MetricTPower.Unit.PhaseMix
import MetricTPower.Unit.Reads
import MetricTPower.Unit.ExactTotals
import MetricTPower.Unit.Ages
import MetricTPower.Unit.Runs
import MetricTPower.Unit.LastWrite
import MetricTPower.Unit.Readers
import MetricTPower.Unit.Diagnosis
import MetricTPower.Topology.CalcPower
import MetricTPower.Topology.Search
import MetricTPower.Topology.PowerSources
import MetricTPower.Topology.Coverage
import MetricTPower.Topology.Repeats
import MetricTPower.Agent.Loading
import MetricTPower.Agent.Run
import MetricTPower.Agent.Moves
import MetricTPower.Agent.Owners
import MetricTPower.Agent.Routing
import MetricTPower.Agent.Polling
import MetricTPower.Agent.Publishing
import MetricTPower.Agent.Purging
import MetricTPower.Agent.PollTimer
import MetricTPower.Agent.PollSends
import MetricTPower.Agent.PollBounds
import MetricTPower.Agent.FailedQueries
import MetricTPower.Agent.WellFormed
import MetricTPower.Agent.MetricEffect
import MetricTPower.Agent.RateLimit
import MetricTPower.Agent.Reloading
import MetricTPower.Agent.PhaseFallback
import MetricTPower.Server.Watchdog
import MetricTPower.Metric.NumberText
import MetricTPower.Agent.Parts
import MetricTPower.Agent.Provenance
import MetricTPower.Agent.Deliveries
import MetricTPower.Agent.PublishedTotals
import MetricTPower.Agent.Footprint
import MetricTPower.Agent.PollFreshness
import MetricTPower.Server.MetricPull
import MetricTPower.Server.Batches
import MetricTPower.Server.System
import MetricTPower.Server.Serial
import MetricTPower.Server.Schedules
import MetricTPower.Server.Progress
import MetricTPower.Server.Pacing
import MetricTPower.Server.Endings
import MetricTPower.Server.Interruption
import MetricTPower.Server.Published
import MetricTPower.Server.Readings
