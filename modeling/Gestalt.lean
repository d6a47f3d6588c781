import Gestalt.Library.Program
import Gestalt.Library.Spec
import Gestalt.Library.Log
import Gestalt.Library.Fresh
import Gestalt.Library.Codec
import Gestalt.Library.Register
import Gestalt.Library.Shell
import Gestalt.Library.Interleaving
import Gestalt.Library.Value
import Gestalt.Library.Json.Tokens
import Gestalt.Library.Json
import Gestalt.Library.Delimited
import Gestalt.Library.Path
import Gestalt.Library.Url
import Gestalt.Library.Words
import Gestalt.Library.Ranking
import Gestalt.Protocol
import Gestalt.Protocol.Codec
import Gestalt.Reference
import Gestalt.Tools
import Gestalt.Tools.Restrictions
import Gestalt.Tools.Sandbox
import Gestalt.Tools.Outbound
import Gestalt.Stats
import Gestalt.Stats.Monotone
import Gestalt.Stats.Range
import Gestalt.Events.Safety
import Gestalt.Events.Agreement
import Gestalt.Events.Replicas
import Gestalt.BaseAgent.Spec
import Gestalt.BaseAgent.Persistence
import Gestalt.Blackboard
import Gestalt.Blackboard.Memory
import Gestalt.Blackboard.Reference
import Gestalt.Blackboard.Recall
import Gestalt.Blackboard.Relevance
import Gestalt.Blackboard.Prompts
import Gestalt.Agents.Spec
import Gestalt.Orchestrator.Spec
import Gestalt.Graph
import Gestalt.Graph.Visit
import Gestalt.Graph.History
import Gestalt.Graph.Reference
import Gestalt.Graph.Schedule
import Gestalt.Graph.HandOff
import Gestalt.Graph.Bound
import Gestalt.Graph.Interleaving
import Gestalt.Graph.Finalization
import Gestalt.Graph.Audit
import Gestalt.Graph.Planner
import Gestalt.Graph.Ledger
import Gestalt.Graph.Dispatch
import Gestalt.Graph.Containment
import Gestalt.Graph.Approvals
import Gestalt.Graph.Enablement
import Gestalt.Graph.Risk
import Gestalt.Graph.Delivery
import Gestalt.Graph.Lifecycle
import Gestalt.Graph.Replies
import Gestalt.Graph.Closing
import Gestalt.Graph.Summary
import Gestalt.Graph.Failures
import Gestalt.Orchestrator.Cohesion
import Gestalt.Orchestrator.Plan
import Gestalt.Events.Stream
import Gestalt.Events.Atomicity
import Gestalt.Graph.Telemetry
import Gestalt.Graph.Questions
import Gestalt.Graph.Lineage
import Gestalt.Graph.Pipeline
import Gestalt.Config.Loading
import Gestalt.Startup
import Gestalt.Graph.Repetition
import Gestalt.Graph.Selection
import Gestalt.Agents.Access
import Gestalt.Agents.Forms
import Gestalt.Agents.Identifiers
import Gestalt.Agents.Progress
import Gestalt.Graph.Conduct
import Gestalt.Graph.Entries
import Gestalt.Graph.Grammar
import Gestalt.Graph.Journal
import Gestalt.Graph.Realization
import Gestalt.Graph.Pace
import Gestalt.Graph.Rounds
import Gestalt.Graph.WriteAhead
import Gestalt.Graph.Identity
import Gestalt.Graph.Scores
import Gestalt.Graph.Alarms
import Gestalt.Graph.ClosedLoop
import Gestalt.Graph.Recollection
import Gestalt.Graph.Confinement
import Gestalt.Graph.Unattended
import Gestalt.Library.Script
import Gestalt.Agents.Scripts
import Gestalt.Graph.Choreography
