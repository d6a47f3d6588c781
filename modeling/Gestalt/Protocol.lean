import Gestalt.Stats

/-!
# Gestalt.Protocol

The typed protocol of the framework (`gestalt/protocol.py`): enumerations and
the records exchanged between the agents, the blackboard and the event bus.
A declared constraint on a field is part of the field's type, and the timing
validator of an execution report is a field of the record.  The one validator
that reads the clock, `ensure_future_expiry`, is not a property of the record
and is left to the places where an approval is built or loaded.
-/

namespace Gestalt

/-! ## enumerations -/

/-- Message roles inside the graph. -/
inductive GestaltMessageRole where
  | system
  | user
  | agent
  | tool
  | audit
  | orchestrator
  deriving DecidableEq, Repr

namespace GestaltMessageRole

def value : GestaltMessageRole → String
  | system => "system"
  | user => "user"
  | agent => "agent"
  | tool => "tool"
  | audit => "audit"
  | orchestrator => "orchestrator"

def ofValue : String → Option GestaltMessageRole
  | "system" => some system
  | "user" => some user
  | "agent" => some agent
  | "tool" => some tool
  | "audit" => some audit
  | "orchestrator" => some orchestrator
  | _ => none

end GestaltMessageRole

/-- Command categories. -/
inductive GestaltCommandType where
  | analyze
  | execute
  | optimize
  | audit
  | updateStats
  | updateMemory
  | approveEvent
  | remediate
  | escalate
  | halt
  deriving DecidableEq, Repr

namespace GestaltCommandType

def value : GestaltCommandType → String
  | analyze => "analyze"
  | execute => "execute"
  | optimize => "optimize"
  | audit => "audit"
  | updateStats => "update_stats"
  | updateMemory => "update_memory"
  | approveEvent => "approve_event"
  | remediate => "remediate"
  | escalate => "escalate"
  | halt => "halt"

def ofValue : String → Option GestaltCommandType
  | "analyze" => some analyze
  | "execute" => some execute
  | "optimize" => some optimize
  | "audit" => some audit
  | "update_stats" => some updateStats
  | "update_memory" => some updateMemory
  | "approve_event" => some approveEvent
  | "remediate" => some remediate
  | "escalate" => some escalate
  | "halt" => some halt
  | _ => none

end GestaltCommandType

/-- Event bus event categories. -/
inductive GestaltEventType where
  | peerSignal
  | commandPublished
  | auditAlert
  | statsUpdated
  | optimizationProposed
  | incidentDetected
  | executionProgress
  deriving DecidableEq, Repr

namespace GestaltEventType

def value : GestaltEventType → String
  | peerSignal => "peer_signal"
  | commandPublished => "command_published"
  | auditAlert => "audit_alert"
  | statsUpdated => "stats_updated"
  | optimizationProposed => "optimization_proposed"
  | incidentDetected => "incident_detected"
  | executionProgress => "execution_progress"

def ofValue : String → Option GestaltEventType
  | "peer_signal" => some peerSignal
  | "command_published" => some commandPublished
  | "audit_alert" => some auditAlert
  | "stats_updated" => some statsUpdated
  | "optimization_proposed" => some optimizationProposed
  | "incident_detected" => some incidentDetected
  | "execution_progress" => some executionProgress
  | _ => none

end GestaltEventType

/-- Severity of an audit finding. -/
inductive AuditSeverity where
  | info
  | low
  | medium
  | high
  | critical
  deriving DecidableEq, Repr

namespace AuditSeverity

def value : AuditSeverity → String
  | info => "info"
  | low => "low"
  | medium => "medium"
  | high => "high"
  | critical => "critical"

def ofValue : String → Option AuditSeverity
  | "info" => some info
  | "low" => some low
  | "medium" => some medium
  | "high" => some high
  | "critical" => some critical
  | _ => none

end AuditSeverity

/-- Audit finding taxonomy. -/
inductive AuditCategory where
  | promptInjection
  | hallucination
  | permission
  | blackboard
  | eventBus
  | checkpoint
  | tooling
  | deadlock
  | observability
  | sandbox
  | configuration
  | cost
  deriving DecidableEq, Repr

namespace AuditCategory

def value : AuditCategory → String
  | promptInjection => "prompt_injection"
  | hallucination => "hallucination"
  | permission => "permission"
  | blackboard => "blackboard"
  | eventBus => "event_bus"
  | checkpoint => "checkpoint"
  | tooling => "tooling"
  | deadlock => "deadlock"
  | observability => "observability"
  | sandbox => "sandbox"
  | configuration => "configuration"
  | cost => "cost"

def ofValue : String → Option AuditCategory
  | "prompt_injection" => some promptInjection
  | "hallucination" => some hallucination
  | "permission" => some permission
  | "blackboard" => some blackboard
  | "event_bus" => some eventBus
  | "checkpoint" => some checkpoint
  | "tooling" => some tooling
  | "deadlock" => some deadlock
  | "observability" => some observability
  | "sandbox" => some sandbox
  | "configuration" => some configuration
  | "cost" => some cost
  | _ => none

end AuditCategory

/-- Confidence of a decision. -/
inductive DecisionConfidence where
  | low
  | medium
  | high
  | critical
  deriving DecidableEq, Repr

namespace DecisionConfidence

def value : DecisionConfidence → String
  | low => "low"
  | medium => "medium"
  | high => "high"
  | critical => "critical"

def ofValue : String → Option DecisionConfidence
  | "low" => some low
  | "medium" => some medium
  | "high" => some high
  | "critical" => some critical
  | _ => none

end DecisionConfidence

/-- Lifecycle status of a command. -/
inductive CommandStatus where
  | pending
  | inProgress
  | completed
  | failed
  | rejected
  deriving DecidableEq, Repr

namespace CommandStatus

def value : CommandStatus → String
  | pending => "pending"
  | inProgress => "in_progress"
  | completed => "completed"
  | failed => "failed"
  | rejected => "rejected"

def ofValue : String → Option CommandStatus
  | "pending" => some pending
  | "in_progress" => some inProgress
  | "completed" => some completed
  | "failed" => some failed
  | "rejected" => some rejected
  | _ => none

end CommandStatus

/-- Blackboard memory classification. -/
inductive MemoryKind where
  | incident
  | fact
  | plan
  | execution
  | optimization
  | audit
  | stats
  | knowledge
  deriving DecidableEq, Repr

namespace MemoryKind

def value : MemoryKind → String
  | incident => "incident"
  | fact => "fact"
  | plan => "plan"
  | execution => "execution"
  | optimization => "optimization"
  | audit => "audit"
  | stats => "stats"
  | knowledge => "knowledge"

def ofValue : String → Option MemoryKind
  | "incident" => some incident
  | "fact" => some fact
  | "plan" => some plan
  | "execution" => some execution
  | "optimization" => some optimization
  | "audit" => some audit
  | "stats" => some stats
  | "knowledge" => some knowledge
  | _ => none

end MemoryKind

/-- Origin of a graph execution request. -/
inductive SchedulerSource where
  | api
  | scheduler
  | event
  | internal
  deriving DecidableEq, Repr

namespace SchedulerSource

def value : SchedulerSource → String
  | api => "api"
  | scheduler => "scheduler"
  | event => "event"
  | internal => "internal"

def ofValue : String → Option SchedulerSource
  | "api" => some api
  | "scheduler" => some scheduler
  | "event" => some event
  | "internal" => some internal
  | _ => none

end SchedulerSource

/-- High-level orchestrator routing decision. -/
inductive AgentDecision where
  | monitor
  | analyze
  | planAndExecute
  | optimize
  | curateKnowledge
  | runSecurityAudit
  | finalize
  deriving DecidableEq, Repr

namespace AgentDecision

def value : AgentDecision → String
  | monitor => "monitor"
  | analyze => "analyze"
  | planAndExecute => "plan_and_execute"
  | optimize => "optimize"
  | curateKnowledge => "curate_knowledge"
  | runSecurityAudit => "run_security_audit"
  | finalize => "finalize"

def ofValue : String → Option AgentDecision
  | "monitor" => some monitor
  | "analyze" => some analyze
  | "plan_and_execute" => some planAndExecute
  | "optimize" => some optimize
  | "curate_knowledge" => some curateKnowledge
  | "run_security_audit" => some runSecurityAudit
  | "finalize" => some finalize
  | _ => none

end AgentDecision

/-- The literals a remediation priority may be. -/
inductive RemediationPriority where
  | low
  | medium
  | high
  | urgent
  deriving DecidableEq, Repr

namespace RemediationPriority

def value : RemediationPriority → String
  | low => "low"
  | medium => "medium"
  | high => "high"
  | urgent => "urgent"

def ofValue : String → Option RemediationPriority
  | "low" => some low
  | "medium" => some medium
  | "high" => some high
  | "urgent" => some urgent
  | _ => none

end RemediationPriority
/-! ## audit findings -/

/-- Evidence supporting an audit finding. -/
structure AuditEvidence where
  source : MinStr 1
  description : MinStr 1
  reference : Option String := none
  metadata : Dict Value := []

/-- Machine-readable remediation instruction. -/
structure RemediationInstruction where
  instructionId : Uuid
  commandType : GestaltCommandType
  title : MinStr 3
  rationale : MinStr 10
  priority : RemediationPriority
  payload : Dict Value := []

/-- Single finding emitted by the security audit agent. -/
structure AuditFinding where
  findingId : Uuid
  category : AuditCategory
  severity : AuditSeverity
  summary : MinStr 8
  detail : MinStr 16
  evidence : List AuditEvidence := []
  remediation : List RemediationInstruction := []
  hypothesisId : Option String := none

/-! ## messages, commands, summaries and events -/

/-- Message exchanged inside the super-graph. -/
structure GestaltMessage where
  messageId : Uuid
  traceId : Uuid
  causationId : Option Uuid := none
  role : GestaltMessageRole
  sender : MinStr 2
  recipient : MinStr 2
  content : MinStr 1
  metadata : Dict Value := []
  createdAt : Int

/-- Command issued by the orchestrator or a trusted agent. -/
structure GestaltCommand where
  commandId : Uuid
  traceId : Uuid
  causationId : Option Uuid := none
  commandType : GestaltCommandType
  issuedBy : MinStr 2
  targetAgent : MinStr 2
  rationale : MinStr 8
  payload : Dict Value := []
  confidence : DecisionConfidence := .medium
  status : CommandStatus := .pending
  createdAt : Int

/-- Result of a processed command. -/
structure GestaltCommandResult where
  commandId : Uuid
  traceId : Uuid
  status : CommandStatus
  output : Dict Value := []
  errorMessage : Option String := none
  completedAt : Int

/-- Summary generated at the end of a graph cycle. -/
structure GestaltSummary where
  cycleId : Uuid
  traceId : Uuid
  objective : MinStr 3
  completedActions : List String := []
  pendingActions : List String := []
  decisions : List AgentDecision := []
  cohesionScore : Score
  securityRiskScore : Score
  producedAt : Int

/-- Event published onto the event bus. -/
structure GestaltEvent where
  eventId : Uuid
  traceId : Uuid
  approvalId : Option Uuid := none
  eventType : GestaltEventType
  sourceAgent : MinStr 2
  targetAgent : Option String := none
  payload : Dict Value := []
  createdAt : Int

/-- Approval token issued by the orchestrator for peer-to-peer events. -/
structure EventApproval where
  approvalId : Uuid
  traceId : Uuid
  sourceAgent : MinStr 2
  targetAgent : MinStr 2
  permittedEvent : GestaltEventType
  rationale : MinStr 8
  expiresAt : Int

/-! ## blackboard records -/

/-- Memory record persisted in the blackboard. -/
structure BlackboardMemoryRecord where
  recordId : Uuid
  traceId : Uuid
  memoryKind : MemoryKind
  title : MinStr 3
  content : MinStr 1
  tags : List String := []
  embedding : Option (List Rat) := none
  metadata : Dict Value := []
  createdAt : Int

/-- Graph edge of the relationship layer. -/
structure BlackboardRelation where
  relationId : Uuid
  sourceType : MinStr 2
  sourceId : MinStr 1
  relationType : MinStr 2
  targetType : MinStr 2
  targetId : MinStr 1
  metadata : Dict Value := []

/-- Supported blackboard query strategies. -/
inductive BlackboardQueryMode where
  | vector
  | graph
  | hybrid
  | exact
  deriving DecidableEq, Repr

/-- Query against the blackboard. -/
structure BlackboardQuery where
  query : MinStr 1
  mode : BlackboardQueryMode := .hybrid
  limit : Nat
  limit_pos : 1 ≤ limit
  limit_le : limit ≤ 100
  filters : Dict Value := []

/-- Per-agent health captured in a stats report. -/
structure AgentHealthSnapshot where
  agentName : MinStr 2
  status : AgentHealth
  lastSuccessAt : Option Int := none
  lastFailureAt : Option Int := none
  errorRate : Ratio := ⟨0, by decide, by decide⟩
  avgLatencyMs : NonNegFloat := ⟨0, by decide⟩

/-- System statistics emitted by the monitor agent. -/
structure GestaltStatsReport where
  reportId : Uuid
  traceId : Uuid
  collectedBy : String := "monitor"
  loadLevel : LoadLevel
  performanceTier : PerformanceTier
  costEfficiencyScore : Score
  securityRiskScore : Score
  gestaltCohesionScore : Score
  queueDepth : Nat := 0
  activeCycles : Nat := 0
  failureRatio : Ratio
  p95LatencyMs : NonNegFloat
  agentHealth : List AgentHealthSnapshot := []
  capturedAt : Int

/-- Optimization recommendation proposed by the optimizer agent. -/
structure OptimizationProposal where
  proposalId : Uuid
  traceId : Uuid
  title : MinStr 5
  summary : MinStr 12
  expectedBenefit : MinStr 8
  configPatch : Dict Value := []
  promptOverrides : Dict String := []
  modelRoutingOverrides : Dict String := []
  confidence : DecisionConfidence
  createdAt : Int

/-- Comprehensive security and integrity report. -/
structure GestaltAuditReport where
  reportId : Uuid
  traceId : Uuid
  auditedBy : String := "security_audit"
  scope : List String := []
  findings : List AuditFinding := []
  remediationCommands : List GestaltCommand := []
  overallRiskScore : Score
  createdAt : Int

/-- Execution report emitted by every agent invocation.  `timing` is the
model's `validate_timing`. -/
structure AgentExecutionReport where
  reportId : Uuid
  traceId : Uuid
  agentName : MinStr 2
  commandId : Option Uuid := none
  status : CommandStatus
  summary : MinStr 8
  emittedCommands : List GestaltCommand := []
  emittedMemories : List BlackboardMemoryRecord := []
  metrics : Dict Rat := []
  startedAt : Int
  finishedAt : Int
  timing : startedAt ≤ finishedAt

/-! ## graph state -/

/-- Shared state object passed through the super-graph. -/
structure GestaltGraphState where
  traceId : Uuid
  cycleId : Uuid
  source : SchedulerSource := .internal
  objective : MinStr 3
  stats : GestaltStats
  decisions : List AgentDecision := []
  messages : List GestaltMessage := []
  commands : List GestaltCommand := []
  commandResults : List GestaltCommandResult := []
  memories : List BlackboardMemoryRecord := []
  optimizationProposals : List OptimizationProposal := []
  auditReports : List GestaltAuditReport := []
  executionReports : List AgentExecutionReport := []
  latestSummary : Option GestaltSummary := none
  approvals : List EventApproval := []
  metadata : Dict Value := []

/-- State fragment provided to an agent invocation. -/
structure AgentContextEnvelope where
  traceId : Uuid
  cycleId : Uuid
  objective : MinStr 3
  source : SchedulerSource
  latestStats : GestaltStats
  blackboardContext : List BlackboardMemoryRecord
  inboundCommands : List GestaltCommand
  approvals : List EventApproval
  metadata : Dict Value

/-- API request payload to trigger a graph cycle. -/
structure CycleRequest where
  objective : MinStr 3
  source : SchedulerSource := .api
  metadata : Dict Value := []

/-- API request to force an audit cycle. -/
structure TriggerAuditRequest where
  scope : List String := []
  metadata : Dict Value := []

end Gestalt
