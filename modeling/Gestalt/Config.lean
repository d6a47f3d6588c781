import Gestalt.Fields
import Gestalt.Library.Value

/-!
# Gestalt.Config

The settings the runtime reads (`gestalt/config.py`).  Declared bounds are
fields of the records, and `GestaltSettings` carries the outcome of its
`validate_agents`: every required agent has a policy.
-/

namespace Gestalt

/-- The agents every configuration must have a policy for. -/
inductive AgentName where
  | orchestrator
  | monitor
  | analyzer
  | plannerExecutor
  | optimizer
  | knowledge
  | securityAudit
  deriving DecidableEq, Repr

namespace AgentName

/-- The canonical runtime name. -/
def name : AgentName → String
  | orchestrator => "orchestrator"
  | monitor => "monitor"
  | analyzer => "analyzer"
  | plannerExecutor => "planner_executor"
  | optimizer => "optimizer"
  | knowledge => "knowledge"
  | securityAudit => "security_audit"

/-- Runtime names are long enough for every field that holds one. -/
theorem two_le_length_name (a : AgentName) : 2 ≤ a.name.length := by
  cases a <;> decide

/-- The runtime name as a field value. -/
def field (a : AgentName) : MinStr 2 := ⟨a.name, a.two_le_length_name⟩

end AgentName

/-- Model route aliases by runtime tier. -/
structure ModelRouteConfig where
  low : MinStr 1
  medium : MinStr 1
  high : MinStr 1
  critical : MinStr 1

/-- Routing and completion defaults. -/
structure ModelsConfig where
  enableMockLlm : Bool := true
  defaultAlias : MinStr 1
  routes : ModelRouteConfig
  temperature : Rat := 1 / 10
  maxTokens : Nat := 3000

/-- Shared blackboard configuration. -/
structure BlackboardConfig where
  semanticTopK : Nat := 8
  top_k_pos : 1 ≤ semanticTopK := by decide
  top_k_le : semanticTopK ≤ 100 := by decide

/-- The event bus backends. -/
inductive EventBackend where
  | redis
  | memory
  deriving DecidableEq, Repr

/-- Event bus configuration. -/
structure EventConfig where
  backend : EventBackend := .redis
  redisUrl : MinStr 1
  streamName : MinStr 1 := .text "gestalt.events"
  approvalTtlSeconds : Nat := 600
  ttl_ge : 30 ≤ approvalTtlSeconds := by decide
  ttl_le : approvalTtlSeconds ≤ 86400 := by decide
  maxStreamLength : Nat := 10000
  stream_length_ge : 100 ≤ maxStreamLength := by decide
  stream_length_le : maxStreamLength ≤ 1000000 := by decide

/-- The approval lifetime on the clock. -/
def EventConfig.approvalTtl (c : EventConfig) : Int := c.approvalTtlSeconds * 1000000

theorem EventConfig.approvalTtl_pos (c : EventConfig) : 0 < c.approvalTtl := by
  have := c.ttl_ge
  unfold approvalTtl
  omega

/-- Stats latency thresholds. -/
structure LatencyThresholds where
  medium : Int := 800
  high : Int := 2000
  critical : Int := 5000

/-- Stats error rate thresholds. -/
structure ErrorRateThresholds where
  degraded : Rat := 5 / 100
  critical : Rat := 15 / 100

/-- Queue depth thresholds used to derive load tiers. -/
structure QueueDepthThresholds where
  low : Int := 5
  medium : Int := 20
  high : Int := 50
  critical : Int := 100

/-- Penalty weights of the cohesion logic. -/
structure CohesionPenalties where
  failedCommand : Nat := 5
  failed_command_le : failedCommand ≤ 100 := by decide

/-- Stats policy configuration. -/
structure StatsConfig where
  latencyThresholdsMs : LatencyThresholds := {}
  errorRateThresholds : ErrorRateThresholds := {}
  queueDepthThresholds : QueueDepthThresholds := {}
  cohesionPenalties : CohesionPenalties := {}
  optimizerTriggerDelta : Int := 10

/-- Audit policy configuration. -/
structure AuditConfig where
  hallucinationScoreThreshold : Int := 20

/-- Security boundary configuration. -/
structure SecurityConfig where
  sandboxEnabled : Bool := true
  sandboxTimeoutSeconds : Nat := 30
  sandbox_timeout_ge : 1 ≤ sandboxTimeoutSeconds := by decide
  sandbox_timeout_le : sandboxTimeoutSeconds ≤ 600 := by decide
  outboundHttpAllowlist : List String := []
  kubernetesAllowedNamespaces : List String := []

/-- The tiers an agent may prefer. -/
inductive ModelTier where
  | low
  | medium
  | high
  | critical
  deriving DecidableEq, Repr

def ModelTier.value : ModelTier → String
  | low => "low"
  | medium => "medium"
  | high => "high"
  | critical => "critical"

/-- Per-agent enablement, routing preference and tool allowlist. -/
structure AgentPolicyConfig where
  enabled : Bool := true
  modelPreference : ModelTier := .medium
  toolAllowlist : List String := []

/-- Merged application settings. -/
structure GestaltSettings where
  models : ModelsConfig
  blackboard : BlackboardConfig := {}
  events : EventConfig
  stats : StatsConfig := {}
  audit : AuditConfig := {}
  security : SecurityConfig := {}
  agents : Dict AgentPolicyConfig
  validate_agents : ∀ a : AgentName, (agents.get? a.name).isSome

/-- `settings.agents[name]` of a required agent. -/
def GestaltSettings.policy (s : GestaltSettings) (a : AgentName) : AgentPolicyConfig :=
  (s.agents.get? a.name).get (s.validate_agents a)

end Gestalt
