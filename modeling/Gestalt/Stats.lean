import Gestalt.Fields
import Gestalt.Library.Value

/-!
# Gestalt.Stats

Runtime statistics, thresholds and the adaptive policy derived from them
(`gestalt/stats.py`).  Floats are read as exact rationals.  The three scores
of `GestaltStats` are plain integers, as in the source: the constructor clamps
them, assignments do not.
-/

namespace Gestalt

/-- Discrete system load tier. -/
inductive LoadLevel where
  | veryLow
  | low
  | moderate
  | high
  | extreme
  deriving DecidableEq, Repr

namespace LoadLevel

/-- The value of the `IntEnum` member. -/
def toInt : LoadLevel → Int
  | veryLow => 1
  | low => 2
  | moderate => 3
  | high => 4
  | extreme => 5

/-- The member with a given value. -/
def ofInt : Int → Option LoadLevel
  | 1 => some veryLow
  | 2 => some low
  | 3 => some moderate
  | 4 => some high
  | 5 => some extreme
  | _ => none

/-- `LoadLevel(min(int(level) + 1, int(EXTREME)))`. -/
def promote : LoadLevel → LoadLevel
  | veryLow => low
  | low => moderate
  | moderate => high
  | high | extreme => extreme

/-- `LoadLevel(max(int(level) - 1, int(VERY_LOW)))`. -/
def demote : LoadLevel → LoadLevel
  | veryLow | low => veryLow
  | moderate => low
  | high => moderate
  | extreme => high

/-- `promote` is the member of the next value, up to the highest. -/
theorem ofInt_promote (level : LoadLevel) :
    ofInt (min (level.toInt + 1) extreme.toInt) = some level.promote := by
  cases level <;> rfl

/-- `demote` is the member of the previous value, down to the lowest. -/
theorem ofInt_demote (level : LoadLevel) :
    ofInt (max (level.toInt - 1) veryLow.toInt) = some level.demote := by
  cases level <;> rfl

end LoadLevel

/-- Observed performance posture. -/
inductive PerformanceTier where
  | low
  | medium
  | high
  | critical
  deriving DecidableEq, Repr

namespace PerformanceTier

def value : PerformanceTier → String
  | low => "low"
  | medium => "medium"
  | high => "high"
  | critical => "critical"

def ofValue : String → Option PerformanceTier
  | "low" => some low
  | "medium" => some medium
  | "high" => some high
  | "critical" => some critical
  | _ => none

/-- The tiers, from the best to the worst. -/
def order : List PerformanceTier := [low, medium, high, critical]

/-- `order.index(tier)`. -/
def rank (tier : PerformanceTier) : Nat := order.idxOf tier

/-- `order[min(order.index(tier) + 1, len(order) - 1)]`. -/
def promote (tier : PerformanceTier) : PerformanceTier :=
  order.getD (min (tier.rank + 1) (order.length - 1)) critical

/-- `order[max(order.index(tier) - 1, 0)]`. -/
def demote (tier : PerformanceTier) : PerformanceTier := order.getD (tier.rank - 1) low

end PerformanceTier

/-- Health status of one agent worker. -/
inductive AgentHealth where
  | healthy
  | degraded
  | critical
  deriving DecidableEq, Repr

namespace AgentHealth

def value : AgentHealth → String
  | healthy => "healthy"
  | degraded => "degraded"
  | critical => "critical"

def ofValue : String → Option AgentHealth
  | "healthy" => some healthy
  | "degraded" => some degraded
  | "critical" => some critical
  | _ => none

end AgentHealth

/-- Thresholds that translate measurements into tiers. -/
structure StatsThresholds where
  mediumLatencyMs : Int := 800
  highLatencyMs : Int := 2000
  criticalLatencyMs : Int := 5000
  degradedErrorRate : Rat := 5 / 100
  criticalErrorRate : Rat := 15 / 100
  queueLow : Int := 5
  queueMedium : Int := 20
  queueHigh : Int := 50
  queueCritical : Int := 100
  optimizerTriggerDelta : Int := 10

/-- Metrics captured by the Monitor in one sampling cycle; the ratio fields
are validated to lie between 0 and 1. -/
structure MonitorSnapshot where
  queueDepth : Int := 0
  activeCycles : Int := 0
  avgLatencyMs : Rat := 0
  p95LatencyMs : Rat := 0
  errorRate : Ratio := ⟨0, by decide, by decide⟩
  failureCount : Int := 0
  successCount : Int := 0
  costPerCycle : Rat := 0
  blackboardConsistency : Ratio := ⟨1, by decide, by decide⟩
  collaborationSuccessRate : Ratio := ⟨1, by decide, by decide⟩
  securityOpenFindings : Int := 0

/-- Adaptive operational state of the runtime. -/
structure GestaltStats where
  loadLevel : LoadLevel := .veryLow
  performanceTier : PerformanceTier := .low
  costEfficiencyScore : Int := 100
  securityRiskScore : Int := 0
  gestaltCohesionScore : Int := 100
  agentHealth : Dict AgentHealth := []
  queueDepth : Int := 0
  activeCycles : Int := 0
  averageLatencyMs : Rat := 0
  p95LatencyMs : Rat := 0
  errorRate : Rat := 0
  failureCount : Int := 0
  successCount : Int := 0
  costPerCycle : Rat := 0
  blackboardConsistency : Rat := 1
  collaborationSuccessRate : Rat := 1
  openSecurityFindings : Int := 0
  optimizerTriggered : Bool := false
  lastUpdated : Int

namespace GestaltStats

/-- The constructor's validators: the three scores are clamped. -/
def clamped (s : GestaltStats) : GestaltStats :=
  { s with
    costEfficiencyScore := (Score.clamp s.costEfficiencyScore).val
    securityRiskScore := (Score.clamp s.securityRiskScore).val
    gestaltCohesionScore := (Score.clamp s.gestaltCohesionScore).val }

/-- All three scores lie between 0 and 100. -/
structure InRange (s : GestaltStats) : Prop where
  cost : 0 ≤ s.costEfficiencyScore ∧ s.costEfficiencyScore ≤ 100
  risk : 0 ≤ s.securityRiskScore ∧ s.securityRiskScore ≤ 100
  cohesion : 0 ≤ s.gestaltCohesionScore ∧ s.gestaltCohesionScore ≤ 100

/-- Clamping lands in range. -/
theorem inRange_clamped (s : GestaltStats) : s.clamped.InRange :=
  ⟨⟨Score.nonneg _, Score.le_hundred _⟩, ⟨Score.nonneg _, Score.le_hundred _⟩,
    ⟨Score.nonneg _, Score.le_hundred _⟩⟩

/-- Clamping leaves scores alone exactly when they are in range. -/
theorem clamped_eq_iff {s : GestaltStats} : s.clamped = s ↔ s.InRange := by
  constructor
  · intro h
    rw [← h]
    exact inRange_clamped s
  · intro hrange
    obtain ⟨⟨c0, c1⟩, ⟨r0, r1⟩, ⟨g0, g1⟩⟩ := hrange
    have hc : max 0 (min 100 s.costEfficiencyScore) = s.costEfficiencyScore := by omega
    have hr : max 0 (min 100 s.securityRiskScore) = s.securityRiskScore := by omega
    have hg : max 0 (min 100 s.gestaltCohesionScore) = s.gestaltCohesionScore := by omega
    simp only [clamped, Score.clamp, hc, hr, hg]

/-- `promote_load`. -/
def promoteLoad (s : GestaltStats) : GestaltStats :=
  { s with loadLevel := s.loadLevel.promote }

/-- `demote_load`. -/
def demoteLoad (s : GestaltStats) : GestaltStats :=
  { s with loadLevel := s.loadLevel.demote }

/-- `promote_performance`. -/
def promotePerformance (s : GestaltStats) : GestaltStats :=
  { s with performanceTier := s.performanceTier.promote }

/-- `demote_performance`. -/
def demotePerformance (s : GestaltStats) : GestaltStats :=
  { s with performanceTier := s.performanceTier.demote }

/-- `adjust_cost_efficiency`. -/
def adjustCostEfficiency (s : GestaltStats) (delta : Int) : GestaltStats :=
  { s with costEfficiencyScore := max 0 (min 100 (s.costEfficiencyScore + delta)) }

/-- `adjust_security_risk`. -/
def adjustSecurityRisk (s : GestaltStats) (delta : Int) : GestaltStats :=
  { s with securityRiskScore := max 0 (min 100 (s.securityRiskScore + delta)) }

/-- `adjust_cohesion`. -/
def adjustCohesion (s : GestaltStats) (delta : Int) : GestaltStats :=
  { s with gestaltCohesionScore := max 0 (min 100 (s.gestaltCohesionScore + delta)) }

/-- `set_agent_health`. -/
def setAgentHealth (s : GestaltStats) (agentName : String) (health : AgentHealth) : GestaltStats :=
  { s with agentHealth := s.agentHealth.set agentName health }

/-! ## derived tiers -/

/-- `_derive_load_level`. -/
def deriveLoadLevel (queueDepth activeCycles : Int) (thresholds : StatsThresholds) : LoadLevel :=
  let effectivePressure := max queueDepth (activeCycles * 5)
  if effectivePressure ≥ thresholds.queueCritical then .extreme
  else if effectivePressure ≥ thresholds.queueHigh then .high
  else if effectivePressure ≥ thresholds.queueMedium then .moderate
  else if effectivePressure ≥ thresholds.queueLow then .low
  else .veryLow

/-- `_derive_performance_tier`. -/
def derivePerformanceTier (p95LatencyMs errorRate : Rat) (thresholds : StatsThresholds) :
    PerformanceTier :=
  if p95LatencyMs ≥ thresholds.criticalLatencyMs ∨ errorRate ≥ thresholds.criticalErrorRate then
    .critical
  else if p95LatencyMs ≥ thresholds.highLatencyMs ∨ errorRate ≥ thresholds.degradedErrorRate then
    .high
  else if p95LatencyMs ≥ thresholds.mediumLatencyMs then .medium
  else .low

/-! ## derived scores -/

/-- `_refresh_cost_efficiency`. -/
def refreshCostEfficiency (s : GestaltStats) : GestaltStats :=
  let latencyPenalty := min (truncate (s.averageLatencyMs / 100)) 40
  let failurePenalty := min (truncate (s.errorRate * 100)) 40
  let costPenalty := min (truncate (s.costPerCycle * 10)) 30
  { s with costEfficiencyScore := max 0 (100 - latencyPenalty - failurePenalty - costPenalty) }

/-- `_refresh_security_risk`. -/
def refreshSecurityRisk (s : GestaltStats) : GestaltStats :=
  let findingsPenalty := min (s.openSecurityFindings * 10) 60
  let reliabilityPenalty := min (truncate (s.errorRate * 100)) 20
  let cohesionPenalty := max 0 (20 - truncate (s.blackboardConsistency * 20))
  { s with
    securityRiskScore := max 0 (min 100 (findingsPenalty + reliabilityPenalty + cohesionPenalty)) }

/-- `_refresh_cohesion`. -/
def refreshCohesion (s : GestaltStats) : GestaltStats :=
  let consistencyScore := truncate (s.blackboardConsistency * 40)
  let collaborationScore := truncate (s.collaborationSuccessRate * 40)
  let reliabilityScore := max 0 (20 - truncate (s.errorRate * 100))
  { s with
    gestaltCohesionScore :=
      max 0 (min 100 (consistencyScore + collaborationScore + reliabilityScore)) }

/-- `apply_monitor_snapshot`, at the clock reading `now`. -/
def applyMonitorSnapshot (s : GestaltStats) (snapshot : MonitorSnapshot)
    (thresholds : StatsThresholds) (now : Int) : GestaltStats :=
  let measured := { s with
    queueDepth := snapshot.queueDepth
    activeCycles := snapshot.activeCycles
    averageLatencyMs := snapshot.avgLatencyMs
    p95LatencyMs := snapshot.p95LatencyMs
    errorRate := snapshot.errorRate.val
    failureCount := snapshot.failureCount
    successCount := snapshot.successCount
    costPerCycle := snapshot.costPerCycle
    blackboardConsistency := snapshot.blackboardConsistency.val
    collaborationSuccessRate := snapshot.collaborationSuccessRate.val
    openSecurityFindings := snapshot.securityOpenFindings
    loadLevel := deriveLoadLevel snapshot.queueDepth snapshot.activeCycles thresholds
    performanceTier :=
      derivePerformanceTier snapshot.p95LatencyMs snapshot.errorRate.val thresholds }
  { measured.refreshCostEfficiency.refreshSecurityRisk.refreshCohesion with lastUpdated := now }

/-! ## policy -/

/-- `_preferred_model_route`. -/
def preferredModelRoute (s : GestaltStats) : String :=
  if s.performanceTier = .critical then "critical"
  else if s.performanceTier = .high ∨ s.loadLevel.toInt ≥ LoadLevel.high.toInt then "high"
  else if s.performanceTier = .medium ∨ s.loadLevel = .moderate then "medium"
  else "low"

/-- What `derive_model_policy` returns. -/
structure ModelPolicy where
  loadLevel : Int
  performanceTier : String
  downgradeToSmallModel : Bool
  requireHeightenedGuardrails : Bool
  preferredRoute : String
  deriving DecidableEq

/-- `derive_model_policy`. -/
def deriveModelPolicy (s : GestaltStats) : ModelPolicy where
  loadLevel := s.loadLevel.toInt
  performanceTier := s.performanceTier.value
  downgradeToSmallModel := decide (s.loadLevel.toInt ≥ LoadLevel.high.toInt ∧
    (s.costEfficiencyScore < 50 ∨ s.performanceTier = .critical))
  requireHeightenedGuardrails := decide (s.securityRiskScore ≥ 60)
  preferredRoute := s.preferredModelRoute

/-- `should_trigger_optimizer` against previous statistics: the answer, and
the statistics with `optimizer_triggered` recorded. -/
def shouldTriggerOptimizer (s previous : GestaltStats) (deltaThreshold : Int) :
    Bool × GestaltStats :=
  let largest := max (s.costEfficiencyScore - previous.costEfficiencyScore).natAbs
    (max (s.securityRiskScore - previous.securityRiskScore).natAbs
      (s.gestaltCohesionScore - previous.gestaltCohesionScore).natAbs)
  let triggered := decide (s.performanceTier ≠ previous.performanceTier ∨
    s.loadLevel ≠ previous.loadLevel ∨ (largest : Int) ≥ deltaThreshold)
  (triggered, { s with optimizerTriggered := triggered })

/-- `should_trigger_security_intervention`. -/
def shouldTriggerSecurityIntervention (s : GestaltStats) : Bool :=
  decide (s.securityRiskScore ≥ 70 ∨ s.openSecurityFindings ≥ 5)

/-- `summary`, as the dictionary shown to the agents. -/
def summary (s : GestaltStats) : Dict Value :=
  [("load_level", .int s.loadLevel.toInt),
   ("performance_tier", .str s.performanceTier.value),
   ("cost_efficiency_score", .int s.costEfficiencyScore),
   ("security_risk_score", .int s.securityRiskScore),
   ("gestalt_cohesion_score", .int s.gestaltCohesionScore),
   ("agent_health", .dict (s.agentHealth.map fun kv => (kv.1, .str kv.2.value))),
   ("optimizer_triggered", .bool s.optimizerTriggered)]

end GestaltStats

end Gestalt
