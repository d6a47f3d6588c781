import Gestalt.Graph.Questions
import Gestalt.Graph.Reference
import Gestalt.Stats.Monotone

/-!
# Gestalt.Graph.Selection

Which model a completion goes to.

The statistics have a policy: a route for the load, and whether to downgrade to a
small model.  `select_model` routes by it unless a tier is preferred, and every agent
prefers one; so the alias depends on the settings and on nothing that was measured.
-/

namespace Gestalt

open Effects Program

/-! ## aliases -/

namespace ModelRouteConfig

/-- The alias of a tier. -/
def aliasOf (routes : ModelRouteConfig) : ModelTier → MinStr 1
  | .low => routes.low
  | .medium => routes.medium
  | .high => routes.high
  | .critical => routes.critical

/-- The four aliases are distinct. -/
def Distinct (routes : ModelRouteConfig) : Prop := Function.Injective routes.aliasOf

end ModelRouteConfig

theorem ModelsConfig.selectModel_preferred (models : ModelsConfig) (stats : GestaltStats)
    (tier : ModelTier) :
    models.selectModel stats (some tier.value) = models.routes.aliasOf tier := by
  cases tier <;> simp [selectModel, ModelTier.value, ModelRouteConfig.aliasOf]

/-- The tier the settings have for the agent. -/
def Runtime.preference (rt : Runtime) (a : AgentName) : ModelTier :=
  (rt.settings.policy a).modelPreference

theorem Runtime.requestedAlias_eq (rt : Runtime) (a : AgentName) (stats : GestaltStats) :
    rt.requestedAlias a stats = rt.settings.models.routes.aliasOf (rt.preference a) :=
  rt.settings.models.selectModel_preferred stats _

/-! ## completions -/

/-- A completion, if it is one, goes to the model. -/
def GoesTo (model : MinStr 1) : ServiceOp → Prop
  | .call (.acompletion request _) => request.model = model
  | _ => True

instance (model : MinStr 1) : Allowing (GoesTo model) where
  plain := by
    intro op h
    unfold GoesTo
    split
    · exact h.elim
    · trivial

section Completions

variable {rt : Runtime} {node : AgentName}

/-- An agent's completions go to the model of its tier. -/
theorem goesTo_run :
    (run rt (agentAt rt node)).Asks
      (GoesTo (rt.settings.models.routes.aliasOf (rt.preference node))) :=
  Permits.run {
    toAllowing := inferInstance
    completion := fun hmodel => by rw [GoesTo, hmodel, Runtime.requestedAlias_eq]
    query := fun _ => trivial
    write := fun _ => trivial
    link := fun _ _ => trivial }

/-- **Nothing that is measured selects the model.**  In every state of a cycle, and
whatever is answered, the completions of the node that is visited go to the model of
its tier. -/
theorem Cycle.goesTo_of_mem_events {c : Cycle} {v : Visit} (hcursor : c.cursor = .at node) :
    ∀ ev ∈ c.events rt v,
      GoesTo (rt.settings.models.routes.aliasOf (rt.preference node)) ev.op := by
  intro ev hev
  simp only [events, hcursor] at hev
  split at hev
  · simp at hev
  · exact goesTo_run.op_of_mem _ _ ev hev

end Completions

/-! ## what the measurements ask for -/

namespace MonitorSnapshot

/-- The pressure reaches the upper thresholds of the queue. -/
def Overloads (m : MonitorSnapshot) (thresholds : StatsThresholds) : Prop :=
  thresholds.queueHigh ≤ max m.queueDepth (m.activeCycles * 5) ∨
    thresholds.queueCritical ≤ max m.queueDepth (m.activeCycles * 5)

/-- The latency or the errors reach the critical threshold. -/
def Fails (m : MonitorSnapshot) (thresholds : StatsThresholds) : Prop :=
  thresholds.criticalLatencyMs ≤ m.p95LatencyMs ∨ thresholds.criticalErrorRate ≤ m.errorRate.val

/-- The penalties take more than half of the cost efficiency. -/
def Wastes (m : MonitorSnapshot) : Prop :=
  50 < min (truncate (m.avgLatencyMs / 100)) 40 + min (truncate (m.errorRate.val * 100)) 40 +
    min (truncate (m.costPerCycle * 10)) 30

/-- A system under load that fails or wastes. -/
def Degrades (m : MonitorSnapshot) (thresholds : StatsThresholds) : Prop :=
  m.Overloads thresholds ∧ (m.Wastes ∨ m.Fails thresholds)

/-- The rank of the route: the worse of what the tier and the load ask for. -/
def demand (m : MonitorSnapshot) (thresholds : StatsThresholds) : Nat :=
  max (GestaltStats.derivePerformanceTier m.p95LatencyMs m.errorRate.val thresholds).rank
    (min 2 ((GestaltStats.deriveLoadLevel m.queueDepth m.activeCycles thresholds).toInt - 2).toNat)

end MonitorSnapshot

namespace GestaltStats

section Measured

variable (s s' : GestaltStats) (m m' : MonitorSnapshot) (thresholds : StatsThresholds)
variable (now now' : Int)

theorem high_le_deriveLoadLevel_iff :
    LoadLevel.high.toInt ≤ (deriveLoadLevel m.queueDepth m.activeCycles thresholds).toInt ↔
      m.Overloads thresholds := by
  simp only [deriveLoadLevel, MonitorSnapshot.Overloads]
  split_ifs <;> simp_all [LoadLevel.toInt]

theorem derivePerformanceTier_eq_critical_iff :
    derivePerformanceTier m.p95LatencyMs m.errorRate.val thresholds = .critical ↔
      m.Fails thresholds := by
  unfold derivePerformanceTier MonitorSnapshot.Fails
  split_ifs <;> simp_all

theorem costEfficiencyScore_lt_iff :
    (s.applyMonitorSnapshot m thresholds now).costEfficiencyScore < 50 ↔ m.Wastes := by
  simp only [applyMonitorSnapshot, refreshCohesion, refreshSecurityRisk, refreshCostEfficiency,
    MonitorSnapshot.Wastes]
  omega

/-- The policy downgrades exactly under a degrading load. -/
theorem downgradeToSmallModel_iff :
    (s.applyMonitorSnapshot m thresholds now).deriveModelPolicy.downgradeToSmallModel = true ↔
      m.Degrades thresholds := by
  rw [MonitorSnapshot.Degrades, ← high_le_deriveLoadLevel_iff,
    ← derivePerformanceTier_eq_critical_iff, ← s.costEfficiencyScore_lt_iff m thresholds now,
    deriveModelPolicy, decide_eq_true_iff]
  rfl

theorem preferredModelRoute_mem_order :
    s.preferredModelRoute ∈ PerformanceTier.order.map PerformanceTier.value := by
  unfold preferredModelRoute
  split_ifs <;> decide

/-- Routes are told apart by their ranks. -/
theorem preferredRoute_eq_iff :
    (s.applyMonitorSnapshot m thresholds now).deriveModelPolicy.preferredRoute =
        (s'.applyMonitorSnapshot m' thresholds now').deriveModelPolicy.preferredRoute ↔
      m.demand thresholds = m'.demand thresholds := by
  simp only [deriveModelPolicy]
  rw [← List.idxOf_inj (preferredModelRoute_mem_order _), ← routeRank, ← routeRank,
    routeRank_preferredModelRoute, routeRank_preferredModelRoute]
  rfl

end Measured

end GestaltStats

/-! ## the policy -/

/-- Without a preferred tier the policy would not be obeyed either: the load it
downgrades under is one it routes to a large model. -/
theorem ModelsConfig.selectModel_of_downgrade {models : ModelsConfig} {stats : GestaltStats}
    (h : stats.deriveModelPolicy.downgradeToSmallModel = true) :
    models.selectModel stats none = models.routes.high ∨
      models.selectModel stats none = models.routes.critical := by
  obtain ⟨hload, -⟩ := of_decide_eq_true h
  by_cases hcritical : stats.performanceTier = .critical
  · simp [selectModel, GestaltStats.deriveModelPolicy, GestaltStats.preferredModelRoute, hcritical]
  · have hhigh : stats.performanceTier = .high ∨ stats.loadLevel.toInt ≥ LoadLevel.high.toInt :=
      Or.inr hload
    simp [selectModel, GestaltStats.deriveModelPolicy, GestaltStats.preferredModelRoute, hcritical,
      hhigh]

namespace Runtime

/-- Under a downgrade the agent's completions go to neither the high nor the critical
route. -/
def Spares (rt : Runtime) (a : AgentName) (stats : GestaltStats) : Prop :=
  stats.deriveModelPolicy.downgradeToSmallModel = true →
    rt.requestedAlias a stats ≠ rt.settings.models.routes.high ∧
      rt.requestedAlias a stats ≠ rt.settings.models.routes.critical

/-- The agent's completions follow the policy of either statistics. -/
structure ObeysPolicy (rt : Runtime) (a : AgentName) (stats stats' : GestaltStats) : Prop where
  spares : rt.Spares a stats
  spares' : rt.Spares a stats'
  adapts : stats.deriveModelPolicy.downgradeToSmallModel = false →
    stats'.deriveModelPolicy.downgradeToSmallModel = false →
    stats.deriveModelPolicy.preferredRoute ≠ stats'.deriveModelPolicy.preferredRoute →
      rt.requestedAlias a stats ≠ rt.requestedAlias a stats'

section Policies

variable {rt : Runtime} {a : AgentName}

theorem spares_iff (hdistinct : rt.settings.models.routes.Distinct) (s : GestaltStats)
    (m : MonitorSnapshot) (thresholds : StatsThresholds) (now : Int) :
    rt.Spares a (s.applyMonitorSnapshot m thresholds now) ↔
      (m.Degrades thresholds → rt.preference a = .low ∨ rt.preference a = .medium) := by
  have hhigh : rt.settings.models.routes.aliasOf (rt.preference a) ≠
      rt.settings.models.routes.high ↔ rt.preference a ≠ .high :=
    (hdistinct.ne_iff (y := .high))
  have hcritical : rt.settings.models.routes.aliasOf (rt.preference a) ≠
      rt.settings.models.routes.critical ↔ rt.preference a ≠ .critical :=
    (hdistinct.ne_iff (y := .critical))
  rw [Spares, GestaltStats.downgradeToSmallModel_iff, requestedAlias_eq, hhigh, hcritical]
  cases rt.preference a <;> simp

/-- **When the policy is obeyed.**  For every agent, all settings with four distinct
aliases and any two snapshots: under a degrading load the agent prefers a small model,
and unless one of the loads is degrading, both ask for the same route. -/
theorem obeysPolicy_iff (hdistinct : rt.settings.models.routes.Distinct) (s s' : GestaltStats)
    (m m' : MonitorSnapshot) (thresholds : StatsThresholds) (now now' : Int) :
    rt.ObeysPolicy a (s.applyMonitorSnapshot m thresholds now)
        (s'.applyMonitorSnapshot m' thresholds now') ↔
      (m.Degrades thresholds ∨ m'.Degrades thresholds →
        rt.preference a = .low ∨ rt.preference a = .medium) ∧
      (¬ m.Degrades thresholds → ¬ m'.Degrades thresholds →
        m.demand thresholds = m'.demand thresholds) := by
  rw [or_imp, ← spares_iff hdistinct s m thresholds now,
    ← spares_iff hdistinct s' m' thresholds now', ← s.downgradeToSmallModel_iff m thresholds now,
    ← s'.downgradeToSmallModel_iff m' thresholds now',
    ← s.preferredRoute_eq_iff s' m m' thresholds now now']
  constructor
  · intro hobeys
    refine ⟨⟨hobeys.spares, hobeys.spares'⟩, fun hkept hkept' => ?_⟩
    by_contra hroutes
    refine hobeys.adapts (eq_false_of_ne_true hkept) (eq_false_of_ne_true hkept') hroutes ?_
    rw [requestedAlias_eq, requestedAlias_eq]
  · intro hcondition
    obtain ⟨⟨hspares, hspares'⟩, hroutes⟩ := hcondition
    exact ⟨hspares, hspares', fun hkept hkept' hdiffer =>
      absurd (hroutes (ne_true_of_eq_false hkept) (ne_true_of_eq_false hkept')) hdiffer⟩

end Policies

end Runtime

namespace Reference

/-- The tiers of `_build_agent_configs`. -/
def defaultTier : AgentName → ModelTier
  | .orchestrator | .plannerExecutor => .high
  | .monitor => .low
  | .analyzer | .optimizer | .knowledge => .medium
  | .securityAudit => .critical

/-- The settings of the test suite with these tiers. -/
def tieredSettings : GestaltSettings :=
  { settings with
    agents := [AgentName.orchestrator, .monitor, .analyzer, .plannerExecutor, .optimizer,
      .knowledge, .securityAudit].map fun a =>
        (a.name, { modelPreference := defaultTier a, toolAllowlist := allTools })
    validate_agents := by
      intro a
      cases a <;> decide }

/-- The runtime with these settings. -/
def tieredRuntime : Runtime := { runtime with settings := tieredSettings }

/-- The statistics after a snapshot. -/
def measured (m : MonitorSnapshot) : GestaltStats :=
  ({ lastUpdated := 0 } : GestaltStats).applyMonitorSnapshot m {} 0

theorem distinct_tiered : tieredRuntime.settings.models.routes.Distinct := by
  intro tier tier' h
  have hval := congrArg MinStr.val h
  cases tier <;> cases tier' <;> first | rfl | exact absurd hval (by decide)

end Reference

namespace Runtime

/-- The monitor prefers the small model, and obeys the policy when the queue and the
latency are critical. -/
theorem obeysPolicy_iff_overload :
    Reference.tieredRuntime.ObeysPolicy .monitor
      (Reference.measured { queueDepth := 100, p95LatencyMs := 5000 }) (Reference.measured {}) := by
  refine (obeysPolicy_iff Reference.distinct_tiered _ _ _ _ _ _ _).mpr
    ⟨fun _ => Or.inl (by decide), fun hcalm => absurd ?_ hcalm⟩
  exact ⟨Or.inr (by decide), Or.inr (Or.inl (by decide +kernel))⟩

/-- With the tiers of the configuration, the security audit of an overloaded system goes
to the critical model although the policy is to downgrade; and whether the system is idle
or slow, which ask for different routes, makes no difference. -/
theorem policy_disobeyed :
    let rt := Reference.tieredRuntime
    let idle := Reference.measured {}
    let slow := Reference.measured { p95LatencyMs := 1000 }
    let overloaded := Reference.measured { queueDepth := 100, p95LatencyMs := 5000 }
    overloaded.deriveModelPolicy.downgradeToSmallModel = true ∧
      rt.requestedAlias .securityAudit overloaded = rt.settings.models.routes.critical ∧
      idle.deriveModelPolicy.downgradeToSmallModel = false ∧
      slow.deriveModelPolicy.downgradeToSmallModel = false ∧
      idle.deriveModelPolicy.preferredRoute ≠ slow.deriveModelPolicy.preferredRoute ∧
      rt.requestedAlias .securityAudit idle = rt.requestedAlias .securityAudit slow := by
  intro rt idle slow overloaded
  refine ⟨by decide +kernel, ?_, by decide +kernel, by decide +kernel, by decide +kernel, ?_⟩
  · rw [requestedAlias_eq]
    rfl
  · rw [requestedAlias_eq, requestedAlias_eq]

end Runtime

end Gestalt
