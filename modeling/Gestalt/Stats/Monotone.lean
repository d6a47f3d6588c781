import Gestalt.Stats
import Mathlib.Data.Rat.Floor

/-!
# Gestalt.Stats.Monotone

Worse telemetry never looks better.

Every derived value is a cascade of thresholds or a sum of clamped penalties,
each of them monotone in the measurements.  So it is compared branch by branch,
and the thresholds may stand in any order.
-/

namespace Gestalt

/-! ## truncation -/

theorem truncate_of_nonneg {q : Rat} (h : 0 ≤ q) : truncate q = ⌊q⌋ := by
  rw [truncate, Rat.floor_def', Int.tdiv_eq_ediv_of_nonneg (Rat.num_nonneg.mpr h)]

theorem truncate_neg (q : Rat) : truncate (-q) = -truncate q := by
  simp [truncate, Int.neg_tdiv]

theorem truncate_nonneg {q : Rat} (h : 0 ≤ q) : 0 ≤ truncate q := by
  rw [truncate_of_nonneg h]
  exact Int.floor_nonneg.mpr h

/-- Truncation toward zero is monotone, across zero too. -/
theorem truncate_mono {p q : Rat} (h : p ≤ q) : truncate p ≤ truncate q := by
  rcases le_total 0 p with hp | hp
  · rw [truncate_of_nonneg hp, truncate_of_nonneg (hp.trans h)]
    exact Int.floor_le_floor h
  · have hneg : truncate p = -⌊-p⌋ := by
      rw [← truncate_of_nonneg (neg_nonneg.mpr hp), truncate_neg, neg_neg]
    rcases le_total 0 q with hq | hq
    · have hfloor : 0 ≤ ⌊-p⌋ := Int.floor_nonneg.mpr (neg_nonneg.mpr hp)
      have htruncate := truncate_nonneg hq
      omega
    · have hneg' : truncate q = -⌊-q⌋ := by
        rw [← truncate_of_nonneg (neg_nonneg.mpr hq), truncate_neg, neg_neg]
      have hfloor : ⌊-q⌋ ≤ ⌊-p⌋ := Int.floor_le_floor (neg_le_neg h)
      omega

/-! ## what is compared -/

/-- The second snapshot is at least as bad as the first in every measurement a
score or a tier is derived from. -/
structure MonitorSnapshot.WorsensTo (m m' : MonitorSnapshot) : Prop where
  queueDepth : m.queueDepth ≤ m'.queueDepth
  activeCycles : m.activeCycles ≤ m'.activeCycles
  avgLatencyMs : m.avgLatencyMs ≤ m'.avgLatencyMs
  p95LatencyMs : m.p95LatencyMs ≤ m'.p95LatencyMs
  errorRate : m.errorRate.val ≤ m'.errorRate.val
  costPerCycle : m.costPerCycle ≤ m'.costPerCycle
  blackboardConsistency : m'.blackboardConsistency.val ≤ m.blackboardConsistency.val
  collaborationSuccessRate : m'.collaborationSuccessRate.val ≤ m.collaborationSuccessRate.val
  securityOpenFindings : m.securityOpenFindings ≤ m'.securityOpenFindings

/-- The place of a model route among the tiers. -/
def routeRank (route : String) : Nat :=
  (PerformanceTier.order.map PerformanceTier.value).idxOf route

/-- The second statistics look at least as bad as the first. -/
structure GestaltStats.LooksWorse (s s' : GestaltStats) : Prop where
  loadLevel : s.loadLevel.toInt ≤ s'.loadLevel.toInt
  performanceTier : s.performanceTier.rank ≤ s'.performanceTier.rank
  risk : s.securityRiskScore ≤ s'.securityRiskScore
  cost : s'.costEfficiencyScore ≤ s.costEfficiencyScore
  cohesion : s'.gestaltCohesionScore ≤ s.gestaltCohesionScore
  route : routeRank s.deriveModelPolicy.preferredRoute ≤
    routeRank s'.deriveModelPolicy.preferredRoute
  downgrade : s.deriveModelPolicy.downgradeToSmallModel = true →
    s'.deriveModelPolicy.downgradeToSmallModel = true
  guardrails : s.deriveModelPolicy.requireHeightenedGuardrails = true →
    s'.deriveModelPolicy.requireHeightenedGuardrails = true
  intervention : s.shouldTriggerSecurityIntervention = true →
    s'.shouldTriggerSecurityIntervention = true

/-- The two statistics derive the same from what was measured. -/
structure GestaltStats.DerivesAlike (s s' : GestaltStats) : Prop where
  loadLevel : s.loadLevel = s'.loadLevel
  performanceTier : s.performanceTier = s'.performanceTier
  risk : s.securityRiskScore = s'.securityRiskScore
  cost : s.costEfficiencyScore = s'.costEfficiencyScore
  cohesion : s.gestaltCohesionScore = s'.gestaltCohesionScore
  policy : s.deriveModelPolicy = s'.deriveModelPolicy
  intervention : s.shouldTriggerSecurityIntervention = s'.shouldTriggerSecurityIntervention

/-! ## the cascades -/

namespace GestaltStats

/-- More pressure never lowers the load level, whatever the thresholds. -/
theorem deriveLoadLevel_mono (thresholds : StatsThresholds) {queue queue' cycles cycles' : Int}
    (hqueue : queue ≤ queue') (hcycles : cycles ≤ cycles') :
    (deriveLoadLevel queue cycles thresholds).toInt ≤
      (deriveLoadLevel queue' cycles' thresholds).toInt := by
  have hpressure : max queue (cycles * 5) ≤ max queue' (cycles' * 5) := by omega
  simp only [deriveLoadLevel]
  generalize max queue (cycles * 5) = pressure at hpressure ⊢
  generalize max queue' (cycles' * 5) = pressure' at hpressure ⊢
  split_ifs <;> first | decide | (exfalso; omega)

/-- More latency or more errors never better the performance tier. -/
theorem derivePerformanceTier_mono (thresholds : StatsThresholds) {p95 p95' rate rate' : Rat}
    (hp95 : p95 ≤ p95') (hrate : rate ≤ rate') :
    (derivePerformanceTier p95 rate thresholds).rank ≤
      (derivePerformanceTier p95' rate' thresholds).rank := by
  have hcross : ∀ {bound bound' : Rat}, p95 ≥ bound ∨ rate ≥ bound' →
      p95' ≥ bound ∨ rate' ≥ bound' :=
    fun h => h.imp (fun h => h.trans hp95) fun h => h.trans hrate
  have hcross' : ∀ {bound : Rat}, p95 ≥ bound → p95' ≥ bound := fun h => h.trans hp95
  simp only [derivePerformanceTier]
  split_ifs <;> first | decide | (exfalso; grind)

/-- The preferred route is the worse of what the tier and the load ask for. -/
theorem routeRank_preferredModelRoute (s : GestaltStats) :
    routeRank s.preferredModelRoute =
      max s.performanceTier.rank (min 2 (s.loadLevel.toInt - 2).toNat) := by
  unfold preferredModelRoute
  cases s.performanceTier <;> cases s.loadLevel <;> decide

/-! ## the scores -/

variable {m m' : MonitorSnapshot}

/-- What the truncated measurements of two snapshots have in common. -/
structure Penalized (m m' : MonitorSnapshot) : Prop where
  latency : truncate (m.avgLatencyMs / 100) ≤ truncate (m'.avgLatencyMs / 100)
  errors : truncate (m.errorRate.val * 100) ≤ truncate (m'.errorRate.val * 100)
  cost : truncate (m.costPerCycle * 10) ≤ truncate (m'.costPerCycle * 10)
  consistency : ∀ weight : Rat, 0 ≤ weight →
    truncate (m'.blackboardConsistency.val * weight) ≤
      truncate (m.blackboardConsistency.val * weight)
  collaboration : truncate (m'.collaborationSuccessRate.val * 40) ≤
    truncate (m.collaborationSuccessRate.val * 40)

theorem penalized (h : m.WorsensTo m') : Penalized m m' where
  latency := truncate_mono (by linarith [h.avgLatencyMs])
  errors := truncate_mono (by linarith [h.errorRate])
  cost := truncate_mono (by linarith [h.costPerCycle])
  consistency weight hweight :=
    truncate_mono (mul_le_mul_of_nonneg_right h.blackboardConsistency hweight)
  collaboration := truncate_mono (by linarith [h.collaborationSuccessRate])

/-- Worse measurements never better a score. -/
theorem scores_mono (h : m.WorsensTo m') (s s' : GestaltStats) (thresholds : StatsThresholds)
    (now now' : Int) :
    let t := s.applyMonitorSnapshot m thresholds now
    let t' := s'.applyMonitorSnapshot m' thresholds now'
    t'.costEfficiencyScore ≤ t.costEfficiencyScore ∧
      t.securityRiskScore ≤ t'.securityRiskScore ∧
      t'.gestaltCohesionScore ≤ t.gestaltCohesionScore := by
  obtain ⟨hlatency, herrors, hcost, hconsistency, hcollaboration⟩ := penalized h
  have hfindings := h.securityOpenFindings
  have hconsistency20 := hconsistency 20 (by norm_num)
  have hconsistency40 := hconsistency 40 (by norm_num)
  simp only [applyMonitorSnapshot, refreshCohesion, refreshSecurityRisk, refreshCostEfficiency]
  omega

/-- Critical is the highest rank. -/
theorem performanceTier_eq_critical_iff (tier : PerformanceTier) :
    tier = .critical ↔ PerformanceTier.rank .critical ≤ tier.rank := by
  cases tier <;> decide

/-- What is derived from a snapshot does not depend on the statistics before. -/
theorem derivesAlike_applyMonitorSnapshot (m : MonitorSnapshot) (thresholds : StatsThresholds)
    (s s' : GestaltStats) (now now' : Int) :
    (s.applyMonitorSnapshot m thresholds now).DerivesAlike
      (s'.applyMonitorSnapshot m thresholds now') :=
  ⟨rfl, rfl, rfl, rfl, rfl, rfl, rfl⟩

/-- **Worse telemetry never looks better**, and the same telemetry looks the
same, whatever the statistics were before. -/
theorem looksWorse_of_worsensTo (thresholds : StatsThresholds) (s s' : GestaltStats)
    (m m' : MonitorSnapshot) (now now' : Int) (h : m.WorsensTo m') :
    (s.applyMonitorSnapshot m thresholds now).LooksWorse
        (s'.applyMonitorSnapshot m' thresholds now') ∧
      (s.applyMonitorSnapshot m thresholds now).DerivesAlike
        (s'.applyMonitorSnapshot m thresholds now') := by
  refine ⟨?_, derivesAlike_applyMonitorSnapshot m thresholds s s' now now'⟩
  obtain ⟨hcost, hrisk, hcohesion⟩ := scores_mono h s s' thresholds now now'
  have hload : (s.applyMonitorSnapshot m thresholds now).loadLevel.toInt ≤
      (s'.applyMonitorSnapshot m' thresholds now').loadLevel.toInt :=
    deriveLoadLevel_mono thresholds h.queueDepth h.activeCycles
  have htier : (s.applyMonitorSnapshot m thresholds now).performanceTier.rank ≤
      (s'.applyMonitorSnapshot m' thresholds now').performanceTier.rank :=
    derivePerformanceTier_mono thresholds h.p95LatencyMs h.errorRate
  have hfindings : (s.applyMonitorSnapshot m thresholds now).openSecurityFindings ≤
      (s'.applyMonitorSnapshot m' thresholds now').openSecurityFindings :=
    h.securityOpenFindings
  generalize s.applyMonitorSnapshot m thresholds now = t at *
  generalize s'.applyMonitorSnapshot m' thresholds now' = t' at *
  refine ⟨hload, htier, hrisk, hcost, hcohesion, ?_, ?_, ?_, ?_⟩
  · simp only [deriveModelPolicy, routeRank_preferredModelRoute]
    omega
  · simp only [deriveModelPolicy, decide_eq_true_eq, performanceTier_eq_critical_iff]
    omega
  · simp only [deriveModelPolicy, decide_eq_true_eq]
    omega
  · simp only [shouldTriggerSecurityIntervention, decide_eq_true_eq]
    omega

/-- Findings and a longer queue, with unordered thresholds. -/
theorem looksWorse_idle :
    let m' : MonitorSnapshot := { queueDepth := 60, securityOpenFindings := 7 }
    let thresholds : StatsThresholds := { queueLow := 50, queueHigh := 5 }
    let s : GestaltStats := { lastUpdated := 0 }
    (s.applyMonitorSnapshot {} thresholds 0).LooksWorse
        (s.applyMonitorSnapshot m' thresholds 0) ∧
      (s.applyMonitorSnapshot {} thresholds 0).DerivesAlike
        (s.applyMonitorSnapshot {} thresholds 0) :=
  looksWorse_of_worsensTo _ _ _ _ _ _ _
    ⟨by decide, le_rfl, le_rfl, le_rfl, le_rfl, le_rfl, le_rfl, le_rfl, by decide⟩

end GestaltStats

end Gestalt
