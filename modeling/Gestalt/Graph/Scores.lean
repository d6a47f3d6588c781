import Gestalt.Graph.Journal
import Gestalt.Graph.Telemetry
import Gestalt.Orchestrator.Plan
import Gestalt.Stats.Monotone

/-!
# Gestalt.Graph.Scores

The scores a cycle can show.

Only a report of the monitor changes the statistics, and most of its snapshot is
fixed: the blackboard is taken to be consistent and nearly every collaboration to
succeed.  What is left to measure are the errors and the open findings, so risk
and cohesion follow from these two, and from each other.
-/

namespace Gestalt

open Effects Program

/-! ## the points of a measurement -/

/-- The points for errors: one for each percent, twenty at most. -/
def errorPoints (errorRate : Ratio) : Int := min (truncate (errorRate.val * 100)) 20

/-- The points for open findings: ten for each, sixty at most. -/
def findingPoints (findings : Nat) : Int := min (10 * findings) 60

/-- How many findings the reports hold. -/
def totalFindings (reports : List GestaltAuditReport) : Nat :=
  (reports.map fun report => report.findings.length).sum

theorem errorPoints_nonneg (errorRate : Ratio) : 0 ≤ errorPoints errorRate := by
  have hpercent := truncate_percent_nonneg errorRate
  unfold errorPoints
  omega

theorem errorPoints_le (errorRate : Ratio) : errorPoints errorRate ≤ 20 := by
  unfold errorPoints
  omega

/-- Where the scores come from: nothing was measured so far, or errors were, and the
findings of the audits there were at the time. -/
inductive GestaltStats.Scored (audits : List GestaltAuditReport) (stats : GestaltStats) : Prop where
  | unmeasured (cost : stats.costEfficiencyScore = 100) (risk : stats.securityRiskScore = 0)
      (cohesion : stats.gestaltCohesionScore = 100)
  | measured {earlier : List GestaltAuditReport} {errorRate : Ratio} (audited : earlier <+: audits)
      (cost : stats.costEfficiencyScore ≤ 99 - errorPoints errorRate)
      (risk : stats.securityRiskScore =
        findingPoints (totalFindings earlier) + errorPoints errorRate)
      (cohesion : stats.gestaltCohesionScore = 98 - errorPoints errorRate)

/-- The statistics as they start at `startedAt`, but for tiers, scores and health. -/
def GestaltStats.Unsampled (stats : GestaltStats) (startedAt : Int) : Prop :=
  stats = {
    loadLevel := stats.loadLevel
    performanceTier := stats.performanceTier
    costEfficiencyScore := stats.costEfficiencyScore
    securityRiskScore := stats.securityRiskScore
    gestaltCohesionScore := stats.gestaltCohesionScore
    agentHealth := stats.agentHealth
    lastUpdated := startedAt }

/-- No agent is known to be unwell. -/
def GestaltStats.Healthy (stats : GestaltStats) : Prop :=
  ∀ name health, stats.agentHealth.get? name = some health → health = .healthy

namespace GestaltStats

variable {stats : GestaltStats} {audits audits' : List GestaltAuditReport}

/-- Later audits do not change where the scores come from. -/
theorem Scored.mono (h : stats.Scored audits) (hle : audits <+: audits') :
    stats.Scored audits' := by
  cases h with
  | unmeasured cost risk cohesion => exact .unmeasured cost risk cohesion
  | measured audited cost risk cohesion =>
      exact .measured (audited.trans hle) cost risk cohesion

theorem Scored.cohesion_bounds (h : stats.Scored audits) :
    78 ≤ stats.gestaltCohesionScore ∧ stats.gestaltCohesionScore ≤ 100 := by
  cases h with
  | unmeasured _ _ cohesion => omega
  | @measured _ errorRate _ _ _ cohesion =>
      have hnonneg := errorPoints_nonneg errorRate
      have hle := errorPoints_le errorRate
      omega

end GestaltStats

/-! ## one measurement -/

namespace Monitor

variable {s : GestaltGraphState} {queue latency errorRatio : Rat} {snapshot : MonitorSnapshot}

theorem exists_errorRate_of_snapshot
    (h : Monitor.snapshot s queue latency errorRatio = .ok snapshot) :
    ∃ errorRate consistency collaboration : Ratio, consistency.val = 1 ∧
      collaboration.val = 95 / 100 ∧ snapshot = {
      queueDepth := truncate queue
      activeCycles := max 1 (s.executionReports.length : Int)
      avgLatencyMs := latency * (7 / 10)
      p95LatencyMs := latency
      errorRate := errorRate
      failureCount := (s.executionReports.countP fun report => report.status = .failed : Nat)
      successCount := (s.executionReports.countP fun report => report.status = .completed : Nat)
      costPerCycle := max (1 / 10) (latency / 1000)
      blackboardConsistency := consistency
      collaborationSuccessRate := collaboration
      securityOpenFindings := (totalFindings s.auditReports : Nat) } := by
  obtain ⟨errorRate, -, h⟩ := Codec.exists_of_bind_eq_ok h
  exact ⟨errorRate, _, _, rfl, rfl, (Except.ok.inj h).symm⟩

/-- The scores that are derived from a snapshot. -/
theorem scores_of_snapshot (rt : Runtime) (updatedAt : Int) (hlatency : 0 ≤ latency)
    (h : Monitor.snapshot s queue latency errorRatio = .ok snapshot) :
    ∃ errorRate : Ratio,
      (derivedStats rt s snapshot updatedAt).costEfficiencyScore ≤ 99 - errorPoints errorRate ∧
      (derivedStats rt s snapshot updatedAt).securityRiskScore =
        findingPoints (totalFindings s.auditReports) + errorPoints errorRate ∧
      (derivedStats rt s snapshot updatedAt).gestaltCohesionScore = 98 - errorPoints errorRate := by
  obtain ⟨errorRate, consistency, collaboration, hconsistent, hworked, rfl⟩ :=
    exists_errorRate_of_snapshot h
  have hpercent := truncate_percent_nonneg errorRate
  -- each cycle costs at least a tenth, which is one point
  have hcost : 1 ≤ truncate (max (1 / 10) (latency / 1000) * 10) := by
    have hone : truncate 1 = 1 := by decide +kernel
    rw [← hone]
    refine truncate_mono ?_
    have hle := mul_le_mul_of_nonneg_right (le_max_left (1 / 10 : Rat) (latency / 1000))
      (by norm_num : (0 : Rat) ≤ 10)
    norm_num at hle ⊢
    exact hle
  have hslow : 0 ≤ truncate (latency * (7 / 10) / 100) := truncate_nonneg (by positivity)
  have hshared : truncate (consistency.val * 40) = 40 := by
    rw [hconsistent]
    decide +kernel
  have hsecured : truncate (consistency.val * 20) = 20 := by
    rw [hconsistent]
    decide +kernel
  have hcollaborated : truncate (collaboration.val * 40) = 38 := by
    rw [hworked]
    decide +kernel
  refine ⟨errorRate, ?_, ?_, ?_⟩
  · simp only [derivedStats, GestaltStats.applyMonitorSnapshot, GestaltStats.refreshCohesion,
      GestaltStats.refreshSecurityRisk, GestaltStats.refreshCostEfficiency, errorPoints]
    omega
  · simp only [derivedStats, GestaltStats.applyMonitorSnapshot, GestaltStats.refreshCohesion,
      GestaltStats.refreshSecurityRisk, GestaltStats.refreshCostEfficiency, errorPoints,
      findingPoints, hsecured]
    omega
  · simp only [derivedStats, GestaltStats.applyMonitorSnapshot, GestaltStats.refreshCohesion,
      GestaltStats.refreshSecurityRisk, GestaltStats.refreshCostEfficiency, errorPoints,
      hshared, hcollaborated]
    omega

end Monitor

/-! ## merging a report -/

/-- Where the statistics of a state come from: how they started at `startedAt`, and
what was measured and merged. -/
structure GestaltGraphState.Rated (s : GestaltGraphState) (startedAt : Int) : Prop where
  unsampled : s.stats.Unsampled startedAt
  healthy : s.stats.Healthy
  scored : s.stats.Scored s.auditReports

/-- The report of the monitor on a state leaves tiers, scores and health of its
own, and nothing else. -/
theorem GestaltGraphState.Rated.applyStatsReport {rt : Runtime} {s : GestaltGraphState}
    {queue latency errorRatio : Rat} {snapshot : MonitorSnapshot} {updatedAt startedAt : Int}
    {report : GestaltStatsReport} (h : s.Rated startedAt)
    (hsnapshot : Monitor.snapshot s queue latency errorRatio = .ok snapshot)
    (hreport : Monitor.Reports (Monitor.derivedStats rt s snapshot updatedAt) snapshot report) :
    (Gestalt.applyStatsReport s.stats report).Unsampled startedAt ∧
      (Gestalt.applyStatsReport s.stats report).Healthy ∧
      (Gestalt.applyStatsReport s.stats report).Scored s.auditReports := by
  obtain ⟨agentHealth, hfold, hothers, hhealthy⟩ := foldl_setAgentHealth report.agentHealth
    { s.stats with
      loadLevel := report.loadLevel
      performanceTier := report.performanceTier
      costEfficiencyScore := report.costEfficiencyScore.val
      securityRiskScore := report.securityRiskScore.val
      gestaltCohesionScore := report.gestaltCohesionScore.val }
  have hlatency : 0 ≤ latency := by
    rw [← (Monitor.measures_of_snapshot hsnapshot).p95LatencyMs, ← hreport.p95LatencyMs]
    exact report.p95LatencyMs.nonneg
  obtain ⟨errorRate, hcost, hrisk, hcohesion⟩ :=
    Monitor.scores_of_snapshot rt updatedAt hlatency hsnapshot
  rw [Gestalt.applyStatsReport, hfold]
  refine ⟨?_, fun name health hget => ?_, ?_⟩
  · have hunsampled := h.unsampled
    rw [GestaltStats.Unsampled] at hunsampled ⊢
    rw [hunsampled]
  · by_cases hreported : ∃ snapshot ∈ report.agentHealth, snapshot.agentName.val = name
    · obtain ⟨snapshot, hmem, rfl⟩ := hreported
      rw [hhealthy hreport.healthy snapshot hmem] at hget
      exact (Option.some.inj hget).symm
    · push Not at hreported
      rw [hothers name hreported] at hget
      exact h.healthy name health hget
  · exact .measured (List.prefix_refl _) (hreport.cost ▸ hcost) (hreport.risk ▸ hrisk)
      (hreport.cohesion ▸ hcohesion)

/-- A visit to the monitor that completes merges a report on what it measured. -/
theorem Monitor.exists_merged_of_completed {rt : Runtime} {s out : GestaltGraphState}
    {w : Surroundings Services} {entry : AgentExecutionReport}
    (hrun : ((run rt (agentAt rt .monitor)).run w s).result = .ok out)
    (hentry : out.executionReports.getLast? = some entry) (hcompleted : entry.status = .completed) :
    ∃ queue latency errorRatio snapshot updatedAt report,
      Monitor.snapshot s queue latency errorRatio = .ok snapshot ∧
      Reports (derivedStats rt s snapshot updatedAt) snapshot report ∧
      out.stats = applyStatsReport s.stats report := by
  obtain ⟨context, messages, art, w', -, -, hart, hcomplete, -⟩ :=
    exists_complete_of_bodyRun (bodyRun_of_completed hrun hentry hcompleted) fun context art hart =>
      (Steady.of_run steady_monitor hart).1
  obtain ⟨queue, latency, errorRatio, -, snapshot, updatedAt, report, hsnapshot, hreport,
    hreports⟩ := Monitor.reports_of_produceArtifacts w hart
  have hlogs : LogsAll storedRows s (complete .monitor (w 0 (.utcNow .started)) messages art)
      art.rows _ := logsAll_complete
  specialize hlogs w'
  rw [hcomplete] at hlogs
  obtain ⟨-, -, -, -, -, hmerged⟩ := hlogs
  refine ⟨queue, latency, errorRatio, snapshot, updatedAt, report, hsnapshot, hreports, ?_⟩
  rw [hmerged.stats, hreport]
  rfl

/-- **One step** rates the state it leads to by what was measured. -/
theorem Cycle.rated_step (rt : Runtime) (v : Visit) {c : Cycle} {startedAt : Int}
    (hrange : c.state.stats.InRange) (h : c.state.Rated startedAt) :
    (c.step rt v).state.Rated startedAt := by
  have haudits : c.state.auditReports <+: (c.step rt v).state.auditReports :=
    (appendsTo_step hrange rt v).auditReports
  obtain hkept | ⟨node, -, -, hrun⟩ := (moves hrange rt v).state_cases
  · rw [hkept]
    exact h
  · obtain ⟨rfl, ⟨entry, hreports, hcompleted⟩, -⟩ | ⟨hkept, -⟩ := (visitEffect_of_ok hrun).1.risk
    · obtain ⟨queue, latency, errorRatio, snapshot, updatedAt, report, hsnapshot, hreport,
        hstats⟩ := Monitor.exists_merged_of_completed hrun (by simp [hreports]) hcompleted
      obtain ⟨hunsampled, hhealthy, hscored⟩ := h.applyStatsReport hsnapshot hreport
      rw [← hstats] at hunsampled hhealthy hscored
      exact ⟨hunsampled, hhealthy, hscored.mono haudits⟩
    · exact ⟨hkept ▸ h.unsampled, hkept ▸ h.healthy, hkept ▸ h.scored.mono haudits⟩

/-! ## runs -/

theorem rated_buildGraphState (fresh : Fresh) (request : CycleRequest) :
    (buildGraphState fresh request).Rated fresh.now where
  unsampled := rfl
  healthy name health hget := by simp [buildGraphState] at hget
  scored := .unmeasured rfl rfl rfl

/-- **Where the scores of a run come from.**  In every reachable state of every
cycle, whatever telemetry and the services answer and whatever fails: of the
statistics only tiers, scores and health ever change; no agent is ever known to be
unwell; and cost, risk and cohesion are 100, 0 and 100, or follow from the errors of
one measurement and from the findings of the audits there were at the time. -/
theorem Cycle.rated_after (rt : Runtime) (fresh : Fresh) (request : CycleRequest)
    (visits : Nat → Visit) (n : Nat) :
    (after rt visits (start fresh request) n).state.Rated fresh.now := by
  induction n with
  | zero => exact rated_buildGraphState fresh request
  | succ n ih => exact rated_step rt (visits n) (sound_after rt fresh request visits n).inRange ih

end Gestalt
