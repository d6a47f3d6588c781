import Gestalt.Graph.Failures

/-!
# Gestalt.Graph.Telemetry

What a visit to the monitor leaves of its measurements.

The readings go into a snapshot, the snapshot into statistics, the statistics into
a report and the report into the state.  The first three steps copy everything; the
last takes over the tiers, the scores and the health of the agents, and leaves the
measurements of the state as they were.
-/

namespace Gestalt

open Effects Program

namespace Monitor

/-! ## readings -/

theorem length_queueDepth : 1 ≤ "queue_depth".length := by decide

theorem length_latency : 1 ≤ "latency_p95_ms".length := by decide

/-- A query asks telemetry and nothing else. -/
theorem run_queryPrometheus {rt : Runtime} {a : AgentName} {query : MinStr 1}
    {w : Surroundings Services} {s : GestaltGraphState} {value : Rat}
    (h : ((queryPrometheus rt a query).run w s).result = .ok value) :
    w 0 (.call (.prometheusQuery query)) = .ok value ∧
      ((queryPrometheus rt a query).run w s).state = s ∧
      ((queryPrometheus rt a query).run w s).trace.length = 1 :=
  run_executeAllowed_send h

/-- What telemetry answers the monitor in a visit: it is asked after the context is
prepared and the messages are built. -/
structure Readings (w : Surroundings Services) (queue latency errorRatio : Rat) : Prop where
  queue : w 6 (.call (.prometheusQuery (.text "queue_depth" length_queueDepth))) = .ok queue
  latency : w 7 (.call (.prometheusQuery (.text "latency_p95_ms" length_latency))) = .ok latency
  errorRatio : w 8 (.call (.prometheusQuery (.text "error_ratio"
    SecurityAudit.length_errorRatio))) = .ok errorRatio

/-- The snapshot holds what was measured. -/
structure Measures (s : GestaltGraphState) (queue latency errorRatio : Rat)
    (snapshot : MonitorSnapshot) : Prop where
  queueDepth : snapshot.queueDepth = truncate queue
  activeCycles : snapshot.activeCycles = max 1 (s.executionReports.length : Int)
  p95LatencyMs : snapshot.p95LatencyMs = latency
  errorRate : snapshot.errorRate.val = errorRatio
  openFindings : snapshot.securityOpenFindings = s.openFindings

theorem measures_of_snapshot {s : GestaltGraphState} {queue latency errorRatio : Rat}
    {snapshot : MonitorSnapshot} (h : Monitor.snapshot s queue latency errorRatio = .ok snapshot) :
    Measures s queue latency errorRatio snapshot := by
  obtain ⟨errorRate, hvalid, h⟩ := Codec.exists_of_bind_eq_ok h
  obtain rfl := Except.ok.inj h
  exact ⟨rfl, rfl, rfl, Ratio.val_of_check? (eq_some_of_validate hvalid), rfl⟩

/-! ## reports -/

/-- The report says what the statistics and the snapshot say. -/
structure Reports (stats : GestaltStats) (snapshot : MonitorSnapshot)
    (report : GestaltStatsReport) : Prop where
  loadLevel : report.loadLevel = stats.loadLevel
  performanceTier : report.performanceTier = stats.performanceTier
  cost : report.costEfficiencyScore.val = stats.costEfficiencyScore
  risk : report.securityRiskScore.val = stats.securityRiskScore
  cohesion : report.gestaltCohesionScore.val = stats.gestaltCohesionScore
  queueDepth : (report.queueDepth : Int) = snapshot.queueDepth
  activeCycles : (report.activeCycles : Int) = snapshot.activeCycles
  p95LatencyMs : report.p95LatencyMs.val = snapshot.p95LatencyMs
  failureRatio : report.failureRatio = snapshot.errorRate
  healthy : ∀ health ∈ report.agentHealth, health.status = .healthy

theorem reports_of_statsReport {traceId reportId : Uuid} {capturedAt : Int} {stats : GestaltStats}
    {snapshot : MonitorSnapshot} {agentHealth : List AgentHealthSnapshot}
    {report : GestaltStatsReport}
    (h : statsReport traceId reportId capturedAt stats snapshot agentHealth = .ok report)
    (hhealthy : ∀ health ∈ agentHealth, health.status = .healthy) :
    Reports stats snapshot report := by
  obtain ⟨cost, hcost, h⟩ := Codec.exists_of_bind_eq_ok h
  obtain ⟨risk, hrisk, h⟩ := Codec.exists_of_bind_eq_ok h
  obtain ⟨cohesion, hcohesion, h⟩ := Codec.exists_of_bind_eq_ok h
  obtain ⟨p95, hp95, h⟩ := Codec.exists_of_bind_eq_ok h
  obtain ⟨queueDepth, hqueue, h⟩ := Codec.exists_of_bind_eq_ok h
  obtain ⟨activeCycles, hactive, h⟩ := Codec.exists_of_bind_eq_ok h
  obtain rfl := Except.ok.inj h
  exact {
    loadLevel := rfl
    performanceTier := rfl
    cost := Score.val_of_check? (eq_some_of_validate hcost)
    risk := Score.val_of_check? (eq_some_of_validate hrisk)
    cohesion := Score.val_of_check? (eq_some_of_validate hcohesion)
    queueDepth := (Int.mem_toNat?.mp (eq_some_of_validate hqueue)).symm
    activeCycles := (Int.mem_toNat?.mp (eq_some_of_validate hactive)).symm
    p95LatencyMs := NonNegFloat.val_of_check? (eq_some_of_validate hp95)
    failureRatio := rfl
    healthy := hhealthy }

theorem healthy_of_healthSnapshots {settings : GestaltSettings}
    {snapshots : List AgentHealthSnapshot} (h : healthSnapshots settings = .ok snapshots) :
    ∀ health ∈ snapshots, health.status = .healthy := by
  have hall : ∀ (agents : Dict AgentPolicyConfig) snapshots,
      (agents.mapM fun kv => do
        let agentName ← validate "AgentHealthSnapshot" "agent_name"
          "String should have at least 2 characters" (MinStr.check? 2 kv.1)
        return ({ agentName, status := .healthy } : AgentHealthSnapshot)) = .ok snapshots →
      ∀ health ∈ snapshots, health.status = .healthy := by
    intro agents
    induction agents with
    | nil =>
        intro snapshots h
        obtain rfl := Except.ok.inj h
        simp
    | cons kv agents ih =>
        intro snapshots h
        rw [List.mapM_cons] at h
        obtain ⟨first, hfirst, h⟩ := Codec.exists_of_bind_eq_ok h
        obtain ⟨rest, hrest, h⟩ := Codec.exists_of_bind_eq_ok h
        obtain ⟨agentName, -, hfirst⟩ := Codec.exists_of_bind_eq_ok hfirst
        obtain rfl := Except.ok.inj h
        obtain rfl := Except.ok.inj hfirst
        intro health hmem
        rcases List.mem_cons.mp hmem with rfl | hmem
        · rfl
        · exact ih rest hrest health hmem
  exact hall settings.agents snapshots h

/-- The statistics the monitor derives from a snapshot. -/
def derivedStats (rt : Runtime) (s : GestaltGraphState) (snapshot : MonitorSnapshot)
    (updatedAt : Int) : GestaltStats :=
  s.stats.clamped.applyMonitorSnapshot snapshot (thresholdsFromSettings rt.settings) updatedAt

/-- The artifacts hold a report on the statistics derived from a snapshot of the
readings. -/
def ReportedOn (rt : Runtime) (s : GestaltGraphState) (queue latency errorRatio : Rat)
    (art : AgentArtifacts) : Prop :=
  ∃ snapshot updatedAt report, Monitor.snapshot s queue latency errorRatio = .ok snapshot ∧
    art.statsReport = some report ∧ Reports (derivedStats rt s snapshot updatedAt) snapshot report

/-- **The run of the monitor**: three readings, a snapshot of them, the statistics it
leads to and the report on these. -/
theorem reports_of_produceArtifacts {rt : Runtime} {s : GestaltGraphState}
    {context : AgentContextEnvelope} {art : AgentArtifacts} (w : Surroundings Services)
    (h : ((produceArtifacts rt context).run (w.drop 6) s).result = .ok art) :
    ∃ queue latency errorRatio, Readings w queue latency errorRatio ∧
      ReportedOn rt s queue latency errorRatio art := by
  rw [produceArtifacts, run_bind, run_read] at h
  simp only [List.length_nil, drop_zero] at h
  -- the readings
  obtain ⟨queue, hqueue, h⟩ := exists_of_run_bind h
  obtain ⟨hqueued, hstate, hlength⟩ := run_queryPrometheus hqueue
  rw [hstate, hlength, drop_drop] at h
  obtain ⟨latency, hlatency, h⟩ := exists_of_run_bind h
  obtain ⟨hdelayed, hstate, hlength⟩ := run_queryPrometheus hlatency
  rw [hstate, hlength, drop_drop] at h
  obtain ⟨errorRatio, hratio, h⟩ := exists_of_run_bind h
  obtain ⟨hfailed, hstate, hlength⟩ := run_queryPrometheus hratio
  rw [hstate, hlength, drop_drop] at h
  refine ⟨queue, latency, errorRatio, ?_⟩
  -- what is left does not depend on where it is asked
  have hrest : ReportedOn rt s queue latency errorRatio art := by
    refine (Steady.of_run ?_ h).2
    refine steady_bind (steady_validated _) fun snapshot hsnapshot => ?_
    refine steady_bind (steady_utcNow _) fun updatedAt _ => ?_
    refine steady_bind (steady_completeStructured (covers_true _).completions
      fun _ _ _ => trivial) fun reasoning _ => ?_
    refine steady_bind (steady_validated _) fun healthSnapshots hhealth => ?_
    refine steady_bind steady_uuid4 fun reportId _ => ?_
    refine steady_bind (steady_utcNow _) fun capturedAt _ => ?_
    refine steady_bind (steady_validated _) fun report hreport => ?_
    refine steady_bind (steady_appendIf steady_newCommand) fun optimize _ => ?_
    refine steady_bind (steady_appendIf steady_newCommand) fun audit _ => ?_
    refine steady_bind steady_newMemory fun memory _ => ?_
    exact steady_pure ⟨snapshot, updatedAt, report, hsnapshot, rfl,
      reports_of_statsReport hreport (healthy_of_healthSnapshots hhealth)⟩
  exact ⟨⟨hqueued, hdelayed, hfailed⟩, hrest⟩

end Monitor

/-! ## the state -/

/-- The statistics `out` that came of `before` agree with the report and with the
statistics derived from the snapshot on all they share, every reported agent has the
health reported, and the others have the health they had. -/
structure GestaltStats.Agrees (before out : GestaltStats) (report : GestaltStatsReport)
    (derived : GestaltStats) : Prop where
  loadLevel : out.loadLevel = report.loadLevel ∧ out.loadLevel = derived.loadLevel
  performanceTier : out.performanceTier = report.performanceTier ∧
    out.performanceTier = derived.performanceTier
  cost : out.costEfficiencyScore = report.costEfficiencyScore.val ∧
    out.costEfficiencyScore = derived.costEfficiencyScore
  risk : out.securityRiskScore = report.securityRiskScore.val ∧
    out.securityRiskScore = derived.securityRiskScore
  cohesion : out.gestaltCohesionScore = report.gestaltCohesionScore.val ∧
    out.gestaltCohesionScore = derived.gestaltCohesionScore
  queueDepth : out.queueDepth = report.queueDepth ∧ out.queueDepth = derived.queueDepth
  activeCycles : out.activeCycles = report.activeCycles ∧ out.activeCycles = derived.activeCycles
  p95LatencyMs : out.p95LatencyMs = report.p95LatencyMs.val ∧
    out.p95LatencyMs = derived.p95LatencyMs
  errorRate : out.errorRate = report.failureRatio.val ∧ out.errorRate = derived.errorRate
  openSecurityFindings : out.openSecurityFindings = derived.openSecurityFindings
  reported : ∀ health ∈ report.agentHealth,
    out.agentHealth.get? health.agentName.val = some health.status
  others : ∀ name, (∀ health ∈ report.agentHealth, health.agentName.val ≠ name) →
    out.agentHealth.get? name = before.agentHealth.get? name

/-- The measurements of the statistics are the ones that are taken now. -/
structure GestaltGraphState.Measured (s : GestaltGraphState) (queue latency errorRatio : Rat) :
    Prop where
  queueDepth : s.stats.queueDepth = truncate queue
  activeCycles : s.stats.activeCycles = max 1 (s.executionReports.length : Int)
  p95LatencyMs : s.stats.p95LatencyMs = latency
  errorRate : s.stats.errorRate = errorRatio
  openSecurityFindings : s.stats.openSecurityFindings = s.openFindings

/-- The health of the agents is set one by one, everything else stays. -/
theorem foldl_setAgentHealth (snapshots : List AgentHealthSnapshot) (stats : GestaltStats) :
    ∃ agentHealth, snapshots.foldl (fun stats snapshot =>
        stats.setAgentHealth snapshot.agentName.val snapshot.status) stats =
          { stats with agentHealth := agentHealth } ∧
      (∀ name, (∀ health ∈ snapshots, health.agentName.val ≠ name) →
        agentHealth.get? name = stats.agentHealth.get? name) ∧
      ((∀ health ∈ snapshots, health.status = .healthy) → ∀ health ∈ snapshots,
        agentHealth.get? health.agentName.val = some .healthy) := by
  induction snapshots using List.reverseRecOn with
  | nil => exact ⟨stats.agentHealth, rfl, fun _ _ => rfl, by simp⟩
  | append_singleton snapshots last ih =>
      obtain ⟨agentHealth, hfold, hothers, hhealthy⟩ := ih
      refine ⟨agentHealth.set last.agentName.val last.status, ?_, ?_, ?_⟩
      · rw [List.foldl_append, hfold]
        rfl
      · intro name hnone
        rw [Table.get?_set_of_ne (hnone last (by simp))]
        exact hothers name fun health hmem => hnone health (by simp [hmem])
      · intro hall health hmem
        rw [Table.get?_set]
        split
        · rw [hall last (by simp)]
        · rename_i hother
          rcases List.mem_append.mp hmem with hmem | hmem
          · exact hhealthy (fun h hh => hall h (by simp [hh])) health hmem
          · obtain rfl := List.mem_singleton.mp hmem
            exact absurd rfl hother

/-- **Merging a report** takes over what it says of tiers, scores and health, and
leaves the measurements alone: all agree exactly when they were these already. -/
theorem agrees_applyStatsReport_iff {rt : Runtime} {s : GestaltGraphState}
    {queue latency errorRatio : Rat} {snapshot : MonitorSnapshot} {updatedAt : Int}
    {report : GestaltStatsReport}
    (hsnapshot : Monitor.Measures s queue latency errorRatio snapshot)
    (hreport : Monitor.Reports (Monitor.derivedStats rt s snapshot updatedAt) snapshot report) :
    s.stats.Agrees (applyStatsReport s.stats report) report
        (Monitor.derivedStats rt s snapshot updatedAt) ↔
      s.Measured queue latency errorRatio := by
  obtain ⟨agentHealth, hfold, hothers, hhealthy⟩ := foldl_setAgentHealth report.agentHealth
    { s.stats with
      loadLevel := report.loadLevel
      performanceTier := report.performanceTier
      costEfficiencyScore := report.costEfficiencyScore.val
      securityRiskScore := report.securityRiskScore.val
      gestaltCohesionScore := report.gestaltCohesionScore.val }
  rw [applyStatsReport, hfold]
  constructor
  · intro h
    exact {
      queueDepth := h.queueDepth.2.trans hsnapshot.queueDepth
      activeCycles := h.activeCycles.2.trans hsnapshot.activeCycles
      p95LatencyMs := h.p95LatencyMs.2.trans hsnapshot.p95LatencyMs
      errorRate := h.errorRate.2.trans hsnapshot.errorRate
      openSecurityFindings := h.openSecurityFindings.trans hsnapshot.openFindings }
  · intro h
    have hqueue : s.stats.queueDepth = snapshot.queueDepth :=
      h.queueDepth.trans hsnapshot.queueDepth.symm
    have hactive : s.stats.activeCycles = snapshot.activeCycles :=
      h.activeCycles.trans hsnapshot.activeCycles.symm
    have hp95 : s.stats.p95LatencyMs = snapshot.p95LatencyMs :=
      h.p95LatencyMs.trans hsnapshot.p95LatencyMs.symm
    have herror : s.stats.errorRate = snapshot.errorRate.val :=
      h.errorRate.trans hsnapshot.errorRate.symm
    exact {
      loadLevel := ⟨rfl, hreport.loadLevel⟩
      performanceTier := ⟨rfl, hreport.performanceTier⟩
      cost := ⟨rfl, hreport.cost⟩
      risk := ⟨rfl, hreport.risk⟩
      cohesion := ⟨rfl, hreport.cohesion⟩
      queueDepth := ⟨hqueue.trans hreport.queueDepth.symm, hqueue⟩
      activeCycles := ⟨hactive.trans hreport.activeCycles.symm, hactive⟩
      p95LatencyMs := ⟨hp95.trans hreport.p95LatencyMs.symm, hp95⟩
      errorRate := ⟨herror.trans (congrArg Ratio.val hreport.failureRatio).symm, herror⟩
      openSecurityFindings := h.openSecurityFindings.trans hsnapshot.openFindings.symm
      reported := fun health hmem => by
        rw [hreport.healthy health hmem]
        exact hhealthy hreport.healthy health hmem
      others := hothers }

/-! ## the step -/

/-- The step of the monitor succeeds: it returns, and reports its completion. -/
structure Monitor.Completes (rt : Runtime) (s : GestaltGraphState) (w : Surroundings Services)
    (out : GestaltGraphState) : Prop where
  returns : ((run rt (agentAt rt .monitor)).run w s).result = .ok out
  completed : ∃ report, out.executionReports.getLast? = some report ∧ report.status = .completed

/-- **What a monitor step leaves.**  From every state, whatever telemetry and the
services answer: a step of the monitor that succeeds takes three readings and
persists a report on the statistics derived from them.  The statistics of the state
it returns agree with the report and with the derived ones exactly when those it
found already held the measurements it took. -/
theorem Monitor.telemetry_agrees_iff (rt : Runtime) (s : GestaltGraphState)
    (w : Surroundings Services) (out : GestaltGraphState) (h : Monitor.Completes rt s w out) :
    ∃ queue latency errorRatio snapshot updatedAt report,
      Monitor.Readings w queue latency errorRatio ∧
      Monitor.snapshot s queue latency errorRatio = .ok snapshot ∧
      .statsReport report ∈
        ((run rt (agentAt rt .monitor)).run w s).trace.flatMap storedRows ∧
      (s.stats.Agrees out.stats report (s.stats.clamped.applyMonitorSnapshot snapshot
          (Monitor.thresholdsFromSettings rt.settings) updatedAt) ↔
        s.Measured queue latency errorRatio) := by
  obtain ⟨hrun, entry, hentry, hcompleted⟩ := h
  have hbody := bodyRun_of_completed hrun hentry hcompleted
  obtain ⟨context, messages, art, w', -, -, hart, hcomplete, before, htrace⟩ :=
    exists_complete_of_bodyRun hbody fun context art hart =>
      (Steady.of_run steady_monitor hart).1
  obtain ⟨queue, latency, errorRatio, hreadings, snapshot, updatedAt, report, hsnapshot, hreport,
    hreports⟩ := Monitor.reports_of_produceArtifacts w hart
  -- the artifacts are stored and merged
  have hlogs : LogsAll storedRows s (complete .monitor (w 0 (.utcNow .started)) messages art)
      art.rows _ := logsAll_complete
  specialize hlogs w'
  rw [hcomplete] at hlogs
  obtain ⟨-, hstored, -, -, -, hmerged⟩ := hlogs
  have hstats : out.stats = applyStatsReport s.stats report := by
    rw [hmerged.stats, hreport]
    rfl
  refine ⟨queue, latency, errorRatio, snapshot, updatedAt, report, hreadings, hsnapshot, ?_, ?_⟩
  · have hrow : .statsReport report ∈ art.rows := by simp [AgentArtifacts.rows, hreport]
    rw [trace_of_bodyRun hbody, htrace, List.flatMap_cons, List.flatMap_append, hstored]
    simp [hrow]
  · rw [hstats]
    exact agrees_applyStatsReport_iff (measures_of_snapshot hsnapshot) hreports

/-- A calm visit to the monitor at the start of a cycle. -/
def Reference.firstWatch : Outcome Services GestaltGraphState Exc GestaltGraphState :=
  (run Reference.runtime (agentAt Reference.runtime .monitor)).run
    (Reference.visit fun _ => false).answers
    (buildGraphState Reference.fresh Reference.watchRequest)

/-- It completes, and the state it returns has no queue. -/
theorem Reference.completes_firstWatch :
    ∃ out, Monitor.Completes Reference.runtime (buildGraphState Reference.fresh
        Reference.watchRequest) (Reference.visit fun _ => false).answers out ∧
      out.stats.queueDepth = 0 := by
  have hrun : (Reference.firstWatch.result.toOption.map fun out =>
      (out.executionReports.getLast?.map AgentExecutionReport.status, out.stats.queueDepth)) =
        some (some .completed, 0) := by
    decide +kernel
  obtain ⟨out, hout, hvalues⟩ := Option.map_eq_some_iff.mp hrun
  obtain ⟨hstatus, hqueue⟩ := Prod.mk.inj hvalues
  obtain ⟨entry, hentry, hcompleted⟩ := Option.map_eq_some_iff.mp hstatus
  have hresult : Reference.firstWatch.result = .ok out := by
    cases hresult : Reference.firstWatch.result with
    | error e => simp [hresult, Except.toOption] at hout
    | ok out' => simpa [hresult, Except.toOption] using hout
  exact ⟨out, ⟨hresult, entry, hentry, hcompleted⟩, hqueue⟩

/-- The calm visit, as an instance. -/
theorem Monitor.telemetry_agrees_iff_calm :
    let s := buildGraphState Reference.fresh Reference.watchRequest
    ∃ (out : GestaltGraphState) (queue latency errorRatio : Rat) (report : GestaltStatsReport)
        (derived : GestaltStats),
      Monitor.Readings (Reference.visit fun _ => false).answers queue latency errorRatio ∧
      .statsReport report ∈ Reference.firstWatch.trace.flatMap storedRows ∧
      (s.stats.Agrees out.stats report derived ↔ s.Measured queue latency errorRatio) := by
  intro s
  obtain ⟨out, hcompletes, -⟩ := Reference.completes_firstWatch
  obtain ⟨queue, latency, errorRatio, snapshot, updatedAt, report, hreadings, -, hrow, hiff⟩ :=
    Monitor.telemetry_agrees_iff Reference.runtime s (Reference.visit fun _ => false).answers out
      hcompletes
  exact ⟨out, queue, latency, errorRatio, report, _, hreadings, hrow, hiff⟩

/-- Three requests wait in the queue and the report says so; the state says that none do. -/
theorem Monitor.telemetry_stale :
    let s := buildGraphState Reference.fresh Reference.watchRequest
    ∃ out report,
      Monitor.Completes Reference.runtime s (Reference.visit fun _ => false).answers out ∧
      .statsReport report ∈ Reference.firstWatch.trace.flatMap storedRows ∧
      report.queueDepth = 3 ∧ out.stats.queueDepth = 0 ∧
      ∀ derived, ¬ s.stats.Agrees out.stats report derived := by
  intro s
  obtain ⟨out, hcompletes, hqueue⟩ := Reference.completes_firstWatch
  have hreported : (Reference.firstWatch.trace.flatMap storedRows).filterMap (fun
      | .statsReport report => some report.queueDepth
      | _ => none) = [3] := by
    decide +kernel
  obtain ⟨row, hrow, hdepth⟩ :=
    List.mem_filterMap.mp (hreported ▸ List.mem_singleton_self 3)
  cases row with
  | statsReport report =>
      have hthree := Option.some.inj hdepth
      refine ⟨out, report, hcompletes, hrow, hthree, hqueue, fun derived hagrees => ?_⟩
      have hsame := hagrees.queueDepth.1
      rw [hqueue, hthree] at hsame
      contradiction
  | _ => contradiction

end Gestalt
