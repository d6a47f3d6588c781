import Gestalt.BaseAgent

/-!
# Gestalt.Agents

The artifact builders of the six specialists (`gestalt/agents/`).
-/

namespace Gestalt

open Effects

/-- A command with a fresh id, the default confidence and status, and a fresh
`created_at`. -/
def newCommand (traceId : Uuid) (commandType : GestaltCommandType)
    (issuedBy targetAgent : MinStr 2) (rationale : MinStr 8) (payload : Dict Value) :
    Action GestaltCommand := do
  let commandId ← uuid4
  let createdAt ← utcNow .stamp
  return { commandId, traceId, commandType, issuedBy, targetAgent, rationale, payload, createdAt }

/-- A memory record with a fresh id and a fresh `created_at`. -/
def newMemory (traceId : Uuid) (memoryKind : MemoryKind) (title : MinStr 3) (content : MinStr 1)
    (tags : List String) (metadata : Dict Value) : Action BlackboardMemoryRecord := do
  let recordId ← uuid4
  let createdAt ← utcNow .stamp
  return { recordId, traceId, memoryKind, title, content, tags, metadata, createdAt }

/-- `if condition: items.append(build())`, as the items it adds. -/
def appendIf {α : Type} (condition : Bool) (build : Action α) : Action (List α) :=
  if condition then do
    let item ← build
    return [item]
  else return []

/-! ## monitor -/

namespace Monitor

/-- `_thresholds_from_settings`. -/
def thresholdsFromSettings (settings : GestaltSettings) : StatsThresholds where
  mediumLatencyMs := settings.stats.latencyThresholdsMs.medium
  highLatencyMs := settings.stats.latencyThresholdsMs.high
  criticalLatencyMs := settings.stats.latencyThresholdsMs.critical
  degradedErrorRate := settings.stats.errorRateThresholds.degraded
  criticalErrorRate := settings.stats.errorRateThresholds.critical
  queueLow := settings.stats.queueDepthThresholds.low
  queueMedium := settings.stats.queueDepthThresholds.medium
  queueHigh := settings.stats.queueDepthThresholds.high
  queueCritical := settings.stats.queueDepthThresholds.critical
  optimizerTriggerDelta := settings.stats.optimizerTriggerDelta

/-- The snapshot of the sampled metrics. -/
def snapshot (state : GestaltGraphState) (queue latency errorRatio : Rat) :
    Except Exc MonitorSnapshot := do
  let errorRate ← validate "MonitorSnapshot" "error_rate"
    "ratio fields must be between 0 and 1 inclusive" (Ratio.check? errorRatio)
  return {
    queueDepth := truncate queue
    activeCycles := max 1 (state.executionReports.length : Int)
    avgLatencyMs := latency * (7 / 10)
    p95LatencyMs := latency
    errorRate
    failureCount := (state.executionReports.countP fun report => report.status = .failed : Nat)
    successCount := (state.executionReports.countP fun report => report.status = .completed : Nat)
    costPerCycle := max (1 / 10) (latency / 1000)
    blackboardConsistency := ⟨1, by decide, by decide⟩
    collaborationSuccessRate := ⟨95 / 100, by decide +kernel, by decide +kernel⟩
    securityOpenFindings :=
      ((state.auditReports.map fun report => report.findings.length).sum : Nat) }

/-- The mock reasoning. -/
def mockReasoning (snapshot : MonitorSnapshot) (stats : GestaltStats) : MonitorReasoning where
  summary := (.text "Monitor observed queue depth " : MinStr 12).append
    (toString snapshot.queueDepth ++ ", p95 latency " ++ fixed 1 snapshot.p95LatencyMs ++
      "ms, and error rate " ++ percent snapshot.errorRate.val ++ ".")
  anomalyDetected :=
    decide (stats.performanceTier = .high ∨ stats.performanceTier = .critical)

/-- A healthy snapshot of every configured agent. -/
def healthSnapshots (settings : GestaltSettings) : Except Exc (List AgentHealthSnapshot) :=
  settings.agents.mapM fun kv => do
    let agentName ← validate "AgentHealthSnapshot" "agent_name"
      "String should have at least 2 characters" (MinStr.check? 2 kv.1)
    return { agentName, status := .healthy }

/-- The stats report, with the ranges of its fields validated. -/
def statsReport (traceId reportId : Uuid) (capturedAt : Int) (stats : GestaltStats)
    (snapshot : MonitorSnapshot) (agentHealth : List AgentHealthSnapshot) :
    Except Exc GestaltStatsReport := do
  let score (field : String) (value : Int) : Except Exc Score :=
    validate "GestaltStatsReport" field "Input should be between 0 and 100" (Score.check? value)
  let costEfficiencyScore ← score "cost_efficiency_score" stats.costEfficiencyScore
  let securityRiskScore ← score "security_risk_score" stats.securityRiskScore
  let gestaltCohesionScore ← score "gestalt_cohesion_score" stats.gestaltCohesionScore
  let p95LatencyMs ← validate "GestaltStatsReport" "p95_latency_ms"
    "Input should be greater than or equal to 0" (NonNegFloat.check? snapshot.p95LatencyMs)
  let nonNegative (field : String) (value : Int) : Except Exc Nat :=
    validate "GestaltStatsReport" field "Input should be greater than or equal to 0" value.toNat?
  let queueDepth ← nonNegative "queue_depth" snapshot.queueDepth
  let activeCycles ← nonNegative "active_cycles" snapshot.activeCycles
  return {
    reportId, traceId
    collectedBy := AgentName.monitor.name
    loadLevel := stats.loadLevel
    performanceTier := stats.performanceTier
    costEfficiencyScore, securityRiskScore, gestaltCohesionScore
    queueDepth, activeCycles
    failureRatio := snapshot.errorRate
    p95LatencyMs, agentHealth, capturedAt }

/-- `produce_artifacts` of the monitor. -/
def produceArtifacts (rt : Runtime) (context : AgentContextEnvelope) : Action AgentArtifacts := do
  let state ← Program.read
  let queue ← queryPrometheus rt .monitor (.text "queue_depth")
  let latency ← queryPrometheus rt .monitor (.text "latency_p95_ms")
  let errorRatio ← queryPrometheus rt .monitor (.text "error_ratio")
  let snapshot ← Program.ofExcept (snapshot state queue latency errorRatio)
  let previousStats := state.stats.clamped
  let updatedAt ← utcNow .stamp
  let updatedStats := state.stats.clamped.applyMonitorSnapshot snapshot
    (thresholdsFromSettings rt.settings) updatedAt
  let reasoning ← completeStructured rt .monitor
    s!"Monitor objective: {context.objective.val}" .monitorReasoning updatedStats
    (.ok (mockReasoning snapshot updatedStats))
  let healthSnapshots ← Program.ofExcept (healthSnapshots rt.settings)
  let reportId ← uuid4
  let capturedAt ← utcNow .stamp
  let report ← Program.ofExcept
    (statsReport state.traceId reportId capturedAt updatedStats snapshot healthSnapshots)
  let trigger := updatedStats.shouldTriggerOptimizer previousStats
    rt.settings.stats.optimizerTriggerDelta
  let optimizeCommands ← appendIf trigger.1
    (newCommand state.traceId .optimize AgentName.monitor.field AgentName.optimizer.field
      (.text "Material telemetry drift requires adaptive optimization.")
      [("stats", rt.statsReportJson report)])
  let auditCommands ← appendIf trigger.2.shouldTriggerSecurityIntervention
    (newCommand state.traceId .audit AgentName.monitor.field AgentName.securityAudit.field
      (.text "Security risk or open findings exceeded the intervention threshold.")
      [("reason", .str "monitor_threshold_crossed")])
  let memory ← newMemory state.traceId .stats (.text "Monitor telemetry snapshot")
    reasoning.summary.weaken
    ["monitor", "stats", updatedStats.performanceTier.value]
    [("queue_depth", .int snapshot.queueDepth), ("p95_latency_ms", .float snapshot.p95LatencyMs),
     ("error_rate", .float snapshot.errorRate.val)]
  return {
    summary := reasoning.summary.weaken
    commands := optimizeCommands ++ auditCommands
    memories := [memory]
    statsReport := some report
    metrics := [("queue_depth", (snapshot.queueDepth : Rat)),
      ("p95_latency_ms", snapshot.p95LatencyMs), ("error_rate", snapshot.errorRate.val)] }

end Monitor

/-! ## analyzer -/

namespace Analyzer

/-- The target the analyzer recommends. -/
def recommendedTarget (objective : String) (requiresSecurity : Bool) : String :=
  if requiresSecurity then "security_audit"
  else if occursIn "knowledge" objective then "knowledge"
  else if occursIn "optimiz" objective then "optimizer"
  else "planner_executor"

/-- The mock reasoning. -/
def mockReasoning (topMatch : String) (latency : Rat) (target : String)
    (requiresSecurity : Bool) : Except Exc AnalyzerReasoning := do
  let recommendedTarget ← validate "AnalyzerReasoning" "recommended_target"
    "String should have at least 3 characters" (MinStr.check? 3 target)
  return {
    diagnosis :=
      (.text "Analyzer correlated the objective with blackboard memory '" :
        MinStr 16).append (String.ofList (topMatch.toList.take 120) ++
          "' and observed latency around " ++ fixed 1 latency ++ "ms.")
    recommendedTarget
    requiresSecurityAudit := requiresSecurity }

/-- The category of the recommended command. -/
def commandType (target : String) : GestaltCommandType :=
  if target = "security_audit" then .audit
  else if target = "optimizer" then .optimize
  else .execute

/-- `produce_artifacts` of the analyzer. -/
def produceArtifacts (rt : Runtime) (context : AgentContextEnvelope) : Action AgentArtifacts := do
  let state ← Program.read
  let result ← queryBlackboard rt .analyzer context.objective.weaken 5
  let latency ← queryPrometheus rt .analyzer (.text "latency_p95_ms")
  let topMatch := match result.matching with
    | record :: _ => record.content.val
    | [] => "No prior memory matched."
  let requiresSecurity :=
    decide (state.stats.securityRiskScore ≥ rt.settings.audit.hallucinationScoreThreshold)
  let target := recommendedTarget (rt.lower context.objective.val) requiresSecurity
  let reasoning ← completeStructured rt .analyzer
    s!"Analyze objective: {context.objective.val}" .analyzerReasoning state.stats
    (mockReasoning topMatch latency target requiresSecurity)
  let command ← newCommand state.traceId (commandType reasoning.recommendedTarget.val)
    AgentName.analyzer.field reasoning.recommendedTarget.weaken
    (.text "Analyzer generated the next best operational step from correlated evidence.")
    [("diagnosis", .str reasoning.diagnosis.val), ("latency_p95_ms", .float latency)]
  let memory ← newMemory state.traceId .fact (.text "Analyzer diagnosis")
    reasoning.diagnosis.weaken ["analysis", reasoning.recommendedTarget.val]
    [("matched_records", .int result.matching.length)]
  return {
    summary := reasoning.diagnosis.weaken
    commands := [command]
    memories := [memory]
    metrics := [("latency_p95_ms", latency)] }

end Analyzer

/-! ## planner and executor -/

namespace PlannerExecutor

/-- The command an inbound payload asks for, unless it is blank. -/
def candidateCommand (inbound : Option GestaltCommand) : Option String :=
  match inbound with
  | none => none
  | some command =>
      match (command.payload.get? "command").bind Value.asStr? with
      | none => none
      | some candidate => if blank candidate then none else some candidate

/-- The text passed to the sandbox. -/
def commandText (objective : String) (inbound : Option GestaltCommand) : String :=
  (candidateCommand inbound).getD
    ("echo 'gestalt planner executed objective: " ++ objective ++ "'")

/-- `produce_artifacts` of the planner. -/
def produceArtifacts (rt : Runtime) (context : AgentContextEnvelope) : Action AgentArtifacts := do
  let state ← Program.read
  let command := commandText context.objective.val context.inboundCommands.head?
  let result ← runSandboxCommand rt .plannerExecutor command "." 15
  let reasoning ← completeStructured rt .plannerExecutor
    s!"Execute objective: {context.objective.val}" .plannerReasoning state.stats
    (.ok {
      executionSummary :=
        (.text "Planner executed a bounded sandbox command with return code " :
          MinStr 16).append (toString result.returnCode ++ " and captured " ++
            toString result.stdout.length ++ " bytes of stdout.")
      nextStepNeeded := false })
  let memory ← newMemory state.traceId .execution (.text "Planner execution result")
    reasoning.executionSummary.weaken
    ["execution", "planner", toString result.returnCode]
    [("return_code", .int result.returnCode), ("stdout", .str (strip result.stdout)),
     ("stderr", .str (strip result.stderr))]
  let commands ← appendIf reasoning.nextStepNeeded
    (newCommand state.traceId .analyze AgentName.plannerExecutor.field AgentName.analyzer.field
      (.text "Execution indicated an additional analysis pass is required.")
      [("stdout", .str result.stdout)])
  return {
    summary := reasoning.executionSummary.weaken
    commands
    memories := [memory]
    metrics := [("return_code", (result.returnCode : Rat))] }

end PlannerExecutor

/-! ## optimizer -/

namespace Optimizer

/-- The mock reasoning. -/
def mockReasoning (preferredRoute : String) (latency : Rat) : Except Exc OptimizerReasoning := do
  let route ← validate "OptimizerReasoning" "preferred_route"
    "String should have at least 3 characters" (MinStr.check? 3 preferredRoute)
  return {
    summary := (.text "Optimizer recommends using the " : MinStr 16).append
      (preferredRoute ++ " route while tightening prompt overlays because latency is " ++
        fixed 1 latency ++ "ms.")
    preferredRoute := route }

/-- `produce_artifacts` of the optimizer. -/
def produceArtifacts (rt : Runtime) (context : AgentContextEnvelope) : Action AgentArtifacts := do
  let state ← Program.read
  let history ← queryBlackboard rt .optimizer (.text "optimization proposal") 3
  let latency ← queryPrometheus rt .optimizer (.text "latency_p95_ms")
  let reasoning ← completeStructured rt .optimizer
    s!"Optimize objective: {context.objective.val}" .optimizerReasoning state.stats
    (mockReasoning state.stats.deriveModelPolicy.preferredRoute latency)
  let proposalId ← uuid4
  let proposedAt ← utcNow .stamp
  let proposal : OptimizationProposal := {
    proposalId
    traceId := state.traceId
    title := .text "Adaptive routing optimization"
    summary := reasoning.summary.weaken
    expectedBenefit := .text "Reduce latency variance while preserving cohesion."
    configPatch :=
      [("models", .dict [("preferred_route", .str reasoning.preferredRoute.val)])]
    promptOverrides :=
      [("optimizer", "Prefer concise, high-signal optimization reports.")]
    modelRoutingOverrides := [("default", reasoning.preferredRoute.val)]
    confidence := .high
    createdAt := proposedAt }
  let memory ← newMemory state.traceId .optimization (.text "Optimizer recommendation")
    reasoning.summary.weaken ["optimizer", reasoning.preferredRoute.val]
    [("historical_matches", .int history.matching.length)]
  return {
    summary := reasoning.summary.weaken
    memories := [memory]
    optimizationProposals := [proposal]
    metrics := [("latency_p95_ms", latency)] }

end Optimizer

/-! ## knowledge -/

namespace Knowledge

/-- The lineage of a curated memory. -/
def curatedInto (relationId : Uuid) (idText : Uuid → MinStr 1) (source target : Uuid) :
    BlackboardRelation where
  relationId
  sourceType := .text "memory"
  sourceId := idText source
  relationType := .text "CURATED_INTO"
  targetType := .text "memory"
  targetId := idText target

/-- Link the best match, if there is one, to the curated memory. -/
def linkLineage (rt : Runtime) (matching : List BlackboardMemoryRecord) (target : Uuid) :
    Action Unit :=
  match matching with
  | [] => return ()
  | record :: _ => do
      let relationId ← uuid4
      send (.linkEntities [curatedInto relationId rt.idText record.recordId target])

/-- `produce_artifacts` of the knowledge agent. -/
def produceArtifacts (rt : Runtime) (context : AgentContextEnvelope) : Action AgentArtifacts := do
  let state ← Program.read
  let result ← queryBlackboard rt .knowledge context.objective.weaken 5
  let titles := result.matching.map fun record => record.title.val
  let reasoning ← completeStructured rt .knowledge
    s!"Curate knowledge for objective: {context.objective.val}" .knowledgeReasoning state.stats
    (.ok {
      summary := (.text ("Knowledge agent summarized the most relevant memories into a reusable " ++
          "artifact spanning: ") : MinStr 16).append
        ((if titles.isEmpty then "current cycle evidence only" else ", ".intercalate titles) ++
          ".") })
  let memory ← newMemory state.traceId .knowledge
    (.text "Curated Gestalt knowledge artifact") reasoning.summary.weaken
    ["knowledge", "curation"] [("source_titles", .list (titles.map .str))]
  linkLineage rt result.matching memory.recordId
  return { summary := reasoning.summary.weaken, memories := [memory] }

end Knowledge

/-! ## security audit -/

namespace SecurityAudit

/-- The finding about a recent failure. -/
def failureFinding (findingId instructionId : Uuid) (lastError : String) : AuditFinding where
  findingId
  category := .tooling
  severity := .high
  summary := .text "A recent agent invocation failed."
  detail := (.text ("The graph state captured a last_error marker and the failure should be " ++
    "analyzed: ") : MinStr 16).append lastError
  evidence := [{
    source := .text "graph_state"
    description := .text "state.metadata.last_error"
    metadata := [("last_error", .str lastError)] }]
  remediation := [{
    instructionId
    commandType := .analyze
    title := .text "Analyze latest runtime failure"
    rationale := .text "A failed agent invocation can hide unsafe or inconsistent state."
    priority := .high
    payload := [("last_error", .str lastError)] }]

/-- The finding about the error ratio. -/
def errorRatioFinding (findingId : Uuid) (errorRatio : Rat) : AuditFinding where
  findingId
  category := .observability
  severity := .medium
  summary := .text "Error ratio crossed the critical threshold."
  detail := .text ("Observed error-rate telemetry indicates system instability that warrants " ++
    "remediation.")
  evidence := [{
    source := .text "prometheus_query"
    description := .text "critical error ratio signal"
    metadata := [("error_ratio", .float errorRatio)] }]

/-- The finding about earlier audits. -/
def historyFinding (findingId : Uuid) (priorReports : Nat) : AuditFinding where
  findingId
  category := .checkpoint
  severity := .info
  summary := .text "Prior audit history exists for comparative analysis."
  detail := .text "A previous audit report was found and can be used to track remediation progress."
  evidence := [{
    source := .text "blackboard"
    description := .text "Existing audit reports found in current state."
    metadata := [("prior_reports", .int priorReports)] }]

/-- The findings of one audit. -/
def auditFindings (rt : Runtime) (state : GestaltGraphState) (errorRatio : Rat) :
    Action (List AuditFinding) := do
  let lastError := ((state.metadata.get? "last_error").bind Value.asStr?).getD ""
  let failures ← appendIf (lastError ≠ "") do
    let instructionId ← uuid4
    let findingId ← uuid4
    return failureFinding findingId instructionId lastError
  let errors ← appendIf (errorRatio ≥ rt.settings.stats.errorRateThresholds.critical) do
    let findingId ← uuid4
    return errorRatioFinding findingId errorRatio
  let history ← appendIf (!state.auditReports.isEmpty) do
    let findingId ← uuid4
    return historyFinding findingId state.auditReports.length
  return failures ++ errors ++ history

/-- `min(100, max(security_risk_score, 20 * len(findings)))`. -/
def overallRisk (securityRiskScore : Int) (findings : Nat) : Score :=
  ⟨min 100 (max securityRiskScore (findings * 20 : Nat)), by omega, by omega⟩

/-- `produce_artifacts` of the security audit. -/
def produceArtifacts (rt : Runtime) (context : AgentContextEnvelope) : Action AgentArtifacts := do
  let state ← Program.read
  let result ← queryBlackboard rt .securityAudit (.text "audit security risk") 5
  let entries ← inspectRedisStream rt .securityAudit rt.settings.events.streamName 10
  let errorRatio ← queryPrometheus rt .securityAudit (.text "error_ratio")
  let findings ← auditFindings rt state errorRatio
  let reasoning ← completeStructured rt .securityAudit
    s!"Audit objective: {context.objective.val}" .securityAuditReasoning state.stats
    (.ok {
      summary := (.text ("Security audit inspected graph state, blackboard context, and " ++
          "event-bus hygiene; it found ") : MinStr 24).append
        (toString findings.length ++ " finding(s) while Redis inspection returned " ++
          toString entries.length ++ " entries.")
      overallRiskScore := overallRisk state.stats.securityRiskScore findings.length })
  let remediationCommands ← appendIf (!findings.isEmpty)
    (newCommand state.traceId .remediate AgentName.securityAudit.field
      AgentName.orchestrator.field
      (.text "Security audit produced remediation guidance that the orchestrator must evaluate.")
      [("finding_count", .int findings.length),
       ("risk_score", .int reasoning.overallRiskScore.val)])
  let reportId ← uuid4
  let reportedAt ← utcNow .stamp
  let report : GestaltAuditReport := {
    reportId
    traceId := state.traceId
    auditedBy := AgentName.securityAudit.name
    scope := ["graph_state", "blackboard", "event_bus", "telemetry"]
    findings
    remediationCommands
    overallRiskScore := reasoning.overallRiskScore
    createdAt := reportedAt }
  let memory ← newMemory state.traceId .audit (.text "Security audit report summary")
    reasoning.summary.weaken
    ["security", "audit", toString reasoning.overallRiskScore.val]
    [("finding_count", .int findings.length), ("related_memories", .int result.matching.length)]
  return {
    summary := reasoning.summary.weaken
    commands := remediationCommands
    memories := [memory]
    auditReport := some report
    metrics := [("overall_risk_score", (reasoning.overallRiskScore.val : Rat))] }

end SecurityAudit

end Gestalt
