import Gestalt.Agents
import Gestalt.BaseAgent.Spec

/-!
# Gestalt.Agents.Spec

What the artifact builders of the specialists produce.  Each returns traced
artifacts that neither decide nor route anything and leaves the state object
alone; only the security audit returns an audit report, and only the planner
hands a command to the shell.  `Emits` says for each of them which commands
and scores it emits, by what it sampled and what the model replied.
-/

namespace Gestalt

open Effects Program

/-! ## traced records -/

/-- An audit report and the commands in it carry the trace id. -/
structure GestaltAuditReport.Traced (t : Uuid) (r : GestaltAuditReport) : Prop where
  traceId : r.traceId = t
  remediation : ∀ c ∈ r.remediationCommands, c.traceId = t

/-- An execution report, its commands and its memories carry the trace id. -/
structure AgentExecutionReport.Traced (t : Uuid) (r : AgentExecutionReport) : Prop where
  traceId : r.traceId = t
  commands : ∀ c ∈ r.emittedCommands, c.traceId = t
  memories : ∀ m ∈ r.emittedMemories, m.traceId = t

/-- Everything an invocation emits carries the trace id. -/
structure AgentArtifacts.Traced (t : Uuid) (art : AgentArtifacts) : Prop where
  commands : ∀ c ∈ art.commands, c.traceId = t
  memories : ∀ m ∈ art.memories, m.traceId = t
  messages : ∀ m ∈ art.messages, m.traceId = t
  stats : ∀ r ∈ art.statsReport, r.traceId = t
  audit : ∀ r ∈ art.auditReport, r.Traced t
  summary : ∀ r ∈ art.latestSummary, r.traceId = t
  proposals : ∀ p ∈ art.optimizationProposals, p.traceId = t

/-- The tools the security audit uses. -/
def auditTools : List String := ["blackboard_query", "redis_stream_inspect", "prometheus_query"]

/-- The settings allow the security audit its tools. -/
def Runtime.AllowsAudit (rt : Runtime) : Prop :=
  ∀ tool ∈ auditTools, tool ∈ (rt.settings.policy .securityAudit).toolAllowlist

instance (rt : Runtime) : Decidable rt.AllowsAudit :=
  inferInstanceAs (Decidable (∀ tool ∈ auditTools,
    tool ∈ (rt.settings.policy .securityAudit).toolAllowlist))

/-- The artifacts of a specialist: traced, without a decision, a route or a
summary, and with an audit report exactly from the security audit, which needs
its tools. -/
structure SpecialistArtifacts (rt : Runtime) (a : AgentName) (s : GestaltGraphState)
    (art : AgentArtifacts) : Prop where
  traced : art.Traced s.traceId
  messages : art.messages = []
  decisions : art.decisions = []
  metadata : art.metadataUpdates = []
  summary : art.latestSummary = none
  audit : art.auditReport.isSome ↔ a = .securityAudit
  tools : a = .securityAudit → rt.AllowsAudit

/-! ## what the specialists emit -/

/-- A command as built: pending, and addressed as asked. -/
structure CommandOf (traceId : Uuid) (commandType : GestaltCommandType) (targetAgent : MinStr 2)
    (command : GestaltCommand) : Prop where
  traceId_eq : command.traceId = traceId
  type_eq : command.commandType = commandType
  target_eq : command.targetAgent = targetAgent
  pending : command.status = .pending

/-- The items `appendIf` adds. -/
def Appended {α : Type} (condition : Bool) (ok : α → Prop) (items : List α) : Prop :=
  if condition then ∃ item, items = [item] ∧ ok item else items = []

/-- Telemetry answered the query with the value. -/
def Sampled (allows : Event Services → Prop) (query : String) (value : Rat) : Prop :=
  ∃ q : MinStr 1, q.val = query ∧ allows ⟨.call (.prometheusQuery q), .ok value⟩

/-- The snapshot the monitor takes, and the statistics it derives from it. -/
structure Monitor.Observed (allows : Event Services → Prop) (rt : Runtime) (s : GestaltGraphState)
    (snapshot : MonitorSnapshot) (stats : GestaltStats) : Prop where
  sampled : ∃ queue latency errorRatio, Sampled allows "queue_depth" queue ∧
    Sampled allows "latency_p95_ms" latency ∧ Sampled allows "error_ratio" errorRatio ∧
    Monitor.snapshot s queue latency errorRatio = .ok snapshot
  derived : ∃ updatedAt, stats = s.stats.clamped.applyMonitorSnapshot snapshot
    (thresholdsFromSettings rt.settings) updatedAt

/-- Whether the statistics demand a security audit. -/
def Analyzer.requiresSecurity (rt : Runtime) (s : GestaltGraphState) : Bool :=
  decide (s.stats.securityRiskScore ≥ rt.settings.audit.hallucinationScoreThreshold)

/-- How many findings the evidence amounts to. -/
def SecurityAudit.findingCount (rt : Runtime) (s : GestaltGraphState) (errorRatio : Rat) : Nat :=
  (if ((s.metadata.get? "last_error").bind Value.asStr?).getD "" ≠ "" then 1 else 0) +
  (if errorRatio ≥ rt.settings.stats.errorRateThresholds.critical then 1 else 0) +
  (if s.auditReports.isEmpty then 0 else 1)

/-- What each specialist emits for the objective. -/
inductive Emits (allows : Event Services → Prop) (rt : Runtime) (s : GestaltGraphState)
    (objective : MinStr 3) : AgentName → AgentArtifacts → Prop where
  | monitor {snapshot : MonitorSnapshot} {stats : GestaltStats}
      {optimize audit : List GestaltCommand} {report : GestaltStatsReport} {art : AgentArtifacts}
      (observed : Monitor.Observed allows rt s snapshot stats)
      (optimizes : Appended
        (stats.shouldTriggerOptimizer s.stats.clamped rt.settings.stats.optimizerTriggerDelta).1
        (CommandOf s.traceId .optimize AgentName.optimizer.field) optimize)
      (audits : Appended stats.shouldTriggerSecurityIntervention
        (CommandOf s.traceId .audit AgentName.securityAudit.field) audit)
      (commands : art.commands = optimize ++ audit) (statsReport : art.statsReport = some report)
      (risk : report.securityRiskScore.val = stats.securityRiskScore) :
      Emits allows rt s objective .monitor art
  | analyzer {topMatch : String} {latency : Rat} {reply : AnalyzerReasoning}
      {command : GestaltCommand} {art : AgentArtifacts}
      (replied : Replied allows rt .analyzer s.stats .analyzerReasoning
        (Analyzer.mockReasoning topMatch latency (Analyzer.recommendedTarget
          (rt.lower objective.val) (Analyzer.requiresSecurity rt s))
          (Analyzer.requiresSecurity rt s)) reply)
      (commands : art.commands = [command])
      (recommends : CommandOf s.traceId (Analyzer.commandType reply.recommendedTarget.val)
        reply.recommendedTarget.weaken command)
      (statsReport : art.statsReport = none) : Emits allows rt s objective .analyzer art
  | plannerExecutor {mock reply : PlannerReasoning} {art : AgentArtifacts}
      (replied : Replied allows rt .plannerExecutor s.stats .plannerReasoning
        (.ok mock) reply)
      (done : mock.nextStepNeeded = false)
      (followsUp : Appended reply.nextStepNeeded
        (CommandOf s.traceId .analyze AgentName.analyzer.field) art.commands)
      (statsReport : art.statsReport = none) : Emits allows rt s objective .plannerExecutor art
  | optimizer {latency : Rat} {reply : OptimizerReasoning} {proposal : OptimizationProposal}
      {art : AgentArtifacts}
      (replied : Replied allows rt .optimizer s.stats .optimizerReasoning
        (Optimizer.mockReasoning s.stats.deriveModelPolicy.preferredRoute latency) reply)
      (proposals : art.optimizationProposals = [proposal])
      (route : proposal.modelRoutingOverrides = [("default", reply.preferredRoute.val)] ∧
        proposal.configPatch =
          [("models", .dict [("preferred_route", .str reply.preferredRoute.val)])])
      (commands : art.commands = []) (statsReport : art.statsReport = none) :
      Emits allows rt s objective .optimizer art
  | knowledge {art : AgentArtifacts} (commands : art.commands = [])
      (statsReport : art.statsReport = none) : Emits allows rt s objective .knowledge art
  | securityAudit {errorRatio : Rat} {mock reply : SecurityAuditReasoning}
      {report : GestaltAuditReport} {art : AgentArtifacts}
      (sampled : Sampled allows "error_ratio" errorRatio)
      (replied : Replied allows rt .securityAudit s.stats .securityAuditReasoning (.ok mock) reply)
      (assessed : mock.overallRiskScore = SecurityAudit.overallRisk s.stats.securityRiskScore
        (SecurityAudit.findingCount rt s errorRatio))
      (auditReport : art.auditReport = some report)
      (found : report.findings.length = SecurityAudit.findingCount rt s errorRatio)
      (risk : report.overallRiskScore = reply.overallRiskScore)
      (remediates : Appended (!report.findings.isEmpty)
        (CommandOf s.traceId .remediate AgentName.orchestrator.field) art.commands)
      (statsReport : art.statsReport = none) : Emits allows rt s objective .securityAudit art

section Appended

variable {α : Type} {condition : Bool} {ok : α → Prop} {items : List α}

/-- The items added are as built. -/
theorem Appended.ok_of_mem (h : Appended condition ok items) : ∀ item ∈ items, ok item := by
  unfold Appended at h
  split at h
  · obtain ⟨item, rfl, hitem⟩ := h
    simpa using hitem
  · simp [h]

/-- Nothing is added without the condition. -/
theorem Appended.condition_of_mem (h : Appended condition ok items) {item : α}
    (hmem : item ∈ items) : condition = true := by
  cases condition with
  | true => rfl
  | false =>
      have hnil : items = [] := by simpa [Appended] using h
      simp [hnil] at hmem

/-- Under the condition one item is added. -/
theorem Appended.exists_eq (h : Appended condition ok items) (hcondition : condition = true) :
    ∃ item, items = [item] ∧ ok item := by
  rwa [Appended, if_pos hcondition] at h

theorem Appended.length_eq (h : Appended condition ok items) :
    items.length = if condition then 1 else 0 := by
  unfold Appended at h
  split at h
  · next hc =>
      obtain ⟨item, rfl, -⟩ := h
      simp [hc]
  · next hc => simp [h, hc]

end Appended

/-- The findings about a failure, the error ratio and earlier audits, each built where
there is evidence. -/
structure SecurityAudit.Gathered (rt : Runtime) (s : GestaltGraphState) (errorRatio : Rat)
    (failures errors history : List AuditFinding) : Prop where
  failures : Appended
    (decide (((s.metadata.get? "last_error").bind Value.asStr?).getD "" ≠ ""))
    (fun finding => ∃ findingId instructionId, finding = failureFinding findingId instructionId
      (((s.metadata.get? "last_error").bind Value.asStr?).getD "")) failures
  errors : Appended (decide (errorRatio ≥ rt.settings.stats.errorRateThresholds.critical))
    (fun finding => ∃ findingId, finding = errorRatioFinding findingId errorRatio) errors
  history : Appended (!s.auditReports.isEmpty)
    (fun finding => ∃ findingId, finding = historyFinding findingId s.auditReports.length) history

/-- Specialists issue pending commands. -/
theorem Emits.issuesPending {allows : Event Services → Prop} {rt : Runtime} {s : GestaltGraphState}
    {objective : MinStr 3} {node : AgentName} {art : AgentArtifacts}
    (h : Emits allows rt s objective node art) : art.IssuesPending := by
  intro command hmem
  cases h with
  | monitor _ optimizes audits commands _ _ =>
      rw [commands] at hmem
      rcases List.mem_append.mp hmem with hmem | hmem
      · exact (optimizes.ok_of_mem _ hmem).pending
      · exact (audits.ok_of_mem _ hmem).pending
  | analyzer _ commands recommends _ =>
      rw [commands] at hmem
      obtain rfl := List.mem_singleton.mp hmem
      exact recommends.pending
  | plannerExecutor _ _ followsUp _ => exact (followsUp.ok_of_mem _ hmem).pending
  | optimizer _ _ _ commands _ => simp [commands] at hmem
  | knowledge commands _ => simp [commands] at hmem
  | securityAudit _ _ _ _ _ _ remediates _ => exact (remediates.ok_of_mem _ hmem).pending

/-! ## building blocks -/

section Blocks

variable {allows : Event Services → Prop} {mayRaise : Prop} {s : GestaltGraphState}
variable {emits : Event Services → Prop} [Permissive emits]
variable {rt : Runtime} {a : AgentName} {traceId : Uuid}

theorem steady_newCommand {commandType : GestaltCommandType} {issuedBy targetAgent : MinStr 2}
    {rationale : MinStr 8} {payload : Dict Value} :
    Steady allows emits mayRaise s
      (newCommand traceId commandType issuedBy targetAgent rationale payload)
      (CommandOf traceId commandType targetAgent) :=
  steady_bind steady_uuid4 fun _ _ => steady_bind (steady_utcNow _) fun _ _ =>
    steady_pure ⟨rfl, rfl, rfl, rfl⟩

theorem steady_newMemory {memoryKind : MemoryKind} {title : MinStr 3} {content : MinStr 1}
    {tags : List String} {metadata : Dict Value} :
    Steady allows emits mayRaise s
      (newMemory traceId memoryKind title content tags metadata)
      fun memory => memory.traceId = traceId :=
  steady_bind steady_uuid4 fun _ _ => steady_bind (steady_utcNow _) fun _ _ => steady_pure rfl

omit [Permissive emits] in
/-- At most one item, as built. -/
theorem steady_appendIf {α : Type} {condition : Bool} {build : Action α} {ok : α → Prop}
    (hbuild : Steady allows emits mayRaise s build ok) :
    Steady allows emits mayRaise s (appendIf condition build) (Appended condition ok) := by
  unfold appendIf Appended
  split
  · exact steady_bind hbuild fun item hitem => steady_pure ⟨item, rfl, hitem⟩
  · exact steady_pure rfl

theorem steady_queryPrometheus (hcovers : Covers allows mayRaise) {query : MinStr 1}
    (hallowed : "prometheus_query" ∉ (rt.settings.policy a).toolAllowlist → mayRaise) :
    Steady allows emits mayRaise s (queryPrometheus rt a query)
      fun value => Sampled allows query.val value ∧
        "prometheus_query" ∈ (rt.settings.policy a).toolAllowlist := by
  have hsend : Steady allows emits mayRaise s (send (.prometheusQuery query)) _ :=
    steady_send (hcovers.call _) fun _ => Permissive.ordinary trivial
  refine (steady_executeAllowed hallowed hsend).mono ?_
  intro value hvalue
  exact ⟨⟨query, rfl, hvalue.1⟩, hvalue.2⟩

theorem steady_queryBlackboard (hcovers : Covers allows mayRaise) {query : MinStr 1} {limit : Nat}
    {in_range : decide (1 ≤ limit ∧ limit ≤ 100) = true}
    (hallowed : "blackboard_query" ∉ (rt.settings.policy a).toolAllowlist → mayRaise) :
    Steady allows emits mayRaise s (queryBlackboard rt a query limit in_range)
      fun _ => "blackboard_query" ∈ (rt.settings.policy a).toolAllowlist := by
  refine (steady_executeAllowed hallowed
    (steady_send (hcovers.call _) fun _ => ?_)).mono fun _ h => h.2
  exact Permissive.ordinary trivial

theorem steady_inspectRedisStream (hcovers : Covers allows mayRaise) {streamName : MinStr 1}
    {count : Nat}
    (hallowed : "redis_stream_inspect" ∉ (rt.settings.policy a).toolAllowlist → mayRaise) :
    Steady allows emits mayRaise s (inspectRedisStream rt a streamName count)
      fun _ => "redis_stream_inspect" ∈ (rt.settings.policy a).toolAllowlist := by
  refine (steady_executeAllowed hallowed
    (steady_send (hcovers.call _) fun _ => ?_)).mono fun _ h => h.2
  exact Permissive.ordinary trivial

omit [Permissive emits] in
/-- The sandbox hands the shell the command it was given, or refuses. -/
theorem steady_runSandboxCommand {command cwd : String} {timeoutSeconds : Nat}
    (hbash : ∀ cwd answer, emits ⟨.call (.bash command cwd timeoutSeconds), answer⟩) :
    Steady allows emits True s (runSandboxCommand rt a command cwd timeoutSeconds)
      fun _ => True := by
  have htool : Steady allows emits True s (sandboxCommand rt command cwd timeoutSeconds)
      fun _ => True := ?_
  · exact (steady_executeAllowed (fun _ => trivial) htool).mono fun _ h => h.1
  unfold sandboxCommand
  dsimp only
  split
  · exact steady_raise trivial
  · split
    · exact (steady_send (fun _ _ => trivial) (hbash _)).mono fun _ _ => trivial
    · exact steady_raise trivial

end Blocks

/-! ## the specialists -/

/-- The stats report is about the trace it was built for, and reports the risk
score as it is. -/
theorem Monitor.statsReport_ok {traceId reportId : Uuid} {capturedAt : Int}
    {stats : GestaltStats} {snapshot : MonitorSnapshot} {agentHealth : List AgentHealthSnapshot}
    {report : GestaltStatsReport}
    (h : statsReport traceId reportId capturedAt stats snapshot agentHealth = .ok report) :
    report.traceId = traceId ∧ report.securityRiskScore.val = stats.securityRiskScore := by
  -- three scores, the latency and two counters are validated before the report is built
  obtain ⟨_, -, h⟩ := Codec.exists_of_bind_eq_ok h
  obtain ⟨risk, hrisk, h⟩ := Codec.exists_of_bind_eq_ok h
  obtain ⟨_, -, h⟩ := Codec.exists_of_bind_eq_ok h
  obtain ⟨_, -, h⟩ := Codec.exists_of_bind_eq_ok h
  obtain ⟨_, -, h⟩ := Codec.exists_of_bind_eq_ok h
  obtain ⟨_, -, h⟩ := Codec.exists_of_bind_eq_ok h
  rw [← Except.ok.inj h]
  exact ⟨rfl, Score.val_of_check? (eq_some_of_validate hrisk)⟩

section Specialists

variable {allows : Event Services → Prop} {mayRaise : Prop} {s : GestaltGraphState}
variable {emits : Event Services → Prop} [Permissive emits]
variable {rt : Runtime} {context : AgentContextEnvelope}

omit [Permissive emits] in
/-- A validation that may fail. -/
theorem steady_validated {α : Type} (x : Except Exc α) :
    Steady allows emits True s (Program.ofExcept x) fun a => x = .ok a :=
  steady_ofExcept (fun _ h => h) fun _ _ => trivial

theorem steady_monitor :
    Steady allows emits True s (Monitor.produceArtifacts rt context)
      fun art => SpecialistArtifacts rt .monitor s art ∧
        Emits allows rt s context.objective .monitor art := by
  have hcovers := covers_true allows
  refine steady_read_bind ?_
  refine steady_bind (steady_queryPrometheus hcovers fun _ => trivial) fun queue hqueue => ?_
  refine steady_bind (steady_queryPrometheus hcovers fun _ => trivial) fun latency hlatency => ?_
  refine steady_bind (steady_queryPrometheus hcovers fun _ => trivial)
    fun errorRatio herrorRatio => ?_
  refine steady_bind (steady_validated _) fun snapshot hsnapshot => ?_
  refine steady_bind (steady_utcNow _) fun updatedAt _ => ?_
  refine steady_bind (steady_completeStructured hcovers.completions fun _ _ _ => trivial)
    fun reasoning _ => ?_
  refine steady_bind (steady_validated _) fun healthSnapshots _ => ?_
  refine steady_bind steady_uuid4 fun reportId _ => ?_
  refine steady_bind (steady_utcNow _) fun capturedAt _ => ?_
  refine steady_bind (steady_validated _) fun report hreport => ?_
  refine steady_bind (steady_appendIf steady_newCommand) fun optimize hoptimize => ?_
  refine steady_bind (steady_appendIf steady_newCommand) fun audit haudit => ?_
  refine steady_bind steady_newMemory fun memory hmemory => ?_
  obtain ⟨htrace, hrisk⟩ := Monitor.statsReport_ok hreport
  have hcommands : ∀ c ∈ optimize ++ audit, c.traceId = s.traceId := by
    intro c hc
    rcases List.mem_append.mp hc with hc | hc
    · exact (hoptimize.ok_of_mem c hc).traceId_eq
    · exact (haudit.ok_of_mem c hc).traceId_eq
  refine steady_pure ⟨⟨⟨hcommands, ?_, ?_, ?_, ?_, ?_, ?_⟩, rfl, rfl, rfl, rfl, ?_, ?_⟩,
    .monitor ⟨⟨queue, latency, errorRatio, hqueue.1, hlatency.1, herrorRatio.1, hsnapshot⟩,
      updatedAt, rfl⟩ hoptimize haudit rfl rfl hrisk⟩ <;>
    simp [hmemory, htrace]

/-- The tools the analyzer uses. -/
def analyzerTools : List String := ["blackboard_query", "prometheus_query"]

/-- The analyzer recommends specialists. -/
theorem Analyzer.recommendedTarget_mem (objective : String) (requiresSecurity : Bool) :
    recommendedTarget objective requiresSecurity ∈
      ["security_audit", "knowledge", "optimizer", "planner_executor"] := by
  unfold recommendedTarget
  split
  · simp
  · split
    · simp
    · split <;> simp

/-- The mock payload passes its own check. -/
theorem Analyzer.exists_mockReasoning (topMatch : String) (latency : Rat) (objective : String)
    (requiresSecurity : Bool) :
    ∃ reply, mockReasoning topMatch latency (recommendedTarget objective requiresSecurity)
        requiresSecurity = .ok reply ∧
      reply.recommendedTarget.val = recommendedTarget objective requiresSecurity := by
  have hlength : 3 ≤ (recommendedTarget objective requiresSecurity).length := by
    have hmem := recommendedTarget_mem objective requiresSecurity
    simp only [List.mem_cons, List.not_mem_nil, or_false] at hmem
    rcases hmem with h | h | h | h <;> rw [h] <;> decide
  simp [mockReasoning, MinStr.check?_of_le hlength, validate]

/-- The analyzer raises only when a call fails or one of its tools is not allowed. -/
theorem steady_analyzer (hcovers : Covers allows mayRaise)
    (hallowed : ∀ tool ∈ analyzerTools,
      tool ∉ (rt.settings.policy .analyzer).toolAllowlist → mayRaise) :
    Steady allows emits mayRaise s (Analyzer.produceArtifacts rt context)
      fun art => SpecialistArtifacts rt .analyzer s art ∧
        Emits allows rt s context.objective .analyzer art := by
  refine steady_read_bind ?_
  refine steady_bind (steady_queryBlackboard hcovers (hallowed _ (by decide))) fun result _ => ?_
  refine steady_bind (steady_queryPrometheus hcovers (hallowed _ (by decide))) fun latency _ => ?_
  refine steady_bind (steady_completeStructured hcovers.completions fun _ e he => ?_)
    fun reasoning hreasoning => ?_
  · obtain ⟨reply, hreply, -⟩ := Analyzer.exists_mockReasoning _ latency _ _
    rw [hreply] at he
    contradiction
  refine steady_bind steady_newCommand fun command hcommand => ?_
  refine steady_bind steady_newMemory fun memory hmemory => ?_
  refine steady_pure ⟨⟨⟨?_, ?_, ?_, ?_, ?_, ?_, ?_⟩, rfl, rfl, rfl, rfl, ?_, ?_⟩,
    .analyzer hreasoning rfl hcommand rfl⟩ <;>
    simp [hcommand.traceId_eq, hmemory]

/-- The planner hands the shell nothing but its command text. -/
theorem steady_plannerExecutor
    (hbash : ∀ cwd answer, emits ⟨.call (.bash (PlannerExecutor.commandText context.objective.val
      context.inboundCommands.head?) cwd 15), answer⟩) :
    Steady allows emits True s (PlannerExecutor.produceArtifacts rt context)
      fun art => SpecialistArtifacts rt .plannerExecutor s art ∧
        Emits allows rt s context.objective .plannerExecutor art := by
  have hcovers := covers_true allows
  refine steady_read_bind ?_
  refine steady_bind (steady_runSandboxCommand hbash) fun result _ => ?_
  refine steady_bind (steady_completeStructured hcovers.completions fun _ _ _ => trivial)
    fun reasoning hreasoning => ?_
  refine steady_bind steady_newMemory fun memory hmemory => ?_
  refine steady_bind (steady_appendIf steady_newCommand) fun commands hcommands => ?_
  refine steady_pure ⟨⟨⟨fun c hc => (hcommands.ok_of_mem c hc).traceId_eq, ?_, ?_, ?_, ?_, ?_, ?_⟩,
    rfl, rfl, rfl, rfl, ?_, ?_⟩, .plannerExecutor hreasoning rfl hcommands rfl⟩ <;>
    simp [hmemory]

theorem steady_optimizer :
    Steady allows emits True s (Optimizer.produceArtifacts rt context)
      fun art => SpecialistArtifacts rt .optimizer s art ∧
        Emits allows rt s context.objective .optimizer art := by
  have hcovers := covers_true allows
  refine steady_read_bind ?_
  refine steady_bind (steady_queryBlackboard hcovers fun _ => trivial) fun history _ => ?_
  refine steady_bind (steady_queryPrometheus hcovers fun _ => trivial) fun latency _ => ?_
  refine steady_bind (steady_completeStructured hcovers.completions fun _ _ _ => trivial)
    fun reasoning hreasoning => ?_
  refine steady_bind steady_uuid4 fun proposalId _ => ?_
  refine steady_bind (steady_utcNow _) fun proposedAt _ => ?_
  refine steady_bind steady_newMemory fun memory hmemory => ?_
  refine steady_pure ⟨⟨⟨?_, ?_, ?_, ?_, ?_, ?_, ?_⟩, rfl, rfl, rfl, rfl, ?_, ?_⟩,
    .optimizer hreasoning rfl ⟨rfl, rfl⟩ rfl rfl⟩ <;>
    simp [hmemory]

theorem steady_linkLineage {matching : List BlackboardMemoryRecord} {target : Uuid} :
    Steady allows emits True s (Knowledge.linkLineage rt matching target)
      fun _ => True := by
  cases matching with
  | nil => exact steady_pure trivial
  | cons record matching =>
      refine steady_bind steady_uuid4 fun relationId _ => ?_
      refine (steady_send (fun _ _ => trivial) fun _ => ?_).mono fun _ _ => trivial
      exact Permissive.ordinary trivial

theorem steady_knowledge :
    Steady allows emits True s (Knowledge.produceArtifacts rt context)
      fun art => SpecialistArtifacts rt .knowledge s art ∧
        Emits allows rt s context.objective .knowledge art := by
  have hcovers := covers_true allows
  refine steady_read_bind ?_
  refine steady_bind (steady_queryBlackboard hcovers fun _ => trivial) fun result _ => ?_
  refine steady_bind (steady_completeStructured hcovers.completions fun _ _ _ => trivial)
    fun reasoning _ => ?_
  refine steady_bind steady_newMemory fun memory hmemory => ?_
  refine steady_bind steady_linkLineage fun _ _ => ?_
  refine steady_pure ⟨⟨⟨?_, ?_, ?_, ?_, ?_, ?_, ?_⟩, rfl, rfl, rfl, rfl, ?_, ?_⟩,
    .knowledge rfl rfl⟩ <;>
    simp [hmemory]

/-- The findings of an audit are gathered in three steps. -/
theorem steady_gathered {errorRatio : Rat} :
    Steady allows emits mayRaise s (SecurityAudit.auditFindings rt s errorRatio)
      fun findings => ∃ failures errors history, findings = failures ++ errors ++ history ∧
        SecurityAudit.Gathered rt s errorRatio failures errors history := by
  have hfailure : Steady allows emits mayRaise s (uuid4 >>= fun instructionId => uuid4 >>=
      fun findingId => pure (SecurityAudit.failureFinding findingId instructionId
        (((s.metadata.get? "last_error").bind Value.asStr?).getD "")))
      fun finding => ∃ findingId instructionId, finding = SecurityAudit.failureFinding findingId
        instructionId (((s.metadata.get? "last_error").bind Value.asStr?).getD "") :=
    steady_bind steady_uuid4 fun instructionId _ => steady_bind steady_uuid4 fun findingId _ =>
      steady_pure ⟨findingId, instructionId, rfl⟩
  have hratio : Steady allows emits mayRaise s (uuid4 >>= fun findingId =>
      pure (SecurityAudit.errorRatioFinding findingId errorRatio))
      fun finding => ∃ findingId,
        finding = SecurityAudit.errorRatioFinding findingId errorRatio :=
    steady_bind steady_uuid4 fun findingId _ => steady_pure ⟨findingId, rfl⟩
  have hprior : Steady allows emits mayRaise s (uuid4 >>= fun findingId =>
      pure (SecurityAudit.historyFinding findingId s.auditReports.length))
      fun finding => ∃ findingId,
        finding = SecurityAudit.historyFinding findingId s.auditReports.length :=
    steady_bind steady_uuid4 fun findingId _ => steady_pure ⟨findingId, rfl⟩
  refine steady_bind (steady_appendIf hfailure) fun failures hfailures => ?_
  refine steady_bind (steady_appendIf hratio) fun errors herrors => ?_
  refine steady_bind (steady_appendIf hprior) fun history hhistory => ?_
  exact steady_pure ⟨failures, errors, history, rfl, hfailures, herrors, hhistory⟩

/-- The evidence decides how many findings there are. -/
theorem steady_auditFindings {errorRatio : Rat} :
    Steady allows emits mayRaise s (SecurityAudit.auditFindings rt s errorRatio)
      fun findings => findings.length = SecurityAudit.findingCount rt s errorRatio := by
  refine steady_gathered.mono fun findings h => ?_
  obtain ⟨failures, errors, history, rfl, hgathered⟩ := h
  rw [List.length_append, List.length_append, hgathered.failures.length_eq,
    hgathered.errors.length_eq, hgathered.history.length_eq, SecurityAudit.findingCount]
  simp

/-- The audit raises only when a call fails or one of its tools is not allowed. -/
theorem steady_securityAudit (hcovers : Covers allows mayRaise)
    (hallowed : rt.AllowsAudit ∨ mayRaise) :
    Steady allows emits mayRaise s (SecurityAudit.produceArtifacts rt context)
      fun art => SpecialistArtifacts rt .securityAudit s art ∧
        Emits allows rt s context.objective .securityAudit art := by
  have hmissing : ∀ tool ∈ auditTools,
      tool ∉ (rt.settings.policy .securityAudit).toolAllowlist → mayRaise :=
    fun tool htool hnot => hallowed.resolve_left fun h => hnot (h tool htool)
  refine steady_read_bind ?_
  refine steady_bind (steady_queryBlackboard hcovers (hmissing _ (by decide)))
    fun result hblackboard => ?_
  refine steady_bind (steady_inspectRedisStream hcovers (hmissing _ (by decide)))
    fun entries hredis => ?_
  refine steady_bind (steady_queryPrometheus hcovers (hmissing _ (by decide)))
    fun errorRatio hprometheus => ?_
  have htools : rt.AllowsAudit := by
    simp [Runtime.AllowsAudit, auditTools, hblackboard, hredis, hprometheus.2]
  refine steady_bind steady_auditFindings fun findings hfindings => ?_
  refine steady_bind (steady_completeStructured hcovers.completions (by simp))
    fun reasoning hreasoning => ?_
  refine steady_bind (steady_appendIf steady_newCommand) fun commands hcommands => ?_
  refine steady_bind steady_uuid4 fun reportId _ => ?_
  refine steady_bind (steady_utcNow _) fun reportedAt _ => ?_
  refine steady_bind steady_newMemory fun memory hmemory => ?_
  have htraced : ∀ c ∈ commands, c.traceId = s.traceId :=
    fun c hc => (hcommands.ok_of_mem c hc).traceId_eq
  refine steady_pure ⟨⟨⟨htraced, ?_, ?_, ?_, ?_, ?_, ?_⟩, rfl, rfl, rfl, rfl, ?_, fun _ => htools⟩,
    .securityAudit hprometheus.1 hreasoning (by rw [hfindings]) rfl hfindings rfl hcommands rfl⟩
  · simp [hmemory]
  · simp
  · simp
  · intro _ hreport
    cases hreport
    exact ⟨rfl, htraced⟩
  · simp
  · simp
  · simp

end Specialists

end Gestalt
