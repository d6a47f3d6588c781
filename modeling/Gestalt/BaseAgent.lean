import Gestalt.Services

/-!
# Gestalt.BaseAgent

The lifecycle every agent shares (`gestalt/base_agent.py`).  An agent is its
name and its artifact builder; `run` prepares the context, checks alignment,
builds the messages, calls the builder, persists and merges what it produced,
and turns any exception on the way into a failure report.
-/

namespace Gestalt

open Effects

/-- Normalized outputs emitted by an agent invocation. -/
structure AgentArtifacts where
  summary : MinStr 8
  commands : List GestaltCommand := []
  memories : List BlackboardMemoryRecord := []
  messages : List GestaltMessage := []
  statsReport : Option GestaltStatsReport := none
  auditReport : Option GestaltAuditReport := none
  latestSummary : Option GestaltSummary := none
  optimizationProposals : List OptimizationProposal := []
  decisions : List AgentDecision := []
  metadataUpdates : Dict Value := []
  metrics : Dict Rat := []

/-- An agent: its canonical name and its `produce_artifacts`. -/
structure Agent where
  name : AgentName
  produceArtifacts : AgentContextEnvelope → Action AgentArtifacts

/-! ## before the model -/

/-- The commands of the state that wait for the agent. -/
def inboundCommands (a : AgentName) (commands : List GestaltCommand) : List GestaltCommand :=
  commands.filter fun command => command.targetAgent.val = a.name ∧ command.status ≠ .completed

/-- `prepare_context`.  An objective is never empty, so the blackboard is
always queried. -/
def prepareContext (rt : Runtime) (a : AgentName) : Action AgentContextEnvelope := do
  let state ← Program.read
  let bb := rt.settings.blackboard
  let result ← send (.queryMemory
    { query := state.objective.weaken, limit := bb.semanticTopK,
      limit_pos := bb.top_k_pos, limit_le := bb.top_k_le })
  return {
    traceId := state.traceId
    cycleId := state.cycleId
    objective := state.objective
    source := state.source
    latestStats := state.stats
    blackboardContext := result.matching
    inboundCommands := inboundCommands a state.commands
    approvals := state.approvals
    metadata := state.metadata }

/-- `run_alignment_checks`. -/
def runAlignmentChecks (rt : Runtime) (a : AgentName) (context : AgentContextEnvelope) :
    Action Unit := do
  let state ← Program.read
  if blank context.objective.val then
    Program.raise (.valueError "Agent objective must not be empty.")
  else if ¬ rt.settings.agents.contains a.name then
    Program.raise (.valueError s!"Agent '{a.name}' is not configured.")
  else if context.traceId ≠ state.traceId then
    Program.raise (.valueError "Trace id mismatch between state and normalized context.")
  else pure ()

/-- `", ".join(titles) or default`. -/
def joinTitles (titles : List String) (default : String) : String :=
  if ", ".intercalate titles = "" then default else ", ".intercalate titles

/-- A message with a fresh id and a fresh `created_at`. -/
def newMessage (traceId : Uuid) (role : GestaltMessageRole) (sender recipient : MinStr 2)
    (content : MinStr 1) (metadata : Dict Value) : Action GestaltMessage := do
  let messageId ← uuid4
  let createdAt ← utcNow .stamp
  return { messageId, traceId, role, sender, recipient, content, metadata, createdAt }

/-- `build_input_messages`. -/
def buildInputMessages (rt : Runtime) (a : AgentName) (context : AgentContextEnvelope) :
    Action (List GestaltMessage) := do
  let state ← Program.read
  let titles := (context.blackboardContext.take 5).map fun record => record.title.val
  let system ← newMessage context.traceId .system (.text "system") a.field
    (rt.systemPrompt a)
    [("allowed_tools", .list ((rt.settings.policy a).toolAllowlist.map .str))]
  let task ← newMessage context.traceId .orchestrator AgentName.orchestrator.field a.field
    ((.text "Objective: " : MinStr 1).append (context.objective.val ++
      "\nBlackboard context titles: " ++ joinTitles titles "none" ++
      "\nCurrent stats: " ++ rt.dictText state.stats.summary)) []
  return [system, task]

/-! ## after the model -/

/-- `persist_outputs`. -/
def persistOutputs (artifacts : AgentArtifacts) : Action Unit := do
  Program.forEach (fun memory => send (.writeMemory memory)) artifacts.memories
  Program.forEach (fun command => send (.writeCommand command)) artifacts.commands
  Program.forEach (fun report => send (.writeStatsReport report)) artifacts.statsReport.toList
  Program.forEach (fun report => send (.writeAuditReport report)) artifacts.auditReport.toList
  Program.forEach (fun proposal => send (.writeOptimizationProposal proposal))
    artifacts.optimizationProposals

/-- `build_execution_report`.  The report is rejected when the clock reads
less than at the start of the invocation. -/
def buildExecutionReport (a : AgentName) (artifacts : AgentArtifacts) (startedAt : Int)
    (status : CommandStatus) : Action AgentExecutionReport := do
  let state ← Program.read
  let finishedAt ← utcNow (.finished startedAt)
  let reportId ← uuid4
  if timing : startedAt ≤ finishedAt then
    return {
      reportId
      traceId := state.traceId
      agentName := a.field
      status
      summary := artifacts.summary
      emittedCommands := artifacts.commands
      emittedMemories := artifacts.memories
      metrics := artifacts.metrics
      startedAt
      finishedAt
      timing }
  else Program.raise (.validationError "AgentExecutionReport"
    ⟨[], "finished_at must be greater than or equal to started_at"⟩)

/-- The stats part of `_apply_state_update`. -/
def applyStatsReport (stats : GestaltStats) (report : GestaltStatsReport) : GestaltStats :=
  report.agentHealth.foldl
    (fun stats snapshot => stats.setAgentHealth snapshot.agentName.val snapshot.status)
    { stats with
      loadLevel := report.loadLevel
      performanceTier := report.performanceTier
      costEfficiencyScore := report.costEfficiencyScore.val
      securityRiskScore := report.securityRiskScore.val
      gestaltCohesionScore := report.gestaltCohesionScore.val }

/-- `_apply_state_update`. -/
def applyStateUpdate (state : GestaltGraphState) (messages : List GestaltMessage)
    (artifacts : AgentArtifacts) (report : AgentExecutionReport) : GestaltGraphState :=
  { state with
    messages := state.messages ++ messages
    commands := state.commands ++ artifacts.commands
    memories := state.memories ++ artifacts.memories
    decisions := state.decisions ++ artifacts.decisions
    executionReports := state.executionReports ++ [report]
    optimizationProposals := state.optimizationProposals ++ artifacts.optimizationProposals
    auditReports := state.auditReports ++ artifacts.auditReport.toList
    latestSummary := artifacts.latestSummary.or state.latestSummary
    stats :=
      match artifacts.statsReport with
      | some statsReport => applyStatsReport state.stats statsReport
      | none => state.stats
    metadata := state.metadata.update artifacts.metadataUpdates }

/-! ## the lifecycle -/

/-- What `run` does once the artifacts are there. -/
def complete (a : AgentName) (startedAt : Int) (messages : List GestaltMessage)
    (artifacts : AgentArtifacts) : Action GestaltGraphState := do
  persistOutputs artifacts
  let report ← buildExecutionReport a artifacts startedAt .completed
  return applyStateUpdate (← Program.read) (messages ++ artifacts.messages) artifacts report

/-- The body of the `try` in `run`. -/
def lifecycle (rt : Runtime) (agent : Agent) (startedAt : Int) : Action GestaltGraphState := do
  let context ← prepareContext rt agent.name
  runAlignmentChecks rt agent.name context
  let messages ← buildInputMessages rt agent.name context
  let artifacts ← agent.produceArtifacts context
  complete agent.name startedAt messages artifacts

/-- The artifacts of a failed invocation. -/
def failureArtifacts (rt : Runtime) (a : AgentName) (e : Exc) : AgentArtifacts where
  summary := ⟨a.name ++ (" failed: " ++ rt.excText e), by
    rw [String.length_append, String.length_append]
    exact Nat.le_trans (by decide : 8 ≤ " failed: ".length)
      (Nat.le_trans (Nat.le_add_right _ _) (Nat.le_add_left _ _))⟩

/-- The `except` branch of `run`.  An exception in here leaves `run`. -/
def recover (rt : Runtime) (a : AgentName) (startedAt : Int) (e : Exc) :
    Action GestaltGraphState := do
  let artifacts := failureArtifacts rt a e
  let report ← buildExecutionReport a artifacts startedAt .failed
  let failedState := applyStateUpdate (← Program.read) [] artifacts report
  return { failedState with
    metadata := failedState.metadata.set "last_error" (.str (rt.excText e)) }

/-- `run`. -/
def run (rt : Runtime) (agent : Agent) : Action GestaltGraphState := do
  let startedAt ← utcNow .started
  (lifecycle rt agent startedAt).tryCatch (recover rt agent.name startedAt)

end Gestalt
