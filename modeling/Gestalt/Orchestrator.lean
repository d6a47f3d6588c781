import Gestalt.BaseAgent

/-!
# Gestalt.Orchestrator

The routing authority (`gestalt/orchestrator.py`).  Its plan is what the
metadata holds under `pending_agents`, or what it derives from the state when
there is no such key; each invocation dispatches the head of the plan or, with
an empty plan, finalizes the cycle.
-/

namespace Gestalt

open Effects

/-- The nodes the orchestrator may route to. -/
inductive Specialist where
  | monitor
  | analyzer
  | plannerExecutor
  | optimizer
  | knowledge
  | securityAudit
  deriving DecidableEq, Repr

namespace Specialist

/-- The agent that runs at the node. -/
def agent : Specialist → AgentName
  | monitor => .monitor
  | analyzer => .analyzer
  | plannerExecutor => .plannerExecutor
  | optimizer => .optimizer
  | knowledge => .knowledge
  | securityAudit => .securityAudit

/-- The runtime name. -/
def name (a : Specialist) : String := a.agent.name

/-- The specialist of a given name. -/
def ofName? : String → Option Specialist
  | "monitor" => some monitor
  | "analyzer" => some analyzer
  | "planner_executor" => some plannerExecutor
  | "optimizer" => some optimizer
  | "knowledge" => some knowledge
  | "security_audit" => some securityAudit
  | _ => none

/-- `DECISION_TO_NODE`. -/
def decision : Specialist → AgentDecision
  | monitor => .monitor
  | analyzer => .analyze
  | plannerExecutor => .planAndExecute
  | optimizer => .optimize
  | knowledge => .curateKnowledge
  | securityAudit => .runSecurityAudit

@[simp] theorem ofName?_name (a : Specialist) : ofName? a.name = some a := by
  cases a <;> rfl

/-- Only its own name names a specialist. -/
theorem name_of_ofName? {name : String} {a : Specialist} (h : ofName? name = some a) :
    a.name = name := by
  unfold ofName? at h
  split at h <;> first | contradiction | (obtain rfl := Option.some.inj h; rfl)

end Specialist

namespace Orchestrator

/-! ## planning -/

/-- The specialists `determine_next_agents` derives from the objective, before
duplicates are removed. -/
def orderedAgents (rt : Runtime) (state : GestaltGraphState) : List Specialist :=
  let objective := rt.lower state.objective.val
  let mentions (keywords : List String) : Bool := keywords.any fun k => occursIn k objective
  (if state.executionReports.isEmpty then [.monitor] else []) ++
  (if mentions ["audit", "security", "risk", "jailbreak"] then [.securityAudit] else []) ++
  (if mentions ["analy", "diagn", "incident", "failure", "debug", "investig", "latency",
      "regression"] then [.analyzer] else []) ++
  (if mentions ["execute", "deploy", "remediate", "fix", "run"] then [.plannerExecutor]
    else []) ++
  (if mentions ["optimiz", "cost", "latency", "performance"] || state.stats.optimizerTriggered
    then [.optimizer] else []) ++
  (if mentions ["knowledge", "learn", "summary", "memory"] then [.knowledge] else [])

/-- Keep the first occurrence of every element. -/
def dedupe {α : Type} [DecidableEq α] (xs : List α) : List α :=
  xs.foldl (fun kept x => if x ∈ kept then kept else kept ++ [x]) []

/-- `determine_next_agents`. -/
def determineNextAgents (rt : Runtime) (state : GestaltGraphState) : List String :=
  match (state.metadata.get? "scheduled_agent").bind Value.asStr? with
  | some scheduled =>
      if scheduled ≠ "" then [scheduled] else planned
  | none => planned
where
  planned : List String :=
    if ((state.metadata.get? "force_audit").map Value.truthy).getD false then ["security_audit"]
    else
      let ordered := orderedAgents rt state
      let ordered := if ordered.isEmpty then [.analyzer, .plannerExecutor, .optimizer, .knowledge]
        else ordered
      (dedupe ordered).map Specialist.name

/-- The plan of one invocation; `none` when `pending_agents` is not iterable. -/
def pendingAgents (rt : Runtime) (state : GestaltGraphState) : Option (List Value) :=
  match state.metadata.get? "pending_agents" with
  | some pending => pending.iterate?
  | none => some ((determineNextAgents rt state).map .str)

/-! ## approvals and cohesion -/

/-- `EventApproval(...)`: the target is validated, and so is the expiry
against a second reading of the clock. -/
def newApproval (traceId : Uuid) (targetAgent : Value) (rationale : MinStr 8) (expiresAt : Int) :
    Action EventApproval := do
  let target ← Program.ofExcept (validate "EventApproval" "target_agent"
    "Input should be a valid string with at least 2 characters"
    (targetAgent.asStr?.bind (MinStr.check? 2)))
  let now ← utcNow (.expiry expiresAt)
  if expiresAt ≤ now then
    Program.raise (.validationError "EventApproval"
      ⟨["expires_at"], "expires_at must be in the future"⟩)
  else
    let approvalId ← uuid4
    return {
      approvalId, traceId
      sourceAgent := AgentName.orchestrator.field
      targetAgent := target
      permittedEvent := .peerSignal
      rationale, expiresAt }

/-- `issue_peer_approval`: register the approval, then put it into the state
object the caller holds. -/
def issuePeerApproval (rt : Runtime) (targetAgent : Value) (rationale : MinStr 8) :
    Action EventApproval := do
  let state ← Program.read
  let now ← utcNow .stamp
  let approval ← newApproval state.traceId targetAgent rationale
    (now + rt.settings.events.approvalTtl)
  send (.approve approval)
  Program.modify fun state => { state with approvals := state.approvals ++ [approval] }
  return approval

/-- `evaluate_cohesion`. -/
def evaluateCohesion (rt : Runtime) : Action Score := do
  let state ← Program.read
  let inputs ← send .computeCohesionInputs
  let penalty : Int :=
    inputs.failedCommands * rt.settings.stats.cohesionPenalties.failedCommand +
      max 0 (truncate (inputs.recentAverageAuditRisk / 10))
  let base := if state.stats.gestaltCohesionScore = 0 then 100
    else state.stats.gestaltCohesionScore
  return Score.clamp (base - penalty)

/-! ## the artifact builder -/

/-- The text of a plan element in a message; elements that are not strings
are rejected before their text is used. -/
def elementText (v : Value) : String := v.asStr?.getD ""

/-- The mock reasoning; every planned name must be a string. -/
def mockReasoning (nextAgent : Value) (rest : List Value) : Except Exc OrchestratorReasoning := do
  let nextAgents ← validate "OrchestratorReasoning" "next_agents"
    "Input should be a valid string" ((nextAgent :: rest).mapM Value.asStr?)
  return {
    summary := (.text "Orchestrator routed the next step to " : MinStr 16).append
      (elementText nextAgent ++ ".")
    nextAgents }

/-- Route to the head of the plan. -/
def dispatch (rt : Runtime) (context : AgentContextEnvelope) (nextAgent : Value)
    (rest : List Value) : Action AgentArtifacts := do
  let state ← Program.read
  let reasoning ← completeStructured rt .orchestrator
    s!"Route the objective: {context.objective.val}" .orchestratorReasoning state.stats
    (mockReasoning nextAgent rest)
  let _ ← issuePeerApproval rt nextAgent
    ((.text "Orchestrator approved tightly scoped coordination for " : MinStr 8).append
      (elementText nextAgent ++ "."))
  let recipient ← Program.ofExcept (validate "GestaltMessage" "recipient"
    "Input should be a valid string with at least 2 characters"
    (nextAgent.asStr?.bind (MinStr.check? 2)))
  let message ← newMessage state.traceId .orchestrator AgentName.orchestrator.field recipient
    reasoning.summary.weaken []
  match Specialist.ofName? (elementText nextAgent) with
  | none => Program.raise (.keyError (elementText nextAgent))
  | some specialist =>
      return {
        summary := reasoning.summary.weaken
        messages := [message]
        decisions := [specialist.decision]
        metadataUpdates := [("current_node", nextAgent), ("pending_agents", .list rest),
          ("next_node", nextAgent)]
        metrics := [("planned_agents", (reasoning.nextAgents.length : Rat))] }

/-- Close the cycle. -/
def finalize (rt : Runtime) : Action AgentArtifacts := do
  let state ← Program.read
  let cohesionScore ← evaluateCohesion rt
  let securityRiskScore ← Program.ofExcept (validate "GestaltSummary" "security_risk_score"
    "Input should be between 0 and 100" (Score.check? state.stats.securityRiskScore))
  let cycleId ← uuid4
  let producedAt ← utcNow .stamp
  let summary : GestaltSummary := {
    cycleId
    traceId := state.traceId
    objective := state.objective
    completedActions := state.executionReports.map fun report => report.summary.val
    decisions := state.decisions ++ [.finalize]
    cohesionScore, securityRiskScore, producedAt }
  return {
    summary := .text "Orchestrator finalized the cycle."
    decisions := [.finalize]
    latestSummary := some summary
    metadataUpdates := [("current_node", .str AgentName.orchestrator.name),
      ("next_node", .str "__end__"), ("pending_agents", .list [])] }

/-- What `list(state.metadata["pending_agents"])` raises where it raises. -/
def notIterable (state : GestaltGraphState) : Exc :=
  let pending := (state.metadata.get? "pending_agents").getD .none
  .typeError ("'" ++ pending.typeName ++ "' object is not iterable")

/-- `produce_artifacts` of the orchestrator. -/
def produceArtifacts (rt : Runtime) (context : AgentContextEnvelope) : Action AgentArtifacts := do
  let state ← Program.read
  match pendingAgents rt state with
  | none => Program.raise (notIterable state)
  | some [] => finalize rt
  | some (nextAgent :: rest) => dispatch rt context nextAgent rest

end Orchestrator

end Gestalt
