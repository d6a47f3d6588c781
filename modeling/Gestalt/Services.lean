import Gestalt.Config
import Gestalt.Protocol
import Gestalt.Library.Codec
import Gestalt.Library.Path
import Gestalt.Library.Program

/-!
# Gestalt.Services

What an agent asks of the world while it runs: the clock, fresh identifiers,
and the calls on the blackboard, the event bus, the model provider and the
tools.  Every call may fail, and the clock may read anything.  The model
gateway (`gestalt/utils/model_gateway.py`) and the tool registry
(`gestalt/tools/registry.py`) decide which calls are made.
-/

namespace Gestalt

open Effects

/-! ## exceptions -/

/-- An exception. -/
inductive Exc where
  | valueError (message : String)
  | typeError (message : String)
  | keyError (key : String)
  | permissionError (message : String)
  | validationError (model : String) (error : LoadError)
  | external (message : String)

/-- Validate one field of a model. -/
def validate {α : Type} (model field problem : String) : Option α → Except Exc α
  | some a => .ok a
  | none => .error (.validationError model ⟨[field], problem⟩)

/-- A value that was validated is the one that was there. -/
theorem eq_some_of_validate {α : Type} {model field problem : String} {x : Option α} {a : α}
    (h : validate model field problem x = .ok a) : x = some a := by
  cases x with
  | none => contradiction
  | some b => exact congrArg some (Except.ok.inj h)

/-! ## structured completions -/

/-- The orchestrator's reasoning scaffold. -/
structure OrchestratorReasoning where
  summary : MinStr 16
  nextAgents : List String := []

/-- The monitor's reasoning scaffold. -/
structure MonitorReasoning where
  summary : MinStr 12
  anomalyDetected : Bool := false

/-- The analyzer's reasoning scaffold. -/
structure AnalyzerReasoning where
  diagnosis : MinStr 16
  recommendedTarget : MinStr 3
  requiresSecurityAudit : Bool := false

/-- The planner's reasoning scaffold. -/
structure PlannerReasoning where
  executionSummary : MinStr 16
  nextStepNeeded : Bool := false

/-- The optimizer's reasoning scaffold. -/
structure OptimizerReasoning where
  summary : MinStr 16
  preferredRoute : MinStr 3

/-- The knowledge agent's reasoning scaffold. -/
structure KnowledgeReasoning where
  summary : MinStr 16

/-- The security audit's reasoning scaffold. -/
structure SecurityAuditReasoning where
  summary : MinStr 24
  overallRiskScore : Score

/-- The response models passed to the model gateway. -/
inductive ResponseModel where
  | orchestratorReasoning
  | monitorReasoning
  | analyzerReasoning
  | plannerReasoning
  | optimizerReasoning
  | knowledgeReasoning
  | securityAuditReasoning
  deriving DecidableEq, Repr

/-- The parsed response of each model. -/
@[reducible] def ResponseModel.Reply : ResponseModel → Type
  | orchestratorReasoning => OrchestratorReasoning
  | monitorReasoning => MonitorReasoning
  | analyzerReasoning => AnalyzerReasoning
  | plannerReasoning => PlannerReasoning
  | optimizerReasoning => OptimizerReasoning
  | knowledgeReasoning => KnowledgeReasoning
  | securityAuditReasoning => SecurityAuditReasoning

/-- What is sent to the model provider. -/
structure CompletionRequest where
  model : MinStr 1
  temperature : Rat
  maxTokens : Nat
  systemPrompt : MinStr 1
  userPrompt : String

/-! ## calls -/

/-- Result set of a blackboard query. -/
structure BlackboardQueryResult where
  matching : List BlackboardMemoryRecord := []

/-- Evidence for the cohesion score. -/
structure CohesionInputs where
  failedCommands : Nat
  recentAverageAuditRisk : Rat

/-- Result of a sandboxed command. -/
structure SandboxCommandOutput where
  stdout : String := ""
  stderr : String := ""
  returnCode : Int

/-- A call that leaves the process. -/
inductive Call where
  | queryMemory (query : BlackboardQuery)
  | writeMemory (record : BlackboardMemoryRecord)
  | writeCommand (command : GestaltCommand)
  | writeStatsReport (report : GestaltStatsReport)
  | writeAuditReport (report : GestaltAuditReport)
  | writeOptimizationProposal (proposal : OptimizationProposal)
  | linkEntities (relations : List BlackboardRelation)
  | computeCohesionInputs
  | approve (approval : EventApproval)
  | acompletion (request : CompletionRequest) (responseModel : ResponseModel)
  | prometheusQuery (query : MinStr 1)
  | redisStreamInspect (streamName : MinStr 1) (count : Nat)
  | bash (command : String) (cwd : String) (timeoutSeconds : Nat)

/-- What a call returns when it succeeds.  A completion may come back
without a parsed response. -/
@[reducible] def Call.Reply : Call → Type
  | queryMemory _ => BlackboardQueryResult
  | writeMemory _ | writeCommand _ | writeStatsReport _ | writeAuditReport _
  | writeOptimizationProposal _ | linkEntities _ | approve _ => Unit
  | computeCohesionInputs => CohesionInputs
  | acompletion _ responseModel => Option responseModel.Reply
  | prometheusQuery _ => Rat
  | redisStreamInspect _ _ => List (Dict String)
  | bash _ _ _ => SandboxCommandOutput

/-- Where the clock is read: when an invocation starts, for a `created_at` or
an `expires_at`, when the expiry of a new approval is validated, and when the
report of an invocation is built. -/
inductive ClockSite where
  | started
  | stamp
  | expiry (expiresAt : Int)
  | finished (startedAt : Int)

/-- One question an agent asks. -/
inductive ServiceOp where
  | utcNow (site : ClockSite)
  | uuid4
  | call (c : Call)

/-- The answer to a question. -/
@[reducible] def ServiceOp.Answer : ServiceOp → Type
  | utcNow _ => Int
  | uuid4 => Uuid
  | call c => Except Exc c.Reply

/-- The services as an interface. -/
abbrev Services : Interface := ⟨ServiceOp, ServiceOp.Answer⟩

/-- Code of an agent: it runs on the state object it was handed, which it may
mutate, and it may raise. -/
abbrev Action (α : Type) := Program Services GestaltGraphState Exc α

/-- Read the clock. -/
def utcNow (site : ClockSite) : Action Int := Program.query (I := Services) (.utcNow site)

/-- A fresh identifier. -/
def uuid4 : Action Uuid := Program.query (I := Services) .uuid4

/-- Make a call; its failure is raised. -/
def send (c : Call) : Action c.Reply := do
  let answer ← Program.query (I := Services) (.call c)
  Program.ofExcept answer

/-! ## the runtime -/

/-- The shared runtime.  Beside the settings, what Python and pydantic do with
text: `str.lower`, `repr` of a string, the text of an identifier, of a
validation error and of a dictionary; the JSON dump of a stats report;
`Path.resolve`; and the system prompts. -/
structure Runtime where
  settings : GestaltSettings
  lower : String → String
  repr : String → String
  idText : Uuid → MinStr 1
  validationText : String → LoadError → String
  dictText : Dict Value → String
  statsReportJson : GestaltStatsReport → Value
  resolve : String → String
  systemPrompt : AgentName → MinStr 1

/-- `str(exc)`. -/
def Runtime.excText (rt : Runtime) : Exc → String
  | .valueError message | .typeError message | .permissionError message | .external message =>
      message
  | .keyError key => rt.repr key
  | .validationError model error => rt.validationText model error

/-! ## the model gateway -/

/-- `select_model`.  A route is never empty, so `default_alias` is not used. -/
def ModelsConfig.selectModel (models : ModelsConfig) (stats : GestaltStats)
    (preferredTier : Option String) : MinStr 1 :=
  let route := preferredTier.getD stats.deriveModelPolicy.preferredRoute
  if route = "critical" then models.routes.critical
  else if route = "high" then models.routes.high
  else if route = "medium" then models.routes.medium
  else models.routes.low

/-- Whether the gateway answers from the mock payload. -/
def ModelsConfig.mocks (models : ModelsConfig) (modelName : MinStr 1) : Bool :=
  models.enableMockLlm || decide ("mock://".toList <+: modelName.val.toList)

/-- `complete_structured`, on behalf of the agent `a`.  `mock` is the validated
mock payload. -/
def completeStructured (rt : Runtime) (a : AgentName) (userPrompt : String)
    (responseModel : ResponseModel) (stats : GestaltStats)
    (mock : Except Exc responseModel.Reply) : Action responseModel.Reply :=
  let models := rt.settings.models
  let modelName := models.selectModel stats (some (rt.settings.policy a).modelPreference.value)
  if models.mocks modelName then Program.ofExcept mock
  else do
    let parsed ← send (.acompletion
      { model := modelName, temperature := models.temperature, maxTokens := models.maxTokens,
        systemPrompt := rt.systemPrompt a, userPrompt := userPrompt } responseModel)
    match parsed with
    | none => Program.raise (.valueError "LiteLLM did not return a parsed structured response.")
    | some reply => pure reply

/-! ## tools -/

/-- `execute_allowed`: run a registered tool only if the agent's allowlist
names it. -/
def executeAllowed {α : Type} (rt : Runtime) (a : AgentName) (toolName : String)
    (tool : Action α) : Action α :=
  if toolName ∈ (rt.settings.policy a).toolAllowlist then tool
  else Program.raise
    (.permissionError s!"Tool '{toolName}' is not allowed for agent '{a.name}'.")

/-- `query_blackboard`. -/
def queryBlackboard (rt : Runtime) (a : AgentName) (query : MinStr 1) (limit : Nat)
    (in_range : decide (1 ≤ limit ∧ limit ≤ 100) = true := by exact Eq.refl true) :
    Action BlackboardQueryResult :=
  executeAllowed rt a "blackboard_query" (send (.queryMemory {
    query
    limit
    limit_pos := (of_decide_eq_true in_range).1
    limit_le := (of_decide_eq_true in_range).2 }))

/-- `query_prometheus`. -/
def queryPrometheus (rt : Runtime) (a : AgentName) (query : MinStr 1) : Action Rat :=
  executeAllowed rt a "prometheus_query" (send (.prometheusQuery query))

/-- `inspect_redis_stream`. -/
def inspectRedisStream (rt : Runtime) (a : AgentName) (streamName : MinStr 1) (count : Nat) :
    Action (List (Dict String)) :=
  executeAllowed rt a "redis_stream_inspect" (send (.redisStreamInspect streamName count))

/-- `_blocked_terms` of the sandbox. -/
def blockedTerms : List String := ["rm -rf /", "shutdown", "reboot", "mkfs", ":()\x7b:|:&\x7d;:"]

/-- `SandboxCommandTool.arun`, with the default workspace root. -/
def sandboxCommand (rt : Runtime) (command workingDirectory : String) (timeoutSeconds : Nat) :
    Action SandboxCommandOutput :=
  let root := rt.resolve "/workspace"
  let cwd := rt.resolve (PosixPath.join root workingDirectory)
  match blockedTerms.find? fun blocked => occursIn blocked (rt.lower command) with
  | some blocked => Program.raise
      (.permissionError s!"Blocked sandbox command pattern detected: {blocked}")
  | none =>
      if root.toList <+: cwd.toList then send (.bash command cwd timeoutSeconds)
      else Program.raise
        (.permissionError "Sandbox working directory escapes workspace root.")

/-- `run_sandbox_command`. -/
def runSandboxCommand (rt : Runtime) (a : AgentName) (command workingDirectory : String)
    (timeoutSeconds : Nat) : Action SandboxCommandOutput :=
  executeAllowed rt a "sandbox_command"
    (sandboxCommand rt command workingDirectory timeoutSeconds)

end Gestalt
