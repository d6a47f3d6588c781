import Gestalt.Services

/-!
# Gestalt.Reference

A concrete runtime, with the settings of the test suite, and the answers of a
world in which the tools reply as the registered ones do and the clock stands
still.
-/

namespace Gestalt

open Effects

namespace Reference

/-! ## the runtime -/

/-- The tools every agent of the test suite is allowed. -/
def allTools : List String :=
  ["blackboard_query", "blackboard_write", "prometheus_query", "sandbox_command",
   "redis_stream_inspect", "kubernetes_read", "kubernetes_patch", "http_request"]

/-- The agents of the test suite. -/
def agents : Dict AgentPolicyConfig :=
  [AgentName.orchestrator, .monitor, .analyzer, .plannerExecutor, .optimizer, .knowledge,
    .securityAudit].map fun a => (a.name, { toolAllowlist := allTools })

/-- The settings of the test suite. -/
def settings : GestaltSettings where
  models :=
    { defaultAlias := .text "mock://default"
      routes :=
        { low := .text "mock://low"
          medium := .text "mock://medium"
          high := .text "mock://high"
          critical := .text "mock://critical" } }
  events := { backend := .memory, redisUrl := .text "redis://localhost:6379/0" }
  agents := agents
  validate_agents := by
    intro a
    cases a <;> decide

/-- A runtime that lowers ASCII letters and renders texts as themselves. -/
def runtime : Runtime where
  settings := settings
  lower s := String.ofList (s.toList.map Char.toLower)
  repr s := "'" ++ s ++ "'"
  idText u := ⟨"id" ++ toString u, by
    rw [String.length_append]
    exact Nat.le_trans (by decide : 1 ≤ "id".length) (Nat.le_add_right _ _)⟩
  validationText model error := model ++ ": " ++ error.problem
  dictText _ := "\x7b...\x7d"
  statsReportJson _ := .dict []
  resolve path := path
  systemPrompt _ := .text "You are a Gestalt Core agent."

/-! ## the world -/

/-- `PrometheusQueryTool.arun`. -/
def prometheusValue (query : String) : Rat :=
  if occursIn "queue" query then 3
  else if occursIn "latency" query then 420
  else if occursIn "error" query then 1 / 100
  else 1

/-- A model reply of each kind. -/
def modelReply : (m : ResponseModel) → m.Reply
  | .orchestratorReasoning => { summary := .text "Routed the next step." }
  | .monitorReasoning => { summary := .text "Telemetry is nominal." }
  | .analyzerReasoning =>
      { diagnosis := .text "No incident was found."
        recommendedTarget := .text "planner_executor" }
  | .plannerReasoning => { executionSummary := .text "The command was executed." }
  | .optimizerReasoning =>
      { summary := .text "Keep the current route."
        preferredRoute := .text "medium" }
  | .knowledgeReasoning => { summary := .text "Nothing new was learned." }
  | .securityAuditReasoning =>
      { summary := .text "The audit found no open issue."
        overallRiskScore := Score.clamp 0 }

/-- What a call returns when it succeeds. -/
def reply : (c : Call) → c.Reply
  | .queryMemory _ => {}
  | .writeMemory _ | .writeCommand _ | .writeStatsReport _ | .writeAuditReport _
  | .writeOptimizationProposal _ | .linkEntities _ | .approve _ => ()
  | .computeCohesionInputs => ⟨0, 0⟩
  | .acompletion _ m => some (modelReply m)
  | .prometheusQuery query => prometheusValue query.val
  | .redisStreamInspect _ _ => []
  | .bash _ _ _ => { returnCode := 0 }

/-- The answer of the world to a question; `failing` tells which calls fail. -/
def answer (failing : Call → Bool) : (op : ServiceOp) → op.Answer
  | .utcNow (.expiry expiresAt) => expiresAt - 1
  | .utcNow (.finished startedAt) => startedAt
  | .utcNow _ => 0
  | .uuid4 => 0
  | .call c => if failing c then .error (.external "unavailable") else .ok (reply c)

end Reference

end Gestalt
