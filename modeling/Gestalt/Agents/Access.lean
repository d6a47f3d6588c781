import Gestalt.Graph.Questions

/-!
# Gestalt.Agents.Access

The access matrix of the agents.

`Consults` has a row for each agent: the calls its artifact builder makes, with
the arguments it makes them with.  A tool is called only on behalf of an agent
whose allowlist names it, and the model provider only where the gateway has no
mock payload to answer with.  No builder writes to the blackboard: that is left
to the lifecycle all agents share.
-/

namespace Gestalt

open Effects Program

/-! ## the matrix -/

/-- The response model the builder of each agent asks for. -/
def AgentName.responseModel : AgentName → ResponseModel
  | .orchestrator => .orchestratorReasoning
  | .monitor => .monitorReasoning
  | .analyzer => .analyzerReasoning
  | .plannerExecutor => .plannerReasoning
  | .optimizer => .optimizerReasoning
  | .knowledge => .knowledgeReasoning
  | .securityAudit => .securityAuditReasoning

/-- What the agent puts before the objective when it asks a model. -/
def AgentName.task : AgentName → String
  | .orchestrator => "Route the objective: "
  | .monitor => "Monitor objective: "
  | .analyzer => "Analyze objective: "
  | .plannerExecutor => "Execute objective: "
  | .optimizer => "Optimize objective: "
  | .knowledge => "Curate knowledge for objective: "
  | .securityAudit => "Audit objective: "

/-- The agent's allowlist names the tool. -/
def Runtime.allowsTool (rt : Runtime) (a : AgentName) (toolName : String) : Prop :=
  toolName ∈ (rt.settings.policy a).toolAllowlist

instance (rt : Runtime) (a : AgentName) (toolName : String) :
    Decidable (rt.allowsTool a toolName) :=
  inferInstanceAs (Decidable (_ ∈ _))

/-- A completion the agent may request: from a provider, for its own prompt, its
own task with the objective and its own response model. -/
structure Requests (rt : Runtime) (objective : MinStr 3) (a : AgentName)
    (request : CompletionRequest) (responseModel : ResponseModel) : Prop where
  unmocked : rt.settings.models.mocks request.model = false
  route : ∃ stats, request.model = rt.requestedAlias a stats
  prompt : request.systemPrompt = rt.systemPrompt a
  task : request.userPrompt = a.task ++ objective.val
  parameters : request.temperature = rt.settings.models.temperature ∧
    request.maxTokens = rt.settings.models.maxTokens
  answered : responseModel = a.responseModel

/-- A text for a query. -/
def plainText (text : String)
    (min_length : decide (1 ≤ text.length) = true := by exact Eq.refl true) : MinStr 1 :=
  ⟨text, of_decide_eq_true min_length⟩

theorem one_le_of_in_range {limit : Nat} (h : decide (1 ≤ limit ∧ limit ≤ 100) = true) :
    1 ≤ limit :=
  (of_decide_eq_true h).1

theorem le_of_in_range {limit : Nat} (h : decide (1 ≤ limit ∧ limit ≤ 100) = true) :
    limit ≤ 100 :=
  (of_decide_eq_true h).2

/-- A query for memories, without filters. -/
def plainQuery (query : MinStr 1) (limit : Nat)
    (in_range : decide (1 ≤ limit ∧ limit ≤ 100) = true := by exact Eq.refl true) :
    BlackboardQuery where
  query
  limit
  limit_pos := one_le_of_in_range in_range
  limit_le := le_of_in_range in_range

/-- A command the sandbox lets pass: without a blocked term, and in a directory
under the workspace root. -/
structure Runtime.Sandboxed (rt : Runtime) (command cwd : String) : Prop where
  unblocked : ∀ blocked ∈ blockedTerms, occursIn blocked (rt.lower command) = false
  contained : (rt.resolve "/workspace").toList <+: cwd.toList
  resolved : cwd = rt.resolve (PosixPath.join (rt.resolve "/workspace") ".")

/-- **The access matrix**: the calls the builder of each agent makes for its
context. -/
def Consults (rt : Runtime) (context : AgentContextEnvelope) : AgentName → Call → Prop
  | a, .acompletion request responseModel =>
      Requests rt context.objective a request responseModel
  | .orchestrator, .approve _ => True
  | .orchestrator, .computeCohesionInputs => True
  | .monitor, .prometheusQuery query => rt.allowsTool .monitor "prometheus_query" ∧
      query.val ∈ ["queue_depth", "latency_p95_ms", "error_ratio"]
  | .analyzer, .queryMemory query => rt.allowsTool .analyzer "blackboard_query" ∧
      query = plainQuery context.objective.weaken 5
  | .analyzer, .prometheusQuery query => rt.allowsTool .analyzer "prometheus_query" ∧
      query.val = "latency_p95_ms"
  | .plannerExecutor, .bash command cwd timeoutSeconds =>
      rt.allowsTool .plannerExecutor "sandbox_command" ∧ rt.Sandboxed command cwd ∧
      command = PlannerExecutor.commandText context.objective.val context.inboundCommands.head? ∧
      timeoutSeconds = 15
  | .optimizer, .queryMemory query => rt.allowsTool .optimizer "blackboard_query" ∧
      query = plainQuery (plainText "optimization proposal") 3
  | .optimizer, .prometheusQuery query => rt.allowsTool .optimizer "prometheus_query" ∧
      query.val = "latency_p95_ms"
  | .knowledge, .queryMemory query => rt.allowsTool .knowledge "blackboard_query" ∧
      query = plainQuery context.objective.weaken 5
  | .knowledge, .linkEntities relations => ∃ relation, relations = [relation] ∧
      relation.relationType.val = "CURATED_INTO"
  | .securityAudit, .queryMemory query => rt.allowsTool .securityAudit "blackboard_query" ∧
      query = plainQuery (plainText "audit security risk") 5
  | .securityAudit, .redisStreamInspect streamName count =>
      rt.allowsTool .securityAudit "redis_stream_inspect" ∧
      streamName = rt.settings.events.streamName ∧ count = 10
  | .securityAudit, .prometheusQuery query => rt.allowsTool .securityAudit "prometheus_query" ∧
      query.val = "error_ratio"
  | _, _ => False

/-- A question the builder of the agent may ask: the clock, an identifier, or a
call in its row. -/
def InRow (rt : Runtime) (context : AgentContextEnvelope) (a : AgentName) : ServiceOp → Prop
  | .call c => Consults rt context a c
  | _ => True

/-! ## the builders -/

section Builders

variable {rt : Runtime} {context : AgentContextEnvelope} {a : AgentName}

theorem InRow.utcNow (site : ClockSite) : (utcNow site).Asks (InRow rt context a) :=
  asks_query trivial

theorem InRow.uuid4 : uuid4.Asks (InRow rt context a) :=
  asks_query trivial

theorem InRow.newCommand {traceId : Uuid} {commandType : GestaltCommandType}
    {issuedBy targetAgent : MinStr 2} {rationale : MinStr 8} {payload : Dict Value} :
    (newCommand traceId commandType issuedBy targetAgent rationale payload).Asks
      (InRow rt context a) :=
  asks_bind InRow.uuid4 fun _ => asks_bind (InRow.utcNow _) fun _ => asks_pure _

theorem InRow.newMemory {traceId : Uuid} {memoryKind : MemoryKind} {title : MinStr 3}
    {content : MinStr 1} {tags : List String} {metadata : Dict Value} :
    (newMemory traceId memoryKind title content tags metadata).Asks (InRow rt context a) :=
  asks_bind InRow.uuid4 fun _ => asks_bind (InRow.utcNow _) fun _ => asks_pure _

theorem InRow.newMessage {traceId : Uuid} {role : GestaltMessageRole}
    {sender recipient : MinStr 2} {content : MinStr 1} {metadata : Dict Value} :
    (newMessage traceId role sender recipient content metadata).Asks (InRow rt context a) :=
  asks_bind InRow.uuid4 fun _ => asks_bind (InRow.utcNow _) fun _ => asks_pure _

/-- A tool is asked only where the allowlist names it. -/
theorem InRow.tool {α : Type} {toolName : String} {tool : Action α}
    (h : rt.allowsTool a toolName → tool.Asks (InRow rt context a)) :
    (executeAllowed rt a toolName tool).Asks (InRow rt context a) := by
  unfold executeAllowed
  split
  · next hallowed => exact h hallowed
  · exact asks_raise _

/-- A completion is requested only where the gateway does not mock it. -/
theorem InRow.completeStructured {userPrompt : String} {responseModel : ResponseModel}
    {stats : GestaltStats} {mock : Except Exc responseModel.Reply}
    (htask : userPrompt = a.task ++ context.objective.val)
    (hmodel : responseModel = a.responseModel) :
    (completeStructured rt a userPrompt responseModel stats mock).Asks (InRow rt context a) := by
  unfold Gestalt.completeStructured
  dsimp only
  split
  · exact asks_ofExcept _
  · next hmocks =>
      refine asks_bind (asks_send ?_) fun parsed => ?_
      · show Consults rt context a (.acompletion _ responseModel)
        cases a <;>
          exact ⟨eq_false_of_ne_true hmocks, ⟨stats, rfl⟩, rfl, htask, ⟨rfl, rfl⟩, hmodel⟩
      · cases parsed with
        | none => exact asks_raise _
        | some reply => exact asks_pure _

theorem asks_monitor : (Monitor.produceArtifacts rt context).Asks (InRow rt context .monitor) := by
  have hsample : ∀ query : MinStr 1, query.val ∈ ["queue_depth", "latency_p95_ms", "error_ratio"] →
      (queryPrometheus rt .monitor query).Asks (InRow rt context .monitor) :=
    fun query hquery => InRow.tool fun hallowed => asks_send ⟨hallowed, hquery⟩
  refine asks_read_bind fun state => ?_
  refine asks_bind (hsample _ (by simp [MinStr.text])) fun queue => ?_
  refine asks_bind (hsample _ (by simp [MinStr.text])) fun latency => ?_
  refine asks_bind (hsample _ (by simp [MinStr.text])) fun errorRatio => ?_
  refine asks_bind (asks_ofExcept _) fun snapshot => ?_
  refine asks_bind (InRow.utcNow _) fun updatedAt => ?_
  refine asks_bind (InRow.completeStructured rfl rfl) fun reasoning => ?_
  refine asks_bind (asks_ofExcept _) fun healthSnapshots => ?_
  refine asks_bind InRow.uuid4 fun reportId => ?_
  refine asks_bind (InRow.utcNow _) fun capturedAt => ?_
  refine asks_bind (asks_ofExcept _) fun report => ?_
  refine asks_bind (asks_appendIf InRow.newCommand) fun optimize => ?_
  refine asks_bind (asks_appendIf InRow.newCommand) fun audit => ?_
  exact asks_bind InRow.newMemory fun memory => asks_pure _

theorem asks_analyzer :
    (Analyzer.produceArtifacts rt context).Asks (InRow rt context .analyzer) := by
  refine asks_read_bind fun state => ?_
  refine asks_bind (InRow.tool fun hallowed => asks_send ⟨hallowed, rfl⟩) fun result => ?_
  refine asks_bind (InRow.tool fun hallowed => asks_send ⟨hallowed, rfl⟩) fun latency => ?_
  refine asks_bind (InRow.completeStructured rfl rfl) fun reasoning => ?_
  refine asks_bind InRow.newCommand fun command => ?_
  exact asks_bind InRow.newMemory fun memory => asks_pure _

/-- The sandbox hands its command to the shell, or refuses it. -/
theorem asks_sandboxCommand {command : String} {may : ServiceOp → Prop}
    (h : ∀ cwd, rt.Sandboxed command cwd → may (.call (.bash command cwd 15))) :
    (sandboxCommand rt command "." 15).Asks may := by
  unfold sandboxCommand
  dsimp only
  split
  · exact asks_raise _
  · next hfind =>
      split
      · next hroot =>
          refine asks_send (h _ ⟨fun blocked hmem => ?_, hroot, rfl⟩)
          exact eq_false_of_ne_true (List.find?_eq_none.mp hfind blocked hmem)
      · exact asks_raise _

theorem asks_plannerExecutor :
    (PlannerExecutor.produceArtifacts rt context).Asks (InRow rt context .plannerExecutor) := by
  refine asks_read_bind fun state => ?_
  refine asks_bind (InRow.tool fun hallowed => asks_sandboxCommand fun cwd hsandboxed =>
    ⟨hallowed, hsandboxed, rfl, rfl⟩) fun result => ?_
  refine asks_bind (InRow.completeStructured rfl rfl) fun reasoning => ?_
  refine asks_bind InRow.newMemory fun memory => ?_
  exact asks_bind (asks_appendIf InRow.newCommand) fun commands => asks_pure _

theorem asks_optimizer :
    (Optimizer.produceArtifacts rt context).Asks (InRow rt context .optimizer) := by
  refine asks_read_bind fun state => ?_
  refine asks_bind (InRow.tool fun hallowed => asks_send ⟨hallowed, rfl⟩) fun history => ?_
  refine asks_bind (InRow.tool fun hallowed => asks_send ⟨hallowed, rfl⟩) fun latency => ?_
  refine asks_bind (InRow.completeStructured rfl rfl) fun reasoning => ?_
  refine asks_bind InRow.uuid4 fun proposalId => ?_
  refine asks_bind (InRow.utcNow _) fun proposedAt => ?_
  exact asks_bind InRow.newMemory fun memory => asks_pure _

theorem asks_knowledge :
    (Knowledge.produceArtifacts rt context).Asks (InRow rt context .knowledge) := by
  refine asks_read_bind fun state => ?_
  refine asks_bind (InRow.tool fun hallowed => asks_send ⟨hallowed, rfl⟩) fun result => ?_
  refine asks_bind (InRow.completeStructured rfl rfl) fun reasoning => ?_
  refine asks_bind InRow.newMemory fun memory => ?_
  refine asks_bind ?_ fun _ => asks_pure _
  unfold Knowledge.linkLineage
  split
  · exact asks_pure _
  · exact asks_bind InRow.uuid4 fun relationId => asks_send ⟨_, rfl, rfl⟩

theorem asks_securityAudit :
    (SecurityAudit.produceArtifacts rt context).Asks (InRow rt context .securityAudit) := by
  have hfinding : ∀ {build : Uuid → AuditFinding}, (uuid4 >>= fun findingId =>
      (pure (build findingId) : Action AuditFinding)).Asks (InRow rt context .securityAudit) :=
    asks_bind InRow.uuid4 fun _ => asks_pure _
  refine asks_read_bind fun state => ?_
  refine asks_bind (InRow.tool fun hallowed => asks_send ⟨hallowed, rfl⟩) fun result => ?_
  refine asks_bind (InRow.tool fun hallowed => asks_send ⟨hallowed, rfl, rfl⟩) fun entries => ?_
  refine asks_bind (InRow.tool fun hallowed => asks_send ⟨hallowed, rfl⟩) fun errorRatio => ?_
  refine asks_bind (asks_bind (asks_appendIf (asks_bind InRow.uuid4 fun _ => hfinding))
    fun failures => asks_bind (asks_appendIf hfinding) fun errors =>
      asks_bind (asks_appendIf hfinding) fun history => asks_pure _) fun findings => ?_
  refine asks_bind (InRow.completeStructured rfl rfl) fun reasoning => ?_
  refine asks_bind (asks_appendIf InRow.newCommand) fun commands => ?_
  refine asks_bind InRow.uuid4 fun reportId => ?_
  refine asks_bind (InRow.utcNow _) fun reportedAt => ?_
  exact asks_bind InRow.newMemory fun memory => asks_pure _

theorem asks_orchestrator :
    (Orchestrator.produceArtifacts rt context).Asks (InRow rt context .orchestrator) := by
  have happroval : ∀ {traceId targetAgent rationale expiresAt},
      (Orchestrator.newApproval traceId targetAgent rationale expiresAt).Asks
        (InRow rt context .orchestrator) := by
    intro traceId targetAgent rationale expiresAt
    refine asks_bind (asks_ofExcept _) fun target => ?_
    refine asks_bind (InRow.utcNow _) fun now => ?_
    split
    · exact asks_raise _
    · exact asks_bind InRow.uuid4 fun approvalId => asks_pure _
  have hissue : ∀ {targetAgent rationale},
      (Orchestrator.issuePeerApproval rt targetAgent rationale).Asks
        (InRow rt context .orchestrator) :=
    asks_read_bind fun state => asks_bind (InRow.utcNow _) fun now =>
      asks_bind happroval fun approval => asks_bind (asks_send trivial) fun _ =>
        asks_bind (asks_modify _) fun _ => asks_pure _
  have hcohesion : (Orchestrator.evaluateCohesion rt).Asks (InRow rt context .orchestrator) :=
    asks_read_bind fun _ => asks_bind (asks_send trivial) fun _ => asks_pure _
  refine asks_read_bind fun state => ?_
  split
  · exact asks_raise _
  · -- the cycle is closed
    refine asks_read_bind fun state => ?_
    refine asks_bind hcohesion fun cohesionScore => ?_
    refine asks_bind (asks_ofExcept _) fun securityRiskScore => ?_
    exact asks_bind InRow.uuid4 fun cycleId => asks_bind (InRow.utcNow _) fun _ => asks_pure _
  · -- the head of the plan is dispatched
    refine asks_read_bind fun state => ?_
    refine asks_bind (InRow.completeStructured rfl rfl) fun reasoning => ?_
    refine asks_bind hissue fun _ => ?_
    refine asks_bind (asks_ofExcept _) fun recipient => ?_
    refine asks_bind InRow.newMessage fun message => ?_
    split
    · exact asks_raise _
    · exact asks_pure _

/-- **Every builder keeps to its row.** -/
theorem asks_builder (rt : Runtime) (node : AgentName) (context : AgentContextEnvelope) :
    ((agentAt rt node).produceArtifacts context).Asks (InRow rt context node) := by
  cases node with
  | orchestrator => exact asks_orchestrator
  | monitor => exact asks_monitor
  | analyzer => exact asks_analyzer
  | plannerExecutor => exact asks_plannerExecutor
  | optimizer => exact asks_optimizer
  | knowledge => exact asks_knowledge
  | securityAudit => exact asks_securityAudit

end Builders

end Gestalt
