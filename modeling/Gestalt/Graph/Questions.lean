import Gestalt.Graph

/-!
# Gestalt.Graph.Questions

What the agents ask of the blackboard, the graph store and the model provider.

Every agent recalls memories before it builds its artifacts, and the lifecycle
they share writes the memories among these.  Only the knowledge agent merges
relations.  A completion names the alias of the agent that requests it.
-/

namespace Gestalt

open Effects Program

/-! ## who may ask what -/

/-- A question to neither of the two stores. -/
def Apart : ServiceOp → Prop
  | .call (.queryMemory _) | .call (.writeMemory _) | .call (.linkEntities _) => False
  | _ => True

/-- A question that merges no relations. -/
def Unlinked : ServiceOp → Prop
  | .call (.linkEntities _) => False
  | _ => True

/-- A question that may recall memories but changes neither store. -/
def Recalling : ServiceOp → Prop
  | .call (.queryMemory _) => True
  | op => Apart op

/-- A question to neither of the two stores nor the model provider. -/
def Plain : ServiceOp → Prop
  | .call (.acompletion _ _) => False
  | op => Apart op

theorem Plain.apart {op : ServiceOp} (h : Plain op) : Apart op := by
  unfold Plain at h
  split at h
  · exact h.elim
  · exact h

/-- Questions to other services may be asked. -/
class Allowing (may : ServiceOp → Prop) : Prop where
  plain : ∀ {op}, Plain op → may op

instance : Allowing Apart := ⟨Plain.apart⟩

instance : Allowing Unlinked where
  plain := by
    intro op h
    unfold Unlinked
    split
    · exact h
    · trivial

instance : Allowing Recalling where
  plain := by
    intro op h
    unfold Recalling
    split
    · trivial
    · exact h.apart

/-- The alias `select_model` returns for a completion that the agent requests. -/
def Runtime.requestedAlias (rt : Runtime) (a : AgentName) (stats : GestaltStats) : MinStr 1 :=
  rt.settings.models.selectModel stats (some (rt.settings.policy a).modelPreference.value)

/-- What an invocation of the agent asks at most. -/
structure Permits (rt : Runtime) (node : AgentName) (may : ServiceOp → Prop) : Prop
    extends Allowing may where
  completion : ∀ {request responseModel stats}, request.model = rt.requestedAlias node stats →
    may (.call (.acompletion request responseModel))
  query : ∀ query, may (.call (.queryMemory query))
  write : ∀ memory, may (.call (.writeMemory memory))
  link : node = .knowledge → ∀ relations, may (.call (.linkEntities relations))

section Services

variable {may : ServiceOp → Prop} {rt : Runtime} {a : AgentName}

theorem asks_send {c : Call} (h : may (.call c)) : (send c).Asks may :=
  asks_bind (asks_query h) fun _ => asks_ofExcept _

theorem asks_executeAllowed {α : Type} {toolName : String} {tool : Action α}
    (h : tool.Asks may) : (executeAllowed rt a toolName tool).Asks may := by
  unfold executeAllowed
  split
  · exact h
  · exact asks_raise _

theorem asks_appendIf {α : Type} {condition : Bool} {build : Action α} (h : build.Asks may) :
    (appendIf condition build).Asks may := by
  unfold appendIf
  split
  · exact asks_bind h fun _ => asks_pure _
  · exact asks_pure _

theorem asks_prepareContext (h : ∀ query, may (.call (.queryMemory query))) :
    (prepareContext rt a).Asks may :=
  asks_read_bind fun _ => asks_bind (asks_send (h _)) fun _ => asks_pure _

theorem asks_runAlignmentChecks {context : AgentContextEnvelope} :
    (runAlignmentChecks rt a context).Asks may := by
  refine asks_read_bind fun state => ?_
  split
  · exact asks_raise _
  split
  · exact asks_raise _
  split
  · exact asks_raise _
  · exact asks_pure _

theorem asks_completeStructured {userPrompt : String} {responseModel : ResponseModel}
    {stats : GestaltStats} {mock : Except Exc responseModel.Reply}
    (h : ∀ {request : CompletionRequest}, request.model = rt.requestedAlias a stats →
      may (.call (.acompletion request responseModel))) :
    (completeStructured rt a userPrompt responseModel stats mock).Asks may := by
  unfold completeStructured
  dsimp only
  split
  · exact asks_ofExcept _
  · refine asks_bind (asks_send (h rfl)) fun parsed => ?_
    cases parsed with
    | none => exact asks_raise _
    | some reply => exact asks_pure _

variable [Allowing may]

theorem asks_utcNow (site : ClockSite) : (utcNow site).Asks may :=
  asks_query (Allowing.plain trivial)

theorem asks_uuid4 : uuid4.Asks may :=
  asks_query (Allowing.plain trivial)

theorem asks_newCommand {traceId : Uuid} {commandType : GestaltCommandType}
    {issuedBy targetAgent : MinStr 2} {rationale : MinStr 8} {payload : Dict Value} :
    (newCommand traceId commandType issuedBy targetAgent rationale payload).Asks may :=
  asks_bind asks_uuid4 fun _ => asks_bind (asks_utcNow _) fun _ => asks_pure _

theorem asks_newMessage {traceId : Uuid} {role : GestaltMessageRole}
    {sender recipient : MinStr 2} {content : MinStr 1} {metadata : Dict Value} :
    (newMessage traceId role sender recipient content metadata).Asks may :=
  asks_bind asks_uuid4 fun _ => asks_bind (asks_utcNow _) fun _ => asks_pure _

theorem asks_newMemory {traceId : Uuid} {memoryKind : MemoryKind} {title : MinStr 3}
    {content : MinStr 1} {tags : List String} {metadata : Dict Value} :
    (newMemory traceId memoryKind title content tags metadata).Asks may :=
  asks_bind asks_uuid4 fun _ => asks_bind (asks_utcNow _) fun _ => asks_pure _

theorem asks_queryPrometheus {query : MinStr 1} : (queryPrometheus rt a query).Asks may :=
  asks_executeAllowed (asks_send (Allowing.plain trivial))

theorem asks_inspectRedisStream {streamName : MinStr 1} {count : Nat} :
    (inspectRedisStream rt a streamName count).Asks may :=
  asks_executeAllowed (asks_send (Allowing.plain trivial))

theorem asks_runSandboxCommand {command cwd : String} {timeoutSeconds : Nat} :
    (runSandboxCommand rt a command cwd timeoutSeconds).Asks may := by
  refine asks_executeAllowed ?_
  unfold sandboxCommand
  dsimp only
  split
  · exact asks_raise _
  · split
    · exact asks_send (Allowing.plain trivial)
    · exact asks_raise _

theorem asks_buildInputMessages {context : AgentContextEnvelope} :
    (buildInputMessages rt a context).Asks may :=
  asks_read_bind fun _ => asks_bind asks_newMessage fun _ => asks_bind asks_newMessage fun _ =>
    asks_pure _

theorem asks_buildExecutionReport {artifacts : AgentArtifacts} {startedAt : Int}
    {status : CommandStatus} :
    (buildExecutionReport a artifacts startedAt status).Asks may := by
  refine asks_read_bind fun state => ?_
  refine asks_bind (asks_utcNow _) fun finishedAt => ?_
  refine asks_bind asks_uuid4 fun reportId => ?_
  split
  · exact asks_pure _
  · exact asks_raise _

theorem asks_recover {startedAt : Int} {e : Exc} : (recover rt a startedAt e).Asks may :=
  asks_bind asks_buildExecutionReport fun _ => asks_read_bind fun _ => asks_pure _

theorem asks_persistOutputs {artifacts : AgentArtifacts}
    (h : ∀ memory ∈ artifacts.memories, may (.call (.writeMemory memory))) :
    (persistOutputs artifacts).Asks may := by
  have hplain : ∀ {c : Call}, Plain (.call c) → (send c).Asks may :=
    fun hc => asks_send (Allowing.plain hc)
  refine asks_bind (asks_forEach fun memory hmem => asks_send (h memory hmem)) fun _ => ?_
  refine asks_bind (asks_forEach fun _ _ => hplain trivial) fun _ => ?_
  refine asks_bind (asks_forEach fun _ _ => hplain trivial) fun _ => ?_
  refine asks_bind (asks_forEach fun _ _ => hplain trivial) fun _ => ?_
  exact asks_forEach fun _ _ => hplain trivial

theorem asks_complete {startedAt : Int} {messages : List GestaltMessage}
    {artifacts : AgentArtifacts}
    (h : ∀ memory ∈ artifacts.memories, may (.call (.writeMemory memory))) :
    (complete a startedAt messages artifacts).Asks may :=
  asks_bind (asks_persistOutputs h) fun _ => asks_bind asks_buildExecutionReport fun _ =>
    asks_read_bind fun _ => asks_pure _

end Services

/-! ## the agents -/

section Agents

variable {rt : Runtime} {context : AgentContextEnvelope} {may : ServiceOp → Prop}

theorem Permits.queryBlackboard {a : AgentName} (h : Permits rt a may) {query : MinStr 1}
    {limit : Nat} {in_range : decide (1 ≤ limit ∧ limit ≤ 100) = true} :
    (queryBlackboard rt a query limit in_range).Asks may :=
  asks_executeAllowed (asks_send (h.query _))

theorem Permits.monitor (h : Permits rt .monitor may) :
    (Monitor.produceArtifacts rt context).Asks may := by
  have := h.toAllowing
  refine asks_read_bind fun state => ?_
  refine asks_bind asks_queryPrometheus fun queue => ?_
  refine asks_bind asks_queryPrometheus fun latency => ?_
  refine asks_bind asks_queryPrometheus fun errorRatio => ?_
  refine asks_bind (asks_ofExcept _) fun snapshot => ?_
  refine asks_bind (asks_utcNow _) fun updatedAt => ?_
  refine asks_bind (asks_completeStructured h.completion) fun reasoning => ?_
  refine asks_bind (asks_ofExcept _) fun healthSnapshots => ?_
  refine asks_bind asks_uuid4 fun reportId => ?_
  refine asks_bind (asks_utcNow _) fun capturedAt => ?_
  refine asks_bind (asks_ofExcept _) fun report => ?_
  refine asks_bind (asks_appendIf asks_newCommand) fun optimize => ?_
  refine asks_bind (asks_appendIf asks_newCommand) fun audit => ?_
  exact asks_bind asks_newMemory fun memory => asks_pure _

theorem Permits.analyzer (h : Permits rt .analyzer may) :
    (Analyzer.produceArtifacts rt context).Asks may := by
  have := h.toAllowing
  refine asks_read_bind fun state => ?_
  refine asks_bind h.queryBlackboard fun result => ?_
  refine asks_bind asks_queryPrometheus fun latency => ?_
  refine asks_bind (asks_completeStructured h.completion) fun reasoning => ?_
  refine asks_bind asks_newCommand fun command => ?_
  exact asks_bind asks_newMemory fun memory => asks_pure _

theorem Permits.plannerExecutor (h : Permits rt .plannerExecutor may) :
    (PlannerExecutor.produceArtifacts rt context).Asks may := by
  have := h.toAllowing
  refine asks_read_bind fun state => ?_
  refine asks_bind asks_runSandboxCommand fun result => ?_
  refine asks_bind (asks_completeStructured h.completion) fun reasoning => ?_
  refine asks_bind asks_newMemory fun memory => ?_
  exact asks_bind (asks_appendIf asks_newCommand) fun commands => asks_pure _

theorem Permits.optimizer (h : Permits rt .optimizer may) :
    (Optimizer.produceArtifacts rt context).Asks may := by
  have := h.toAllowing
  refine asks_read_bind fun state => ?_
  refine asks_bind h.queryBlackboard fun history => ?_
  refine asks_bind asks_queryPrometheus fun latency => ?_
  refine asks_bind (asks_completeStructured h.completion) fun reasoning => ?_
  refine asks_bind asks_uuid4 fun proposalId => ?_
  refine asks_bind (asks_utcNow _) fun proposedAt => ?_
  exact asks_bind asks_newMemory fun memory => asks_pure _

theorem asks_linkLineage [Allowing may] {found : List BlackboardMemoryRecord} {target : Uuid}
    (h : ∀ relations, may (.call (.linkEntities relations))) :
    (Knowledge.linkLineage rt found target).Asks may := by
  cases found with
  | nil => exact asks_pure _
  | cons record rest => exact asks_bind asks_uuid4 fun _ => asks_send (h _)

theorem Permits.knowledge (h : Permits rt .knowledge may) :
    (Knowledge.produceArtifacts rt context).Asks may := by
  have := h.toAllowing
  refine asks_read_bind fun state => ?_
  refine asks_bind h.queryBlackboard fun result => ?_
  refine asks_bind (asks_completeStructured h.completion) fun reasoning => ?_
  refine asks_bind asks_newMemory fun memory => ?_
  exact asks_bind (asks_linkLineage (h.link rfl)) fun _ => asks_pure _

theorem asks_auditFindings [Allowing may] {state : GestaltGraphState} {errorRatio : Rat} :
    (SecurityAudit.auditFindings rt state errorRatio).Asks may := by
  have hfinding {build : Uuid → AuditFinding} :
      (uuid4 >>= fun findingId => (pure (build findingId) : Action AuditFinding)).Asks may :=
    asks_bind asks_uuid4 fun _ => asks_pure _
  refine asks_bind (asks_appendIf (asks_bind asks_uuid4 fun _ => hfinding)) fun failures => ?_
  refine asks_bind (asks_appendIf hfinding) fun errors => ?_
  exact asks_bind (asks_appendIf hfinding) fun history => asks_pure _

theorem Permits.securityAudit (h : Permits rt .securityAudit may) :
    (SecurityAudit.produceArtifacts rt context).Asks may := by
  have := h.toAllowing
  refine asks_read_bind fun state => ?_
  refine asks_bind h.queryBlackboard fun result => ?_
  refine asks_bind asks_inspectRedisStream fun entries => ?_
  refine asks_bind asks_queryPrometheus fun errorRatio => ?_
  refine asks_bind asks_auditFindings fun findings => ?_
  refine asks_bind (asks_completeStructured h.completion) fun reasoning => ?_
  refine asks_bind (asks_appendIf asks_newCommand) fun commands => ?_
  refine asks_bind asks_uuid4 fun reportId => ?_
  refine asks_bind (asks_utcNow _) fun reportedAt => ?_
  exact asks_bind asks_newMemory fun memory => asks_pure _

theorem asks_issuePeerApproval [Allowing may] {targetAgent : Value} {rationale : MinStr 8} :
    (Orchestrator.issuePeerApproval rt targetAgent rationale).Asks may := by
  refine asks_read_bind fun state => ?_
  refine asks_bind (asks_utcNow _) fun now => ?_
  have happroval {expiresAt : Int} :
      (Orchestrator.newApproval state.traceId targetAgent rationale expiresAt).Asks may := by
    refine asks_bind (asks_ofExcept _) fun target => ?_
    refine asks_bind (asks_utcNow _) fun checkedAt => ?_
    split
    · exact asks_raise _
    · exact asks_bind asks_uuid4 fun approvalId => asks_pure _
  refine asks_bind happroval fun approval => ?_
  refine asks_bind (asks_send (Allowing.plain trivial)) fun _ => ?_
  exact asks_bind (asks_modify _) fun _ => asks_pure _

theorem Permits.dispatch (h : Permits rt .orchestrator may) {nextAgent : Value}
    {rest : List Value} : (Orchestrator.dispatch rt context nextAgent rest).Asks may := by
  have := h.toAllowing
  refine asks_read_bind fun state => ?_
  refine asks_bind (asks_completeStructured h.completion) fun reasoning => ?_
  refine asks_bind asks_issuePeerApproval fun _ => ?_
  refine asks_bind (asks_ofExcept _) fun recipient => ?_
  refine asks_bind asks_newMessage fun message => ?_
  split
  · exact asks_raise _
  · exact asks_pure _

theorem asks_finalize [Allowing may] : (Orchestrator.finalize rt).Asks may := by
  have hcohesion : (Orchestrator.evaluateCohesion rt).Asks may :=
    asks_read_bind fun _ => asks_bind (asks_send (Allowing.plain trivial)) fun _ => asks_pure _
  refine asks_read_bind fun state => ?_
  refine asks_bind hcohesion fun cohesionScore => ?_
  refine asks_bind (asks_ofExcept _) fun securityRiskScore => ?_
  refine asks_bind asks_uuid4 fun cycleId => ?_
  exact asks_bind (asks_utcNow _) fun producedAt => asks_pure _

theorem Permits.orchestrator (h : Permits rt .orchestrator may) :
    (Orchestrator.produceArtifacts rt context).Asks may := by
  have := h.toAllowing
  refine asks_read_bind fun state => ?_
  split
  · exact asks_raise _
  · exact asks_finalize
  · exact h.dispatch

/-- **What an invocation asks.** -/
theorem Permits.run {node : AgentName} (h : Permits rt node may) :
    (run rt (agentAt rt node)).Asks may := by
  have := h.toAllowing
  have hbuilds : ∀ context, ((agentAt rt node).produceArtifacts context).Asks may := by
    intro context
    cases node with
    | orchestrator => exact h.orchestrator
    | monitor => exact h.monitor
    | analyzer => exact h.analyzer
    | plannerExecutor => exact h.plannerExecutor
    | optimizer => exact h.optimizer
    | knowledge => exact h.knowledge
    | securityAudit => exact h.securityAudit
  refine asks_bind (asks_utcNow _) fun startedAt => asks_tryCatch ?_ fun e => asks_recover
  refine asks_bind (asks_prepareContext h.query) fun context => ?_
  refine asks_bind asks_runAlignmentChecks fun _ => ?_
  refine asks_bind asks_buildInputMessages fun messages => ?_
  exact asks_bind (hbuilds context) fun artifacts => asks_complete fun _ _ => h.write _

/-- **Only the knowledge agent links.** -/
theorem unlinked_run {node : AgentName} (hnode : node ≠ .knowledge) :
    (run rt (agentAt rt node)).Asks Unlinked :=
  Permits.run {
    toAllowing := inferInstance
    completion := fun _ => trivial
    query := fun _ => trivial
    write := fun _ => trivial
    link := fun hknowledge => absurd hknowledge hnode }

end Agents

end Gestalt
