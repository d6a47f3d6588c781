import Gestalt.Agents.Forms
import Gestalt.Library.Fresh

/-!
# Gestalt.Agents.Identifiers

The identifiers of what the agents produce.

Every record gets an identifier of its own from `uuid4` when it is built, and a
builder never builds two records from one draw: the identifiers of the artifacts
are among those drawn, each as often as it was drawn.
-/

namespace Gestalt

open Effects Program

/-! ## identifiers -/

/-- The identifiers an event hands out. -/
def drawnIds : Event Services → List Uuid
  | ⟨.uuid4, id⟩ => [id]
  | _ => []

/-- The identifiers of a finding and of its instructions. -/
def AuditFinding.ids (finding : AuditFinding) : Multiset Uuid :=
  {finding.findingId} + ↑(finding.remediation.map RemediationInstruction.instructionId)

/-- The identifiers of an audit report and of its findings.  Its commands are
among the commands of the invocation. -/
def GestaltAuditReport.ids (report : GestaltAuditReport) : Multiset Uuid :=
  {report.reportId} + (report.findings.map AuditFinding.ids).sum

/-- The identifiers of the records in the artifacts. -/
def AgentArtifacts.ids (art : AgentArtifacts) : Multiset Uuid :=
  ↑(art.messages.map GestaltMessage.messageId) +
    ↑(art.commands.map GestaltCommand.commandId) +
    ↑(art.memories.map BlackboardMemoryRecord.recordId) +
    ↑(art.optimizationProposals.map OptimizationProposal.proposalId) +
    ↑(art.statsReport.toList.map GestaltStatsReport.reportId) +
    (art.auditReport.toList.map GestaltAuditReport.ids).sum +
    ↑(art.latestSummary.toList.map GestaltSummary.cycleId)

/-- The identifiers of the records in a state.  The commands and memories a
report lists are those of the state. -/
def GestaltGraphState.ids (s : GestaltGraphState) : Multiset Uuid :=
  ↑(s.messages.map GestaltMessage.messageId) +
    ↑(s.commands.map GestaltCommand.commandId) +
    ↑(s.memories.map BlackboardMemoryRecord.recordId) +
    ↑(s.optimizationProposals.map OptimizationProposal.proposalId) +
    ↑(s.executionReports.map AgentExecutionReport.reportId) +
    (s.auditReports.map GestaltAuditReport.ids).sum +
    ↑(s.latestSummary.toList.map GestaltSummary.cycleId) +
    ↑(s.approvals.map EventApproval.approvalId)

/-- The primary key of a row. -/
def Row.key : Row → Uuid
  | .memory written => written.recordId
  | .command written => written.commandId
  | .statsReport written => written.reportId
  | .auditReport written => written.reportId
  | .proposal written => written.proposalId

/-- The keys of the artifacts are identifiers of theirs. -/
theorem AgentArtifacts.keys_rows_le (art : AgentArtifacts) :
    ↑(art.rows.map Row.key) ≤ art.ids := by
  have hreport : (↑(art.auditReport.toList.map GestaltAuditReport.reportId) : Multiset Uuid) ≤
      (art.auditReport.toList.map GestaltAuditReport.ids).sum := by
    cases art.auditReport with
    | none => simp
    | some report => simp [GestaltAuditReport.ids]
  calc (↑(art.rows.map Row.key) : Multiset Uuid) =
        ↑(art.memories.map BlackboardMemoryRecord.recordId) +
        (↑(art.commands.map GestaltCommand.commandId) +
        (↑(art.statsReport.toList.map GestaltStatsReport.reportId) +
        (↑(art.auditReport.toList.map GestaltAuditReport.reportId) +
        ↑(art.optimizationProposals.map OptimizationProposal.proposalId)))) := by
        simp [AgentArtifacts.rows, Row.key, Function.comp_def, ← Multiset.coe_add]
    _ ≤ ↑(art.memories.map BlackboardMemoryRecord.recordId) +
        (↑(art.commands.map GestaltCommand.commandId) +
        (↑(art.statsReport.toList.map GestaltStatsReport.reportId) +
        ((art.auditReport.toList.map GestaltAuditReport.ids).sum +
        ↑(art.optimizationProposals.map OptimizationProposal.proposalId)))) := by
        gcongr
    _ ≤ _ := Multiset.le_add_right _ (↑(art.messages.map GestaltMessage.messageId) +
        ↑(art.latestSummary.toList.map GestaltSummary.cycleId))
    _ = art.ids := by
        rw [AgentArtifacts.ids]
        abel

/-- A merge adds the identifiers of what is merged. -/
theorem ids_applyStateUpdate_le (s : GestaltGraphState) (messages : List GestaltMessage)
    (art : AgentArtifacts) (report : AgentExecutionReport) :
    (applyStateUpdate s (messages ++ art.messages) art report).ids ≤
      s.ids + ↑(messages.map GestaltMessage.messageId) + art.ids + {report.reportId} := by
  -- an earlier summary is replaced
  have hsummary : (↑((art.latestSummary.or s.latestSummary).toList.map
        GestaltSummary.cycleId) : Multiset Uuid) ≤
      ↑(s.latestSummary.toList.map GestaltSummary.cycleId) +
        ↑(art.latestSummary.toList.map GestaltSummary.cycleId) := by
    cases art.latestSummary with
    | none => simp
    | some summary => exact Multiset.le_add_left _ _
  refine Multiset.le_iff_count.mpr fun id => ?_
  have hcount := Multiset.count_le_of_le id hsummary
  simp only [applyStateUpdate, GestaltGraphState.ids, AgentArtifacts.ids, List.map_append,
    List.sum_append, ← Multiset.coe_add, List.map_cons, List.map_nil, Multiset.coe_singleton,
    Multiset.count_add] at hcount ⊢
  omega

@[simp] theorem ids_failureArtifacts (rt : Runtime) (a : AgentName) (e : Exc) :
    (failureArtifacts rt a e).ids = 0 := rfl

/-! ## what the builders spend -/

section Builders

variable {held : Multiset Uuid} {s : GestaltGraphState} {rt : Runtime}
variable {context : AgentContextEnvelope}

/-- The names the program gives are identifiers it held or drew. -/
abbrev Spends {α : Type} (held : Multiset Uuid) (s : GestaltGraphState) (p : Action α)
    (names : α → Multiset Uuid) : Prop :=
  Mints drawnIds GestaltGraphState.ids held s p names

theorem spends_steady {α : Type} {p : Action α} {ok : α → Prop} (h : Yields s p ok) :
    Spends held s p fun _ => held :=
  mints_of_steady h fun _ _ => le_rfl

theorem spends_validated {α : Type} (x : Except Exc α) :
    Spends held s (Program.ofExcept x) fun _ => held :=
  spends_steady (steady_validated x)

theorem spends_uuid4 : Spends held s uuid4 fun id => {id} + held :=
  mints_query fun id => by rw [drawnIds, Multiset.coe_singleton, add_comm]

theorem spends_utcNow (site : ClockSite) : Spends held s (utcNow site) fun _ => held :=
  spends_steady (steady_utcNow site)

theorem spends_newCommand {traceId : Uuid} {commandType : GestaltCommandType}
    {issuedBy targetAgent : MinStr 2} {rationale : MinStr 8} {payload : Dict Value} :
    Spends held s (newCommand traceId commandType issuedBy targetAgent rationale payload)
      fun command => {command.commandId} + held :=
  mints_bind spends_uuid4 fun _ _ => mints_bind (spends_utcNow _) fun _ _ => mints_pure le_rfl

theorem spends_newMemory {traceId : Uuid} {memoryKind : MemoryKind} {title : MinStr 3}
    {content : MinStr 1} {tags : List String} {metadata : Dict Value} :
    Spends held s (newMemory traceId memoryKind title content tags metadata)
      fun memory => {memory.recordId} + held :=
  mints_bind spends_uuid4 fun _ _ => mints_bind (spends_utcNow _) fun _ _ => mints_pure le_rfl

theorem spends_newMessage {traceId : Uuid} {role : GestaltMessageRole}
    {sender recipient : MinStr 2} {content : MinStr 1} {metadata : Dict Value} :
    Spends held s (newMessage traceId role sender recipient content metadata)
      fun message => {message.messageId} + held :=
  mints_bind spends_uuid4 fun _ _ => mints_bind (spends_utcNow _) fun _ _ => mints_pure le_rfl

/-- At most one item is built. -/
theorem spends_appendIf {α : Type} {condition : Bool} {build : Action α}
    {names : α → Multiset Uuid} (h : Spends held s build fun item => names item + held) :
    Spends held s (appendIf condition build) fun items => (items.map names).sum + held := by
  unfold appendIf
  split
  · exact mints_bind h fun item _ => mints_pure (by simp)
  · exact mints_pure (by simp)

/-- At most one command is issued. -/
theorem spends_appendCommand {condition : Bool} {traceId : Uuid}
    {commandType : GestaltCommandType} {issuedBy targetAgent : MinStr 2} {rationale : MinStr 8}
    {payload : Dict Value} :
    Spends held s (appendIf condition
        (newCommand traceId commandType issuedBy targetAgent rationale payload))
      fun commands => ↑(commands.map GestaltCommand.commandId) + held :=
  (spends_appendIf spends_newCommand).mono fun commands => by
    rw [sum_map_singleton]

theorem spends_queryPrometheus {a : AgentName} {query : MinStr 1} :
    Spends held s (queryPrometheus rt a query) fun _ => held :=
  spends_steady (steady_queryPrometheus (covers_true _) fun _ => trivial)

theorem spends_queryBlackboard {a : AgentName} {query : MinStr 1} {limit : Nat}
    {in_range : decide (1 ≤ limit ∧ limit ≤ 100) = true} :
    Spends held s (queryBlackboard rt a query limit in_range) fun _ => held :=
  spends_steady (steady_queryBlackboard (covers_true _) fun _ => trivial)

theorem spends_completeStructured {a : AgentName} {userPrompt : String}
    {responseModel : ResponseModel} {stats : GestaltStats}
    {mock : Except Exc responseModel.Reply} :
    Spends held s (completeStructured rt a userPrompt responseModel stats mock) fun _ => held :=
  spends_steady (steady_completeStructured (covers_true _).completions fun _ _ _ => trivial)

/-- A stats report has the identifier it was given. -/
theorem spends_statsReport {traceId reportId : Uuid} {capturedAt : Int} {stats : GestaltStats}
    {snapshot : MonitorSnapshot} {agentHealth : List AgentHealthSnapshot} :
    Spends ({reportId} + held) s (Program.ofExcept
        (Monitor.statsReport traceId reportId capturedAt stats snapshot agentHealth))
      fun report => {report.reportId} + held := by
  have hreport : Yields s (Program.ofExcept
      (Monitor.statsReport traceId reportId capturedAt stats snapshot agentHealth)) _ :=
    steady_validated _
  refine mints_of_steady hreport fun report h => ?_
  -- six fields are validated before the report is built
  obtain ⟨_, -, h⟩ := Codec.exists_of_bind_eq_ok h
  obtain ⟨_, -, h⟩ := Codec.exists_of_bind_eq_ok h
  obtain ⟨_, -, h⟩ := Codec.exists_of_bind_eq_ok h
  obtain ⟨_, -, h⟩ := Codec.exists_of_bind_eq_ok h
  obtain ⟨_, -, h⟩ := Codec.exists_of_bind_eq_ok h
  obtain ⟨_, -, h⟩ := Codec.exists_of_bind_eq_ok h
  rw [← Except.ok.inj h]

theorem spends_monitor :
    Spends 0 s (Monitor.produceArtifacts rt context) AgentArtifacts.ids := by
  refine mints_read_bind ?_
  refine mints_bind spends_queryPrometheus fun queue s => ?_
  refine mints_bind spends_queryPrometheus fun latency s => ?_
  refine mints_bind spends_queryPrometheus fun errorRatio s => ?_
  refine mints_bind (spends_validated _) fun snapshot s => ?_
  refine mints_bind (spends_utcNow _) fun updatedAt s => ?_
  refine mints_bind spends_completeStructured fun reasoning s => ?_
  refine mints_bind (spends_validated _) fun healthSnapshots s => ?_
  refine mints_bind spends_uuid4 fun reportId s => ?_
  refine mints_bind (spends_utcNow _) fun capturedAt s => ?_
  refine mints_bind spends_statsReport fun report s => ?_
  refine mints_bind spends_appendCommand fun optimizeCommands s => ?_
  refine mints_bind spends_appendCommand fun auditCommands s => ?_
  refine mints_bind spends_newMemory fun memory s => ?_
  refine mints_pure (le_of_eq ?_)
  simp only [AgentArtifacts.ids, List.map_append, List.map_cons, List.map_nil, List.sum_nil,
    Option.toList_none, Option.toList_some, ← Multiset.coe_add, Multiset.coe_nil,
    Multiset.coe_singleton]
  abel

theorem spends_analyzer :
    Spends 0 s (Analyzer.produceArtifacts rt context) AgentArtifacts.ids := by
  refine mints_read_bind ?_
  refine mints_bind spends_queryBlackboard fun result s => ?_
  refine mints_bind spends_queryPrometheus fun latency s => ?_
  refine mints_bind spends_completeStructured fun reasoning s => ?_
  refine mints_bind spends_newCommand fun command s => ?_
  refine mints_bind spends_newMemory fun memory s => ?_
  refine mints_pure (le_of_eq ?_)
  simp only [AgentArtifacts.ids, List.map_cons, List.map_nil, List.sum_nil, Option.toList_none,
    Multiset.coe_nil, Multiset.coe_singleton]
  abel

theorem spends_plannerExecutor :
    Spends 0 s (PlannerExecutor.produceArtifacts rt context) AgentArtifacts.ids := by
  refine mints_read_bind ?_
  refine mints_bind (spends_steady (steady_runSandboxCommand fun _ _ => trivial))
    fun result s => ?_
  refine mints_bind spends_completeStructured fun reasoning s => ?_
  refine mints_bind spends_newMemory fun memory s => ?_
  refine mints_bind spends_appendCommand fun commands s => ?_
  refine mints_pure (le_of_eq ?_)
  simp only [AgentArtifacts.ids, List.map_cons, List.map_nil, List.sum_nil, Option.toList_none,
    Multiset.coe_nil, Multiset.coe_singleton]
  abel

theorem spends_optimizer :
    Spends 0 s (Optimizer.produceArtifacts rt context) AgentArtifacts.ids := by
  refine mints_read_bind ?_
  refine mints_bind spends_queryBlackboard fun history s => ?_
  refine mints_bind spends_queryPrometheus fun latency s => ?_
  refine mints_bind spends_completeStructured fun reasoning s => ?_
  refine mints_bind spends_uuid4 fun proposalId s => ?_
  refine mints_bind (spends_utcNow _) fun proposedAt s => ?_
  refine mints_bind spends_newMemory fun memory s => ?_
  refine mints_pure (le_of_eq ?_)
  simp only [AgentArtifacts.ids, List.map_cons, List.map_nil, List.sum_nil, Option.toList_none,
    Multiset.coe_nil, Multiset.coe_singleton]
  abel

theorem spends_knowledge :
    Spends 0 s (Knowledge.produceArtifacts rt context) AgentArtifacts.ids := by
  refine mints_read_bind ?_
  refine mints_bind spends_queryBlackboard fun result s => ?_
  refine mints_bind spends_completeStructured fun reasoning s => ?_
  refine mints_bind spends_newMemory fun memory s => ?_
  refine mints_bind (spends_steady steady_linkLineage) fun _ s => ?_
  refine mints_pure (le_of_eq ?_)
  simp only [AgentArtifacts.ids, List.map_cons, List.map_nil, List.sum_nil, Option.toList_none,
    Multiset.coe_nil, Multiset.coe_singleton]
  abel

theorem spends_auditFindings {errorRatio : Rat} {state : GestaltGraphState} :
    Spends held s (SecurityAudit.auditFindings rt state errorRatio)
      fun findings => (findings.map AuditFinding.ids).sum + held := by
  have hfinding : ∀ {held s} (build : Uuid → AuditFinding), (∀ id, (build id).ids = {id}) →
      Spends held s (do let id ← uuid4; return build id) fun finding => finding.ids + held :=
    fun build hids => mints_bind spends_uuid4 fun id _ => mints_pure (by rw [hids])
  have hfailure : ∀ {lastError}, Spends held s (do
      let instructionId ← uuid4
      let findingId ← uuid4
      return SecurityAudit.failureFinding findingId instructionId lastError)
      fun finding => finding.ids + held := by
    intro lastError
    refine mints_bind spends_uuid4 fun instructionId s => ?_
    refine mints_bind spends_uuid4 fun findingId s => ?_
    refine mints_pure (le_of_eq ?_)
    rw [← add_assoc]
    rfl
  refine mints_bind (spends_appendIf hfailure) fun failures s => ?_
  refine mints_bind (spends_appendIf (hfinding _ fun _ => rfl)) fun errors s => ?_
  refine mints_bind (spends_appendIf (hfinding _ fun _ => rfl)) fun history s => ?_
  refine mints_pure (le_of_eq ?_)
  simp only [List.map_append, List.sum_append]
  abel

theorem spends_securityAudit :
    Spends 0 s (SecurityAudit.produceArtifacts rt context) AgentArtifacts.ids := by
  refine mints_read_bind ?_
  refine mints_bind spends_queryBlackboard fun result s => ?_
  refine mints_bind (spends_steady (steady_inspectRedisStream (covers_true _) fun _ => trivial))
    fun entries s => ?_
  refine mints_bind spends_queryPrometheus fun errorRatio s => ?_
  refine mints_bind spends_auditFindings fun findings s => ?_
  refine mints_bind spends_completeStructured fun reasoning s => ?_
  refine mints_bind spends_appendCommand fun commands s => ?_
  refine mints_bind spends_uuid4 fun reportId s => ?_
  refine mints_bind (spends_utcNow _) fun reportedAt s => ?_
  refine mints_bind spends_newMemory fun memory s => ?_
  refine mints_pure (le_of_eq ?_)
  simp only [AgentArtifacts.ids, GestaltAuditReport.ids, List.map_cons, List.map_nil,
    List.sum_cons, List.sum_nil, Option.toList_none, Option.toList_some, Multiset.coe_nil,
    Multiset.coe_singleton]
  abel

/-- An approval is named when it is built, and kept in the state object. -/
theorem spends_issuePeerApproval {target : Value} {rationale : MinStr 8} :
    Spends held s (Orchestrator.issuePeerApproval rt target rationale) fun _ => held := by
  have hnew : ∀ {s traceId expiresAt}, Spends held s
      (Orchestrator.newApproval traceId target rationale expiresAt)
      fun approval => {approval.approvalId} + held := by
    intro s traceId expiresAt
    refine mints_bind (spends_validated _) fun target s => ?_
    refine mints_bind (spends_utcNow _) fun now s => ?_
    split
    · exact mints_raise
    · exact mints_bind spends_uuid4 fun approvalId s => mints_pure le_rfl
  refine mints_read_bind ?_
  refine mints_bind (spends_utcNow _) fun now s => ?_
  refine mints_bind hnew fun approval s => ?_
  refine mints_bind (spends_steady (steady_send (fun _ _ => trivial) fun _ => trivial))
    fun _ s => ?_
  have hkept : Spends ({approval.approvalId} + held) s (Program.modify fun state =>
      { state with approvals := state.approvals ++ [approval] }) fun _ => held := by
    refine mints_modify (le_of_eq ?_)
    simp only [GestaltGraphState.ids, List.map_append, List.map_cons, List.map_nil,
      ← Multiset.coe_add, Multiset.coe_singleton]
    abel
  exact mints_bind hkept fun _ s => mints_pure le_rfl

theorem spends_orchestrator :
    Spends 0 s (Orchestrator.produceArtifacts rt context) AgentArtifacts.ids := by
  refine mints_read_bind ?_
  split
  · exact mints_raise
  · -- the cycle is closed
    refine mints_read_bind ?_
    refine mints_bind (spends_steady (Orchestrator.steady_evaluateCohesion (covers_true _)))
      fun score s => ?_
    refine mints_bind (spends_validated _) fun risk s => ?_
    refine mints_bind spends_uuid4 fun cycleId s => ?_
    refine mints_bind (spends_utcNow _) fun producedAt s => ?_
    refine mints_pure (le_of_eq ?_)
    simp only [AgentArtifacts.ids, List.map_cons, List.map_nil, List.sum_nil, Option.toList_none,
      Option.toList_some, Multiset.coe_nil, Multiset.coe_singleton]
    abel
  · -- the head of the plan is dispatched
    refine mints_read_bind ?_
    refine mints_bind spends_completeStructured fun reasoning s => ?_
    refine mints_bind spends_issuePeerApproval fun approval s => ?_
    refine mints_bind (spends_validated _) fun recipient s => ?_
    refine mints_bind spends_newMessage fun message s => ?_
    split
    · exact mints_raise
    · refine mints_pure (le_of_eq ?_)
      simp only [AgentArtifacts.ids, List.map_cons, List.map_nil, List.sum_nil,
        Option.toList_none, Multiset.coe_nil, Multiset.coe_singleton]
      abel

/-- The two messages an invocation begins with. -/
theorem spends_buildInputMessages {a : AgentName} :
    Spends 0 s (buildInputMessages rt a context)
      fun messages => ↑(messages.map GestaltMessage.messageId) := by
  refine mints_read_bind ?_
  refine mints_bind spends_newMessage fun system s => ?_
  refine mints_bind spends_newMessage fun task s => ?_
  exact mints_pure (le_of_eq (Multiset.cons_swap system.messageId task.messageId 0))

/-- **No builder uses an identifier twice.** -/
theorem spends_builder (rt : Runtime) (node : AgentName) (context : AgentContextEnvelope)
    (s : GestaltGraphState) :
    Spends 0 s ((agentAt rt node).produceArtifacts context) AgentArtifacts.ids := by
  cases node with
  | orchestrator => exact spends_orchestrator
  | monitor => exact spends_monitor
  | analyzer => exact spends_analyzer
  | plannerExecutor => exact spends_plannerExecutor
  | optimizer => exact spends_optimizer
  | knowledge => exact spends_knowledge
  | securityAudit => exact spends_securityAudit

end Builders

end Gestalt
