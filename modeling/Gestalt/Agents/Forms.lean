import Gestalt.Agents.Spec
import Gestalt.BaseAgent.Persistence
import Gestalt.Graph.Visit

/-!
# Gestalt.Agents.Forms

The form of what the agents produce.

Each specialist leaves one memory of its own kind, whose content is the summary
it reports, and issues commands under its own name, of a few shapes only.  Stats
reports, audit reports and proposals come from one agent each, and the
orchestrator produces none of all these.
-/

namespace Gestalt

open Effects Program

/-! ## commands and memories -/

/-- The category, the target and the keys of the payload of a command. -/
structure CommandShape where
  commandType : GestaltCommandType
  target : String
  keys : List String
  deriving DecidableEq, Repr

/-- The shape of a command. -/
def GestaltCommand.shape (command : GestaltCommand) : CommandShape :=
  ⟨command.commandType, command.targetAgent.val, command.payload.map Prod.fst⟩

/-- The specialists the mock payload of the analyzer recommends. -/
def mockTargets : List String := ["security_audit", "knowledge", "optimizer", "planner_executor"]

/-- The shapes of the commands an agent issues. -/
def Issues (rt : Runtime) : AgentName → CommandShape → Prop
  | .monitor, shape => shape = ⟨.optimize, "optimizer", ["stats"]⟩ ∨
      shape = ⟨.audit, "security_audit", ["reason"]⟩
  | .analyzer, shape =>
      shape = ⟨Analyzer.commandType shape.target, shape.target, ["diagnosis", "latency_p95_ms"]⟩ ∧
      3 ≤ shape.target.length ∧
      (rt.settings.models.enableMockLlm = true → shape.target ∈ mockTargets)
  | .plannerExecutor, shape => shape = ⟨.analyze, "analyzer", ["stdout"]⟩
  | .securityAudit, shape =>
      shape = ⟨.remediate, "orchestrator", ["finding_count", "risk_score"]⟩
  | _, _ => False

/-- A command as the agent issues it. -/
structure IssuedBy (rt : Runtime) (a : AgentName) (command : GestaltCommand) : Prop where
  issuedBy : command.issuedBy = a.field
  shape : Issues rt a command.shape
  causation : command.causationId = none
  confidence : command.confidence = .medium
  pending : command.status = .pending

/-- The kind and the title of the memory an agent leaves. -/
def AgentName.note : AgentName → Option (MemoryKind × String)
  | .orchestrator => none
  | .monitor => some (.stats, "Monitor telemetry snapshot")
  | .analyzer => some (.fact, "Analyzer diagnosis")
  | .plannerExecutor => some (.execution, "Planner execution result")
  | .optimizer => some (.optimization, "Optimizer recommendation")
  | .knowledge => some (.knowledge, "Curated Gestalt knowledge artifact")
  | .securityAudit => some (.audit, "Security audit report summary")

/-- The metadata of the memory an agent leaves. -/
inductive Annotates : AgentName → Dict Value → Prop where
  | monitor (queueDepth : Int) (p95LatencyMs errorRate : Rat) :
      Annotates .monitor [("queue_depth", .int queueDepth),
        ("p95_latency_ms", .float p95LatencyMs), ("error_rate", .float errorRate)]
  | analyzer (matchedRecords : Int) :
      Annotates .analyzer [("matched_records", .int matchedRecords)]
  | plannerExecutor (returnCode : Int) (stdout stderr : String) :
      Annotates .plannerExecutor [("return_code", .int returnCode), ("stdout", .str stdout),
        ("stderr", .str stderr)]
  | optimizer (historicalMatches : Int) :
      Annotates .optimizer [("historical_matches", .int historicalMatches)]
  | knowledge (sourceTitles : List String) :
      Annotates .knowledge [("source_titles", .list (sourceTitles.map .str))]
  | securityAudit (findingCount relatedMemories : Int) :
      Annotates .securityAudit [("finding_count", .int findingCount),
        ("related_memories", .int relatedMemories)]

/-- A memory as the agent leaves it, with the content `text`. -/
structure NotedBy (a : AgentName) (text : String) (memory : BlackboardMemoryRecord) : Prop where
  note : a.note = some (memory.memoryKind, memory.title.val)
  content : memory.content.val = text
  embedding : memory.embedding = none
  metadata : Annotates a memory.metadata

theorem NotedBy.self {a : AgentName} {text : String} {memory : BlackboardMemoryRecord}
    (h : NotedBy a text memory) : NotedBy a memory.content.val memory :=
  ⟨h.note, rfl, h.embedding, h.metadata⟩

/-! ## artifacts -/

/-- The artifacts of the agent have the form of its own. -/
structure Formed (rt : Runtime) (a : AgentName) (art : AgentArtifacts) : Prop where
  memories : Appended a.note.isSome (NotedBy a art.summary.val) art.memories
  commands : ∀ command ∈ art.commands, IssuedBy rt a command
  stats : art.statsReport.isSome ↔ a = .monitor
  audit : art.auditReport.isSome ↔ a = .securityAudit
  remediation : ∀ report ∈ art.auditReport, report.remediationCommands = art.commands
  proposals : Appended (decide (a = .optimizer)) (fun _ => True) art.optimizationProposals

/-- A row as the agent writes it to the blackboard. -/
def Row.WrittenBy (rt : Runtime) (a : AgentName) : Row → Prop
  | .memory written => NotedBy a written.content.val written
  | .command written => IssuedBy rt a written
  | .statsReport _ => a = .monitor
  | .auditReport written => a = .securityAudit ∧
      ∀ issued ∈ written.remediationCommands, IssuedBy rt a issued
  | .proposal _ => a = .optimizer

/-- Artifacts in form are rows in form. -/
theorem Formed.rows {rt : Runtime} {a : AgentName} {art : AgentArtifacts} (h : Formed rt a art) :
    ∀ row ∈ art.rows, row.WrittenBy rt a := by
  intro row hrow
  simp only [AgentArtifacts.rows, List.mem_append, List.mem_map, Option.mem_toList] at hrow
  rcases hrow with ⟨memory, hmem, rfl⟩ | ⟨command, hmem, rfl⟩ | ⟨report, hmem, rfl⟩ |
    ⟨report, hmem, rfl⟩ | ⟨proposal, hmem, rfl⟩
  · exact (h.memories.ok_of_mem memory hmem).self
  · exact h.commands command hmem
  · exact h.stats.mp (by simp [hmem])
  · have haudit := h.audit.mp (by simp [hmem])
    refine ⟨haudit, fun command hcommand => ?_⟩
    rw [h.remediation report hmem] at hcommand
    exact h.commands command hcommand
  · have hoptimizer := h.proposals.condition_of_mem hmem
    simpa [Row.WrittenBy] using hoptimizer

/-! ## messages -/

/-- The role, the sender and the recipient of a message. -/
structure Header where
  role : GestaltMessageRole
  sender : String
  recipient : String
  deriving DecidableEq, Repr

/-- The header of a message. -/
def GestaltMessage.header (message : GestaltMessage) : Header :=
  ⟨message.role, message.sender.val, message.recipient.val⟩

/-- The headers of the messages an invocation of the agent opens with. -/
def AgentName.opening (a : AgentName) : List Header :=
  [⟨.system, "system", a.name⟩, ⟨.orchestrator, "orchestrator", a.name⟩]

/-- What the orchestrator says and decides: it announces the specialist it
dispatches, or finalizes the cycle without a word. -/
def Announced (art : AgentArtifacts) : Prop :=
  (∃ a : Specialist, art.decisions = [a.decision] ∧
    art.messages.map GestaltMessage.header = [⟨.orchestrator, "orchestrator", a.name⟩]) ∨
  (art.decisions = [.finalize] ∧ art.messages = [])

/-! ## building blocks -/

section Blocks

variable {s : GestaltGraphState}

/-- A program that leaves the state object alone and, where it returns, returns
what `ok` holds of. -/
abbrev Yields {α : Type} (s : GestaltGraphState) (p : Action α) (ok : α → Prop) : Prop :=
  Steady (fun _ => True) (fun _ => True) True s p ok

theorem yields_any {α : Type} {p : Action α} {ok : α → Prop}
    (h : Yields s p ok) : Yields s p fun _ => True :=
  h.mono fun _ _ => trivial

theorem yields_newCommand (rt : Runtime) (a : AgentName) {traceId : Uuid}
    {commandType : GestaltCommandType}
    {targetAgent : MinStr 2} {rationale : MinStr 8} {payload : Dict Value}
    (h : Issues rt a ⟨commandType, targetAgent.val, payload.map Prod.fst⟩) :
    Yields s (newCommand traceId commandType a.field targetAgent rationale payload)
      (IssuedBy rt a) :=
  steady_bind steady_uuid4 fun _ _ => steady_bind (steady_utcNow _) fun _ _ =>
    steady_pure ⟨rfl, h, rfl, rfl, rfl⟩

theorem yields_newMemory (a : AgentName) {traceId : Uuid} {memoryKind : MemoryKind}
    {title : MinStr 3} {content : MinStr 1} {tags : List String} {metadata : Dict Value}
    (hnote : a.note = some (memoryKind, title.val)) (hmetadata : Annotates a metadata) :
    Yields s (newMemory traceId memoryKind title content tags metadata)
      (NotedBy a content.val) :=
  steady_bind steady_uuid4 fun _ _ => steady_bind (steady_utcNow _) fun _ _ =>
    steady_pure ⟨hnote, rfl, rfl, hmetadata⟩

theorem yields_newMessage {traceId : Uuid} {role : GestaltMessageRole}
    {sender recipient : MinStr 2} {content : MinStr 1} {metadata : Dict Value} :
    Yields s (newMessage traceId role sender recipient content metadata)
      fun message => message.header = ⟨role, sender.val, recipient.val⟩ :=
  steady_bind steady_uuid4 fun _ _ => steady_bind (steady_utcNow _) fun _ _ => steady_pure rfl

theorem yields_buildInputMessages {rt : Runtime} {a : AgentName}
    {context : AgentContextEnvelope} :
    Yields s (buildInputMessages rt a context)
      fun messages => messages.map GestaltMessage.header = a.opening := by
  refine steady_read_bind ?_
  refine steady_bind yields_newMessage fun system hsystem => ?_
  refine steady_bind yields_newMessage fun task htask => ?_
  refine steady_pure ?_
  rw [List.map_cons, List.map_cons, List.map_nil, hsystem, htask]
  rfl

/-- One memory among the artifacts. -/
theorem appended_memory {a : AgentName} {text : String} {memory : BlackboardMemoryRecord}
    (h : NotedBy a text memory) : Appended a.note.isSome (NotedBy a text) [memory] := by
  rw [Appended, h.note, if_pos (by simp)]
  exact ⟨memory, rfl, h⟩

/-- No proposal among the artifacts. -/
theorem appended_nil {a : AgentName} (h : a ≠ .optimizer) :
    Appended (decide (a = .optimizer)) (fun _ : OptimizationProposal => True) [] := by
  simp [Appended, h]

end Blocks

/-! ## the specialists -/

section Specialists

variable {s : GestaltGraphState} {rt : Runtime} {context : AgentContextEnvelope}

theorem yields_monitor : Yields s (Monitor.produceArtifacts rt context) (Formed rt .monitor) := by
  have hcovers := covers_true fun _ => True
  refine steady_read_bind ?_
  refine steady_bind (steady_queryPrometheus hcovers fun _ => trivial) fun queue _ => ?_
  refine steady_bind (steady_queryPrometheus hcovers fun _ => trivial) fun latency _ => ?_
  refine steady_bind (steady_queryPrometheus hcovers fun _ => trivial) fun errorRatio _ => ?_
  refine steady_bind (steady_validated _) fun snapshot _ => ?_
  refine steady_bind (steady_utcNow _) fun updatedAt _ => ?_
  refine steady_bind (steady_completeStructured hcovers.completions fun _ _ _ => trivial)
    fun reasoning _ => ?_
  refine steady_bind (steady_validated _) fun healthSnapshots _ => ?_
  refine steady_bind steady_uuid4 fun reportId _ => ?_
  refine steady_bind (steady_utcNow _) fun capturedAt _ => ?_
  refine steady_bind (steady_validated _) fun report _ => ?_
  refine steady_bind (steady_appendIf (yields_newCommand rt .monitor (Or.inl rfl)))
    fun optimize hoptimize => ?_
  refine steady_bind (steady_appendIf (yields_newCommand rt .monitor (Or.inr rfl)))
    fun audit haudit => ?_
  refine steady_bind (yields_newMemory .monitor rfl (.monitor ..)) fun memory hmemory => ?_
  refine steady_pure ⟨appended_memory hmemory, fun command hmem => ?_, by simp, by simp, by simp,
    appended_nil (by decide)⟩
  rcases List.mem_append.mp hmem with hmem | hmem
  · exact hoptimize.ok_of_mem command hmem
  · exact haudit.ok_of_mem command hmem

/-- Where the gateway mocks, the analyzer recommends a specialist. -/
theorem mem_mockTargets {latency : Rat} {topMatch objective : String} {requiresSecurity : Bool}
    {stats : GestaltStats} {reply : AnalyzerReasoning}
    (h : Replied (fun _ => True) rt .analyzer stats .analyzerReasoning
      (Analyzer.mockReasoning topMatch latency
        (Analyzer.recommendedTarget objective requiresSecurity) requiresSecurity) reply)
    (hmocks : rt.settings.models.enableMockLlm = true) :
    reply.recommendedTarget.val ∈ mockTargets := by
  rcases h with ⟨-, hmock⟩ | ⟨hmocked, -⟩
  · obtain ⟨mock, hreply, htarget⟩ :=
      Analyzer.exists_mockReasoning topMatch latency objective requiresSecurity
    obtain rfl : mock = reply := Except.ok.inj (hreply.symm.trans hmock)
    rw [htarget]
    exact Analyzer.recommendedTarget_mem objective requiresSecurity
  · simp [Runtime.mocks, ModelsConfig.mocks, hmocks] at hmocked

theorem yields_analyzer :
    Yields s (Analyzer.produceArtifacts rt context) (Formed rt .analyzer) := by
  have hcovers := covers_true fun _ => True
  refine steady_read_bind ?_
  refine steady_bind (steady_queryBlackboard hcovers fun _ => trivial) fun result _ => ?_
  refine steady_bind (steady_queryPrometheus hcovers fun _ => trivial) fun latency _ => ?_
  refine steady_bind (steady_completeStructured hcovers.completions fun _ _ _ => trivial)
    fun reasoning hreplied => ?_
  refine steady_bind (yields_newCommand rt .analyzer ?_) fun command hcommand => ?_
  · exact ⟨rfl, reasoning.recommendedTarget.min_length, mem_mockTargets hreplied⟩
  refine steady_bind (yields_newMemory .analyzer rfl (.analyzer _)) fun memory hmemory => ?_
  refine steady_pure ⟨appended_memory hmemory, ?_, by simp, by simp, by simp,
    appended_nil (by decide)⟩
  simpa using hcommand

theorem yields_plannerExecutor :
    Yields s (PlannerExecutor.produceArtifacts rt context) (Formed rt .plannerExecutor) := by
  have hcovers := covers_true fun _ => True
  refine steady_read_bind ?_
  refine steady_bind (steady_runSandboxCommand fun _ _ => trivial) fun result _ => ?_
  refine steady_bind (steady_completeStructured hcovers.completions fun _ _ _ => trivial)
    fun reasoning _ => ?_
  refine steady_bind (yields_newMemory .plannerExecutor rfl (.plannerExecutor ..))
    fun memory hmemory => ?_
  refine steady_bind (steady_appendIf (yields_newCommand rt .plannerExecutor rfl))
    fun commands hcommands => ?_
  exact steady_pure ⟨appended_memory hmemory, hcommands.ok_of_mem, by simp, by simp, by simp,
    appended_nil (by decide)⟩

theorem yields_optimizer :
    Yields s (Optimizer.produceArtifacts rt context) (Formed rt .optimizer) := by
  have hcovers := covers_true fun _ => True
  refine steady_read_bind ?_
  refine steady_bind (steady_queryBlackboard hcovers fun _ => trivial) fun history _ => ?_
  refine steady_bind (steady_queryPrometheus hcovers fun _ => trivial) fun latency _ => ?_
  refine steady_bind (steady_completeStructured hcovers.completions fun _ _ _ => trivial)
    fun reasoning _ => ?_
  refine steady_bind steady_uuid4 fun proposalId _ => ?_
  refine steady_bind (steady_utcNow _) fun proposedAt _ => ?_
  refine steady_bind (yields_newMemory .optimizer rfl (.optimizer _)) fun memory hmemory => ?_
  exact steady_pure ⟨appended_memory hmemory, by simp, by simp, by simp, by simp, ⟨_, rfl, trivial⟩⟩

theorem yields_knowledge :
    Yields s (Knowledge.produceArtifacts rt context) (Formed rt .knowledge) := by
  have hcovers := covers_true fun _ => True
  refine steady_read_bind ?_
  refine steady_bind (steady_queryBlackboard hcovers fun _ => trivial) fun result _ => ?_
  refine steady_bind (steady_completeStructured hcovers.completions fun _ _ _ => trivial)
    fun reasoning _ => ?_
  refine steady_bind (yields_newMemory .knowledge rfl (.knowledge _)) fun memory hmemory => ?_
  refine steady_bind steady_linkLineage fun _ _ => ?_
  exact steady_pure ⟨appended_memory hmemory, by simp, by simp, by simp, by simp,
    appended_nil (by decide)⟩

theorem yields_securityAudit :
    Yields s (SecurityAudit.produceArtifacts rt context) (Formed rt .securityAudit) := by
  have hcovers := covers_true fun _ => True
  refine steady_read_bind ?_
  refine steady_bind (steady_queryBlackboard hcovers fun _ => trivial) fun result _ => ?_
  refine steady_bind (steady_inspectRedisStream hcovers fun _ => trivial) fun entries _ => ?_
  refine steady_bind (steady_queryPrometheus hcovers fun _ => trivial) fun errorRatio _ => ?_
  refine steady_bind steady_auditFindings fun findings _ => ?_
  refine steady_bind (steady_completeStructured hcovers.completions fun _ _ _ => trivial)
    fun reasoning _ => ?_
  refine steady_bind (steady_appendIf (yields_newCommand rt .securityAudit rfl))
    fun commands hcommands => ?_
  refine steady_bind steady_uuid4 fun reportId _ => ?_
  refine steady_bind (steady_utcNow _) fun reportedAt _ => ?_
  refine steady_bind (yields_newMemory .securityAudit rfl (.securityAudit ..))
    fun memory hmemory => ?_
  exact steady_pure ⟨appended_memory hmemory, hcommands.ok_of_mem, by simp, by simp, by simp,
    appended_nil (by decide)⟩

/-- **Every specialist keeps to its form.** -/
theorem yields_specialist {node : AgentName} (hnode : node ≠ .orchestrator) :
    Yields s ((agentAt rt node).produceArtifacts context) (Formed rt node) := by
  cases node with
  | orchestrator => contradiction
  | monitor => exact yields_monitor
  | analyzer => exact yields_analyzer
  | plannerExecutor => exact yields_plannerExecutor
  | optimizer => exact yields_optimizer
  | knowledge => exact yields_knowledge
  | securityAudit => exact yields_securityAudit

end Specialists

/-! ## the orchestrator -/

namespace Orchestrator

section Builder

variable {s : GestaltGraphState} {rt : Runtime} {context : AgentContextEnvelope}

/-- Artifacts without a row are in the form of the orchestrator. -/
theorem formed_of_rows_eq_nil {art : AgentArtifacts} (h : art.rows = []) :
    Formed rt .orchestrator art := by
  simp only [AgentArtifacts.rows, List.append_eq_nil_iff, List.map_eq_nil_iff,
    Option.toList_eq_nil_iff] at h
  obtain ⟨hmemories, hcommands, hstats, haudit, hproposals⟩ := h
  refine ⟨?_, by simp [hcommands], by simp [hstats], by simp [haudit], by simp [haudit], ?_⟩
  · simp [Appended, AgentName.note, hmemories]
  · simp [Appended, hproposals]

theorem spec_announced : Spec (fun _ => True) (fun _ => True) s (produceArtifacts rt context)
    (fun art _ => Formed rt .orchestrator art ∧ Announced art) fun _ _ => True := by
  have hcovers := covers_true fun _ : Event Services => True
  have hraise : True → ∀ _ : Exc, True := fun _ _ => trivial
  refine spec_read_bind ?_
  split
  · exact spec_raise trivial
  · -- the cycle is closed
    have hscore : Yields s (Program.ofExcept (validate "GestaltSummary" "security_risk_score"
        "Input should be between 0 and 100" (Score.check? s.stats.securityRiskScore)))
        fun _ => True := yields_any (steady_validated _)
    refine spec_read_bind ?_
    refine Steady.spec_bind (steady_evaluateCohesion hcovers) hraise fun _ _ => ?_
    refine Steady.spec_bind hscore hraise fun _ _ => ?_
    refine Steady.spec_bind steady_uuid4 hraise fun _ _ => ?_
    refine Steady.spec_bind (steady_utcNow _) hraise fun _ _ => ?_
    exact spec_pure ⟨formed_of_rows_eq_nil rfl, Or.inr ⟨rfl, rfl⟩⟩
  · -- the head of the plan is dispatched
    rename_i next rest _
    refine spec_read_bind ?_
    refine Steady.spec_bind (steady_completeStructured hcovers.completions fun _ _ _ => trivial)
      hraise fun reasoning _ => ?_
    refine Program.spec_bind (Spec.mono (spec_issuePeerApproval hcovers
      (fun _ _ _ => Or.inr trivial) (fun _ _ _ => trivial) (Or.inr trivial)) (fun _ _ h => h)
      fun _ _ _ => trivial) fun approval s' _ => ?_
    refine Steady.spec_bind (steady_validateName (Or.inr trivial)) hraise
      fun recipient hrecipient => ?_
    refine Steady.spec_bind yields_newMessage hraise fun message hmessage => ?_
    split
    · exact spec_raise trivial
    · next specialist hname =>
        refine spec_pure ⟨formed_of_rows_eq_nil rfl, Or.inl ⟨specialist, rfl, ?_⟩⟩
        have hrecipient' : specialist.name = recipient.val := by
          rw [Specialist.name_of_ofName? hname, elementText, hrecipient, Option.getD_some]
        rw [List.map_cons, List.map_nil, hmessage, hrecipient']
        rfl

end Builder

end Orchestrator

/-- **Every builder keeps to its form.** -/
theorem spec_formed (rt : Runtime) (node : AgentName) (context : AgentContextEnvelope)
    (s : GestaltGraphState) :
    Spec (fun _ => True) (fun _ => True) s ((agentAt rt node).produceArtifacts context)
      (fun art _ => Formed rt node art) fun _ _ => True := by
  by_cases hnode : node = .orchestrator
  · subst hnode
    exact Orchestrator.spec_announced.mono (fun _ _ h => h.1) fun _ _ h => h
  · exact Spec.mono (yields_specialist hnode) (fun _ _ h => h.2) fun _ _ _ => trivial

end Gestalt
