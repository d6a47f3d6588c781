import Gestalt.Protocol
import Gestalt.Library.Codec

/-!
# Gestalt.Protocol.Codec

`model_dump(mode="python")` and `model_validate` of the graph state and of
every record nested in it.  A dump writes every field of a record; a load
checks that no key is undeclared and re-runs the validator of each field, an
absent key taking the declared default.  Every record reads back whatever was
dumped, except the two whose validators do more than check the value: the
statistics, whose scores are clamped, and an event approval, whose expiry is
compared with the clock.
-/

namespace Gestalt

open Codec (fieldsOf field Lossless Present Reads)

/-- What validation looks at beside the value: the clock, and the identifier a
`default_factory` would hand out. -/
structure LoadContext where
  now : Int
  fresh : Uuid

/-- The codec of a field type. -/
abbrev FieldCodec (α : Type) := Codec LoadContext α

namespace Schema

/-! ## field types -/

abbrev id : FieldCodec Uuid := Codec.uuid
abbrev text : FieldCodec String := Codec.str
abbrev integer : FieldCodec Int := Codec.int
abbrev number : FieldCodec Rat := Codec.float
abbrev flag : FieldCodec Bool := Codec.bool
abbrev instant : FieldCodec Int := Codec.datetime
abbrev values : FieldCodec (Dict Value) := Codec.dict Codec.any

/-- `str` with `min_length=n`. -/
def minStr (n : Nat) : FieldCodec (MinStr n) :=
  Codec.refine Codec.str MinStr.val fun _ s =>
    match MinStr.check? n s with
    | some m => .ok m
    | none => .error ⟨[], s!"String should have at least {n} characters"⟩

instance (n : Nat) : Lossless (minStr n) :=
  ⟨fun ctx s => (Codec.reads_refine ctx (Codec.reads_str ctx s.val)).mpr (by simp)⟩

/-- `int` with `ge=0, le=100`. -/
def score : FieldCodec Score :=
  Codec.refine Codec.int Score.val fun _ i =>
    match Score.check? i with
    | some s => .ok s
    | none => .error ⟨[], "Input should be between 0 and 100"⟩

instance : Lossless score :=
  ⟨fun ctx s => (Codec.reads_refine ctx (Codec.reads_int ctx s.val)).mpr (by simp)⟩

/-! ## enumerations -/

def messageRole : FieldCodec GestaltMessageRole :=
  Codec.member "GestaltMessageRole" GestaltMessageRole.value GestaltMessageRole.ofValue

instance : Lossless messageRole :=
  ⟨fun ctx a => Codec.reads_member ctx (by cases a <;> rfl)⟩

def commandType : FieldCodec GestaltCommandType :=
  Codec.member "GestaltCommandType" GestaltCommandType.value GestaltCommandType.ofValue

instance : Lossless commandType :=
  ⟨fun ctx a => Codec.reads_member ctx (by cases a <;> rfl)⟩

def eventType : FieldCodec GestaltEventType :=
  Codec.member "GestaltEventType" GestaltEventType.value GestaltEventType.ofValue

instance : Lossless eventType :=
  ⟨fun ctx a => Codec.reads_member ctx (by cases a <;> rfl)⟩

def auditSeverity : FieldCodec AuditSeverity :=
  Codec.member "AuditSeverity" AuditSeverity.value AuditSeverity.ofValue

instance : Lossless auditSeverity :=
  ⟨fun ctx a => Codec.reads_member ctx (by cases a <;> rfl)⟩

def auditCategory : FieldCodec AuditCategory :=
  Codec.member "AuditCategory" AuditCategory.value AuditCategory.ofValue

instance : Lossless auditCategory :=
  ⟨fun ctx a => Codec.reads_member ctx (by cases a <;> rfl)⟩

def decisionConfidence : FieldCodec DecisionConfidence :=
  Codec.member "DecisionConfidence" DecisionConfidence.value DecisionConfidence.ofValue

instance : Lossless decisionConfidence :=
  ⟨fun ctx a => Codec.reads_member ctx (by cases a <;> rfl)⟩

def commandStatus : FieldCodec CommandStatus :=
  Codec.member "CommandStatus" CommandStatus.value CommandStatus.ofValue

instance : Lossless commandStatus :=
  ⟨fun ctx a => Codec.reads_member ctx (by cases a <;> rfl)⟩

def memoryKind : FieldCodec MemoryKind :=
  Codec.member "MemoryKind" MemoryKind.value MemoryKind.ofValue

instance : Lossless memoryKind :=
  ⟨fun ctx a => Codec.reads_member ctx (by cases a <;> rfl)⟩

def schedulerSource : FieldCodec SchedulerSource :=
  Codec.member "SchedulerSource" SchedulerSource.value SchedulerSource.ofValue

instance : Lossless schedulerSource :=
  ⟨fun ctx a => Codec.reads_member ctx (by cases a <;> rfl)⟩

def agentDecision : FieldCodec AgentDecision :=
  Codec.member "AgentDecision" AgentDecision.value AgentDecision.ofValue

instance : Lossless agentDecision :=
  ⟨fun ctx a => Codec.reads_member ctx (by cases a <;> rfl)⟩

def performanceTier : FieldCodec PerformanceTier :=
  Codec.member "PerformanceTier" PerformanceTier.value PerformanceTier.ofValue

instance : Lossless performanceTier :=
  ⟨fun ctx a => Codec.reads_member ctx (by cases a <;> rfl)⟩

def agentHealth : FieldCodec AgentHealth :=
  Codec.member "AgentHealth" AgentHealth.value AgentHealth.ofValue

instance : Lossless agentHealth :=
  ⟨fun ctx a => Codec.reads_member ctx (by cases a <;> rfl)⟩

/-- The literals of a remediation priority, which are plain strings. -/
def remediationPriority : FieldCodec RemediationPriority :=
  Codec.refine Codec.str RemediationPriority.value fun _ s =>
    match RemediationPriority.ofValue s with
    | some p => .ok p
    | none => .error ⟨[], "Input should be 'low', 'medium', 'high' or 'urgent'"⟩

instance : Lossless remediationPriority :=
  ⟨fun ctx p => (Codec.reads_refine ctx (Codec.reads_str ctx p.value)).mpr (by cases p <;> rfl)⟩

/-- An `IntEnum`, dumped as the integer it is. -/
def loadLevel : FieldCodec LoadLevel :=
  Codec.refine Codec.int LoadLevel.toInt fun _ i =>
    match LoadLevel.ofInt i with
    | some l => .ok l
    | none => .error ⟨[], "Input should be 1, 2, 3, 4 or 5"⟩

instance : Lossless loadLevel :=
  ⟨fun ctx l => (Codec.reads_refine ctx (Codec.reads_int ctx l.toInt)).mpr (by cases l <;> rfl)⟩

/-! ## records -/

def auditEvidence : FieldCodec AuditEvidence where
  dump a := .dict
    [("source", (minStr 1).dump a.source), ("description", (minStr 1).dump a.description),
     ("reference", text.option.dump a.reference), ("metadata", values.dump a.metadata)]
  load ctx v := do
    let d ← fieldsOf "AuditEvidence"
      ["source", "description", "reference", "metadata"] v
    return {
      source := ← field d "source" (minStr 1) ctx
      description := ← field d "description" (minStr 1) ctx
      reference := ← field d "reference" text.option ctx (some none)
      metadata := ← field d "metadata" values ctx (some []) }

instance : Lossless auditEvidence := ⟨fun ctx a => by
  simp [Reads, auditEvidence, fieldsOf, field, bind, Except.bind, pure, Except.pure]⟩

def remediationInstruction : FieldCodec RemediationInstruction where
  dump a := .dict
    [("instruction_id", id.dump a.instructionId),
     ("command_type", commandType.dump a.commandType), ("title", (minStr 3).dump a.title),
     ("rationale", (minStr 10).dump a.rationale),
     ("priority", remediationPriority.dump a.priority), ("payload", values.dump a.payload)]
  load ctx v := do
    let d ← fieldsOf "RemediationInstruction"
      ["instruction_id", "command_type", "title", "rationale", "priority", "payload"] v
    return {
      instructionId := ← field d "instruction_id" id ctx (some ctx.fresh)
      commandType := ← field d "command_type" commandType ctx
      title := ← field d "title" (minStr 3) ctx
      rationale := ← field d "rationale" (minStr 10) ctx
      priority := ← field d "priority" remediationPriority ctx
      payload := ← field d "payload" values ctx (some []) }

instance : Lossless remediationInstruction := ⟨fun ctx a => by
  simp [Reads, remediationInstruction, fieldsOf, field, bind, Except.bind, pure, Except.pure]⟩

def auditFinding : FieldCodec AuditFinding where
  dump a := .dict
    [("finding_id", id.dump a.findingId), ("category", auditCategory.dump a.category),
     ("severity", auditSeverity.dump a.severity), ("summary", (minStr 8).dump a.summary),
     ("detail", (minStr 16).dump a.detail), ("evidence", auditEvidence.list.dump a.evidence),
     ("remediation", remediationInstruction.list.dump a.remediation),
     ("hypothesis_id", text.option.dump a.hypothesisId)]
  load ctx v := do
    let d ← fieldsOf "AuditFinding"
      ["finding_id", "category", "severity", "summary", "detail", "evidence", "remediation",
       "hypothesis_id"] v
    return {
      findingId := ← field d "finding_id" id ctx (some ctx.fresh)
      category := ← field d "category" auditCategory ctx
      severity := ← field d "severity" auditSeverity ctx
      summary := ← field d "summary" (minStr 8) ctx
      detail := ← field d "detail" (minStr 16) ctx
      evidence := ← field d "evidence" auditEvidence.list ctx (some [])
      remediation := ← field d "remediation" remediationInstruction.list ctx (some [])
      hypothesisId := ← field d "hypothesis_id" text.option ctx (some none) }

instance : Lossless auditFinding := ⟨fun ctx a => by
  simp [Reads, auditFinding, fieldsOf, field, bind, Except.bind, pure, Except.pure]⟩

def message : FieldCodec GestaltMessage where
  dump a := .dict
    [("message_id", id.dump a.messageId), ("trace_id", id.dump a.traceId),
     ("causation_id", id.option.dump a.causationId), ("role", messageRole.dump a.role),
     ("sender", (minStr 2).dump a.sender), ("recipient", (minStr 2).dump a.recipient),
     ("content", (minStr 1).dump a.content), ("metadata", values.dump a.metadata),
     ("created_at", instant.dump a.createdAt)]
  load ctx v := do
    let d ← fieldsOf "GestaltMessage"
      ["message_id", "trace_id", "causation_id", "role", "sender", "recipient", "content",
       "metadata", "created_at"] v
    return {
      messageId := ← field d "message_id" id ctx (some ctx.fresh)
      traceId := ← field d "trace_id" id ctx (some ctx.fresh)
      causationId := ← field d "causation_id" id.option ctx (some none)
      role := ← field d "role" messageRole ctx
      sender := ← field d "sender" (minStr 2) ctx
      recipient := ← field d "recipient" (minStr 2) ctx
      content := ← field d "content" (minStr 1) ctx
      metadata := ← field d "metadata" values ctx (some [])
      createdAt := ← field d "created_at" instant ctx (some ctx.now) }

instance : Lossless message := ⟨fun ctx a => by
  simp [Reads, message, fieldsOf, field, bind, Except.bind, pure, Except.pure]⟩

def command : FieldCodec GestaltCommand where
  dump a := .dict
    [("command_id", id.dump a.commandId), ("trace_id", id.dump a.traceId),
     ("causation_id", id.option.dump a.causationId),
     ("command_type", commandType.dump a.commandType), ("issued_by", (minStr 2).dump a.issuedBy),
     ("target_agent", (minStr 2).dump a.targetAgent), ("rationale", (minStr 8).dump a.rationale),
     ("payload", values.dump a.payload), ("confidence", decisionConfidence.dump a.confidence),
     ("status", commandStatus.dump a.status), ("created_at", instant.dump a.createdAt)]
  load ctx v := do
    let d ← fieldsOf "GestaltCommand"
      ["command_id", "trace_id", "causation_id", "command_type", "issued_by", "target_agent",
       "rationale", "payload", "confidence", "status", "created_at"] v
    return {
      commandId := ← field d "command_id" id ctx (some ctx.fresh)
      traceId := ← field d "trace_id" id ctx (some ctx.fresh)
      causationId := ← field d "causation_id" id.option ctx (some none)
      commandType := ← field d "command_type" commandType ctx
      issuedBy := ← field d "issued_by" (minStr 2) ctx
      targetAgent := ← field d "target_agent" (minStr 2) ctx
      rationale := ← field d "rationale" (minStr 8) ctx
      payload := ← field d "payload" values ctx (some [])
      confidence := ← field d "confidence" decisionConfidence ctx (some .medium)
      status := ← field d "status" commandStatus ctx (some .pending)
      createdAt := ← field d "created_at" instant ctx (some ctx.now) }

instance : Lossless command := ⟨fun ctx a => by
  simp [Reads, command, fieldsOf, field, bind, Except.bind, pure, Except.pure]⟩

def commandResult : FieldCodec GestaltCommandResult where
  dump a := .dict
    [("command_id", id.dump a.commandId), ("trace_id", id.dump a.traceId),
     ("status", commandStatus.dump a.status), ("output", values.dump a.output),
     ("error_message", text.option.dump a.errorMessage),
     ("completed_at", instant.dump a.completedAt)]
  load ctx v := do
    let d ← fieldsOf "GestaltCommandResult"
      ["command_id", "trace_id", "status", "output", "error_message", "completed_at"] v
    return {
      commandId := ← field d "command_id" id ctx
      traceId := ← field d "trace_id" id ctx
      status := ← field d "status" commandStatus ctx
      output := ← field d "output" values ctx (some [])
      errorMessage := ← field d "error_message" text.option ctx (some none)
      completedAt := ← field d "completed_at" instant ctx (some ctx.now) }

instance : Lossless commandResult := ⟨fun ctx a => by
  simp [Reads, commandResult, fieldsOf, field, bind, Except.bind, pure, Except.pure]⟩

def summary : FieldCodec GestaltSummary where
  dump a := .dict
    [("cycle_id", id.dump a.cycleId), ("trace_id", id.dump a.traceId),
     ("objective", (minStr 3).dump a.objective),
     ("completed_actions", text.list.dump a.completedActions),
     ("pending_actions", text.list.dump a.pendingActions),
     ("decisions", agentDecision.list.dump a.decisions),
     ("cohesion_score", score.dump a.cohesionScore),
     ("security_risk_score", score.dump a.securityRiskScore),
     ("produced_at", instant.dump a.producedAt)]
  load ctx v := do
    let d ← fieldsOf "GestaltSummary"
      ["cycle_id", "trace_id", "objective", "completed_actions", "pending_actions", "decisions",
       "cohesion_score", "security_risk_score", "produced_at"] v
    return {
      cycleId := ← field d "cycle_id" id ctx (some ctx.fresh)
      traceId := ← field d "trace_id" id ctx (some ctx.fresh)
      objective := ← field d "objective" (minStr 3) ctx
      completedActions := ← field d "completed_actions" text.list ctx (some [])
      pendingActions := ← field d "pending_actions" text.list ctx (some [])
      decisions := ← field d "decisions" agentDecision.list ctx (some [])
      cohesionScore := ← field d "cohesion_score" score ctx
      securityRiskScore := ← field d "security_risk_score" score ctx
      producedAt := ← field d "produced_at" instant ctx (some ctx.now) }

instance : Lossless summary := ⟨fun ctx a => by
  simp [Reads, summary, fieldsOf, field, bind, Except.bind, pure, Except.pure]⟩

instance : Present summary := ⟨fun _ => by simp [summary]⟩

def memoryRecord : FieldCodec BlackboardMemoryRecord where
  dump a := .dict
    [("record_id", id.dump a.recordId), ("trace_id", id.dump a.traceId),
     ("memory_kind", memoryKind.dump a.memoryKind), ("title", (minStr 3).dump a.title),
     ("content", (minStr 1).dump a.content), ("tags", text.list.dump a.tags),
     ("embedding", number.list.option.dump a.embedding), ("metadata", values.dump a.metadata),
     ("created_at", instant.dump a.createdAt)]
  load ctx v := do
    let d ← fieldsOf "BlackboardMemoryRecord"
      ["record_id", "trace_id", "memory_kind", "title", "content", "tags", "embedding",
       "metadata", "created_at"] v
    return {
      recordId := ← field d "record_id" id ctx (some ctx.fresh)
      traceId := ← field d "trace_id" id ctx (some ctx.fresh)
      memoryKind := ← field d "memory_kind" memoryKind ctx
      title := ← field d "title" (minStr 3) ctx
      content := ← field d "content" (minStr 1) ctx
      tags := ← field d "tags" text.list ctx (some [])
      embedding := ← field d "embedding" number.list.option ctx (some none)
      metadata := ← field d "metadata" values ctx (some [])
      createdAt := ← field d "created_at" instant ctx (some ctx.now) }

instance : Lossless memoryRecord := ⟨fun ctx a => by
  simp [Reads, memoryRecord, fieldsOf, field, bind, Except.bind, pure, Except.pure]⟩

def optimizationProposal : FieldCodec OptimizationProposal where
  dump a := .dict
    [("proposal_id", id.dump a.proposalId), ("trace_id", id.dump a.traceId),
     ("title", (minStr 5).dump a.title), ("summary", (minStr 12).dump a.summary),
     ("expected_benefit", (minStr 8).dump a.expectedBenefit),
     ("config_patch", values.dump a.configPatch),
     ("prompt_overrides", text.dict.dump a.promptOverrides),
     ("model_routing_overrides", text.dict.dump a.modelRoutingOverrides),
     ("confidence", decisionConfidence.dump a.confidence),
     ("created_at", instant.dump a.createdAt)]
  load ctx v := do
    let d ← fieldsOf "OptimizationProposal"
      ["proposal_id", "trace_id", "title", "summary", "expected_benefit", "config_patch",
       "prompt_overrides", "model_routing_overrides", "confidence", "created_at"] v
    return {
      proposalId := ← field d "proposal_id" id ctx (some ctx.fresh)
      traceId := ← field d "trace_id" id ctx (some ctx.fresh)
      title := ← field d "title" (minStr 5) ctx
      summary := ← field d "summary" (minStr 12) ctx
      expectedBenefit := ← field d "expected_benefit" (minStr 8) ctx
      configPatch := ← field d "config_patch" values ctx (some [])
      promptOverrides := ← field d "prompt_overrides" text.dict ctx (some [])
      modelRoutingOverrides := ← field d "model_routing_overrides" text.dict ctx (some [])
      confidence := ← field d "confidence" decisionConfidence ctx
      createdAt := ← field d "created_at" instant ctx (some ctx.now) }

instance : Lossless optimizationProposal := ⟨fun ctx a => by
  simp [Reads, optimizationProposal, fieldsOf, field, bind, Except.bind, pure, Except.pure]⟩

def auditReport : FieldCodec GestaltAuditReport where
  dump a := .dict
    [("report_id", id.dump a.reportId), ("trace_id", id.dump a.traceId),
     ("audited_by", text.dump a.auditedBy), ("scope", text.list.dump a.scope),
     ("findings", auditFinding.list.dump a.findings),
     ("remediation_commands", command.list.dump a.remediationCommands),
     ("overall_risk_score", score.dump a.overallRiskScore),
     ("created_at", instant.dump a.createdAt)]
  load ctx v := do
    let d ← fieldsOf "GestaltAuditReport"
      ["report_id", "trace_id", "audited_by", "scope", "findings", "remediation_commands",
       "overall_risk_score", "created_at"] v
    return {
      reportId := ← field d "report_id" id ctx (some ctx.fresh)
      traceId := ← field d "trace_id" id ctx (some ctx.fresh)
      auditedBy := ← field d "audited_by" text ctx (some "security_audit")
      scope := ← field d "scope" text.list ctx (some [])
      findings := ← field d "findings" auditFinding.list ctx (some [])
      remediationCommands := ← field d "remediation_commands" command.list ctx (some [])
      overallRiskScore := ← field d "overall_risk_score" score ctx
      createdAt := ← field d "created_at" instant ctx (some ctx.now) }

instance : Lossless auditReport := ⟨fun ctx a => by
  simp [Reads, auditReport, fieldsOf, field, bind, Except.bind, pure, Except.pure]⟩

/-- The timing validator runs after the fields. -/
def executionReport : FieldCodec AgentExecutionReport where
  dump a := .dict
    [("report_id", id.dump a.reportId), ("trace_id", id.dump a.traceId),
     ("agent_name", (minStr 2).dump a.agentName), ("command_id", id.option.dump a.commandId),
     ("status", commandStatus.dump a.status), ("summary", (minStr 8).dump a.summary),
     ("emitted_commands", command.list.dump a.emittedCommands),
     ("emitted_memories", memoryRecord.list.dump a.emittedMemories),
     ("metrics", number.dict.dump a.metrics), ("started_at", instant.dump a.startedAt),
     ("finished_at", instant.dump a.finishedAt)]
  load ctx v := do
    let d ← fieldsOf "AgentExecutionReport"
      ["report_id", "trace_id", "agent_name", "command_id", "status", "summary",
       "emitted_commands", "emitted_memories", "metrics", "started_at", "finished_at"] v
    let reportId ← field d "report_id" id ctx (some ctx.fresh)
    let traceId ← field d "trace_id" id ctx (some ctx.fresh)
    let agentName ← field d "agent_name" (minStr 2) ctx
    let commandId ← field d "command_id" id.option ctx (some none)
    let status ← field d "status" commandStatus ctx
    let summary ← field d "summary" (minStr 8) ctx
    let emittedCommands ← field d "emitted_commands" command.list ctx (some [])
    let emittedMemories ← field d "emitted_memories" memoryRecord.list ctx (some [])
    let metrics ← field d "metrics" number.dict ctx (some [])
    let startedAt ← field d "started_at" instant ctx (some ctx.now)
    let finishedAt ← field d "finished_at" instant ctx (some ctx.now)
    if timing : startedAt ≤ finishedAt then
      return { reportId, traceId, agentName, commandId, status, summary, emittedCommands,
               emittedMemories, metrics, startedAt, finishedAt, timing }
    else .error ⟨[], "finished_at must be greater than or equal to started_at"⟩

instance : Lossless executionReport := ⟨fun ctx a => by
  simp [Reads, executionReport, fieldsOf, field, bind, Except.bind, pure, Except.pure, a.timing]⟩

/-- An `expires_at`, which `ensure_future_expiry` compares with the clock. -/
def expiry : FieldCodec Int :=
  Codec.refine Codec.datetime (fun t => t) fun ctx t =>
    if t ≤ ctx.now then .error ⟨[], "expires_at must be in the future"⟩ else .ok t

theorem load_expiry (ctx : LoadContext) (t : Int) :
    expiry.load ctx (expiry.dump t) =
      if t ≤ ctx.now then .error ⟨[], "expires_at must be in the future"⟩ else .ok t := rfl

def approval : FieldCodec EventApproval where
  dump a := .dict
    [("approval_id", id.dump a.approvalId), ("trace_id", id.dump a.traceId),
     ("source_agent", (minStr 2).dump a.sourceAgent),
     ("target_agent", (minStr 2).dump a.targetAgent),
     ("permitted_event", eventType.dump a.permittedEvent),
     ("rationale", (minStr 8).dump a.rationale), ("expires_at", expiry.dump a.expiresAt)]
  load ctx v := do
    let d ← fieldsOf "EventApproval"
      ["approval_id", "trace_id", "source_agent", "target_agent", "permitted_event", "rationale",
       "expires_at"] v
    return {
      approvalId := ← field d "approval_id" id ctx (some ctx.fresh)
      traceId := ← field d "trace_id" id ctx (some ctx.fresh)
      sourceAgent := ← field d "source_agent" (minStr 2) ctx
      targetAgent := ← field d "target_agent" (minStr 2) ctx
      permittedEvent := ← field d "permitted_event" eventType ctx
      rationale := ← field d "rationale" (minStr 8) ctx
      expiresAt := ← field d "expires_at" expiry ctx }

/-- An approval loads, as itself, exactly before it expires. -/
theorem load_approval {ctx : LoadContext} {a b : EventApproval} :
    approval.load ctx (approval.dump a) = .ok b ↔ b = a ∧ ctx.now < a.expiresAt := by
  by_cases h : a.expiresAt ≤ ctx.now
  · simp [approval, fieldsOf, field, bind, Except.bind, load_expiry, h, Int.not_lt.mpr h]
  · simp only [approval, fieldsOf, field]
    simp [bind, Except.bind, pure, Except.pure, load_expiry, h, Int.not_le.mp h]
    exact eq_comm

/-- A list of approvals loads, as itself, exactly before the first expires. -/
theorem load_approvals {ctx : LoadContext} {as bs : List EventApproval} :
    approval.list.load ctx (approval.list.dump as) = .ok bs ↔
      bs = as ∧ ∀ a ∈ as, ctx.now < a.expiresAt := by
  constructor
  · intro h
    obtain rfl := Codec.eq_of_load_list ctx (fun _ _ hab => (load_approval.mp hab).1) h
    exact ⟨rfl, fun a ha => (load_approval.mp ((Codec.reads_list ctx).mp h a ha)).2⟩
  · intro hunexpired
    obtain ⟨rfl, hnow⟩ := hunexpired
    exact (Codec.reads_list ctx).mpr fun a ha => load_approval.mpr ⟨rfl, hnow a ha⟩

/-- Loading the statistics clamps the three scores. -/
def stats : FieldCodec GestaltStats where
  dump a := .dict
    [("load_level", loadLevel.dump a.loadLevel),
     ("performance_tier", performanceTier.dump a.performanceTier),
     ("cost_efficiency_score", integer.dump a.costEfficiencyScore),
     ("security_risk_score", integer.dump a.securityRiskScore),
     ("gestalt_cohesion_score", integer.dump a.gestaltCohesionScore),
     ("agent_health", agentHealth.dict.dump a.agentHealth),
     ("queue_depth", integer.dump a.queueDepth), ("active_cycles", integer.dump a.activeCycles),
     ("average_latency_ms", number.dump a.averageLatencyMs),
     ("p95_latency_ms", number.dump a.p95LatencyMs), ("error_rate", number.dump a.errorRate),
     ("failure_count", integer.dump a.failureCount),
     ("success_count", integer.dump a.successCount),
     ("cost_per_cycle", number.dump a.costPerCycle),
     ("blackboard_consistency", number.dump a.blackboardConsistency),
     ("collaboration_success_rate", number.dump a.collaborationSuccessRate),
     ("open_security_findings", integer.dump a.openSecurityFindings),
     ("optimizer_triggered", flag.dump a.optimizerTriggered),
     ("last_updated", instant.dump a.lastUpdated)]
  load ctx v := do
    let d ← fieldsOf "GestaltStats"
      ["load_level", "performance_tier", "cost_efficiency_score", "security_risk_score",
       "gestalt_cohesion_score", "agent_health", "queue_depth", "active_cycles",
       "average_latency_ms", "p95_latency_ms", "error_rate", "failure_count", "success_count",
       "cost_per_cycle", "blackboard_consistency", "collaboration_success_rate",
       "open_security_findings", "optimizer_triggered", "last_updated"] v
    let stats : GestaltStats := {
      loadLevel := ← field d "load_level" loadLevel ctx (some .veryLow)
      performanceTier := ← field d "performance_tier" performanceTier ctx (some .low)
      costEfficiencyScore := ← field d "cost_efficiency_score" integer ctx (some 100)
      securityRiskScore := ← field d "security_risk_score" integer ctx (some 0)
      gestaltCohesionScore := ← field d "gestalt_cohesion_score" integer ctx (some 100)
      agentHealth := ← field d "agent_health" agentHealth.dict ctx (some [])
      queueDepth := ← field d "queue_depth" integer ctx (some 0)
      activeCycles := ← field d "active_cycles" integer ctx (some 0)
      averageLatencyMs := ← field d "average_latency_ms" number ctx (some 0)
      p95LatencyMs := ← field d "p95_latency_ms" number ctx (some 0)
      errorRate := ← field d "error_rate" number ctx (some 0)
      failureCount := ← field d "failure_count" integer ctx (some 0)
      successCount := ← field d "success_count" integer ctx (some 0)
      costPerCycle := ← field d "cost_per_cycle" number ctx (some 0)
      blackboardConsistency := ← field d "blackboard_consistency" number ctx (some 1)
      collaborationSuccessRate := ← field d "collaboration_success_rate" number ctx (some 1)
      openSecurityFindings := ← field d "open_security_findings" integer ctx (some 0)
      optimizerTriggered := ← field d "optimizer_triggered" flag ctx (some false)
      lastUpdated := ← field d "last_updated" instant ctx (some ctx.now) }
    return stats.clamped

theorem load_stats (ctx : LoadContext) (a : GestaltStats) :
    stats.load ctx (stats.dump a) = .ok a.clamped := by
  simp [stats, fieldsOf, field, bind, Except.bind, pure, Except.pure]

/-! ## the graph state -/

def graphState : FieldCodec GestaltGraphState where
  dump a := .dict
    [("trace_id", id.dump a.traceId), ("cycle_id", id.dump a.cycleId),
     ("source", schedulerSource.dump a.source), ("objective", (minStr 3).dump a.objective),
     ("stats", stats.dump a.stats), ("decisions", agentDecision.list.dump a.decisions),
     ("messages", message.list.dump a.messages), ("commands", command.list.dump a.commands),
     ("command_results", commandResult.list.dump a.commandResults),
     ("memories", memoryRecord.list.dump a.memories),
     ("optimization_proposals", optimizationProposal.list.dump a.optimizationProposals),
     ("audit_reports", auditReport.list.dump a.auditReports),
     ("execution_reports", executionReport.list.dump a.executionReports),
     ("latest_summary", summary.option.dump a.latestSummary),
     ("approvals", approval.list.dump a.approvals), ("metadata", values.dump a.metadata)]
  load ctx v := do
    let d ← fieldsOf "GestaltGraphState"
      ["trace_id", "cycle_id", "source", "objective", "stats", "decisions", "messages",
       "commands", "command_results", "memories", "optimization_proposals", "audit_reports",
       "execution_reports", "latest_summary", "approvals", "metadata"] v
    return {
      traceId := ← field d "trace_id" id ctx (some ctx.fresh)
      cycleId := ← field d "cycle_id" id ctx (some ctx.fresh)
      source := ← field d "source" schedulerSource ctx (some .internal)
      objective := ← field d "objective" (minStr 3) ctx (some (.text "Maintain system cohesion"))
      stats := ← field d "stats" stats ctx (some { lastUpdated := ctx.now })
      decisions := ← field d "decisions" agentDecision.list ctx (some [])
      messages := ← field d "messages" message.list ctx (some [])
      commands := ← field d "commands" command.list ctx (some [])
      commandResults := ← field d "command_results" commandResult.list ctx (some [])
      memories := ← field d "memories" memoryRecord.list ctx (some [])
      optimizationProposals :=
        ← field d "optimization_proposals" optimizationProposal.list ctx (some [])
      auditReports := ← field d "audit_reports" auditReport.list ctx (some [])
      executionReports := ← field d "execution_reports" executionReport.list ctx (some [])
      latestSummary := ← field d "latest_summary" summary.option ctx (some none)
      approvals := ← field d "approvals" approval.list ctx (some [])
      metadata := ← field d "metadata" values ctx (some []) }

/-- Everything but the statistics and the approvals reads back unchanged. -/
theorem load_graphState (ctx : LoadContext) (s : GestaltGraphState) :
    graphState.load ctx (graphState.dump s) =
      match approval.list.load ctx (approval.list.dump s.approvals) with
      | .ok approvals => .ok { s with stats := s.stats.clamped, approvals := approvals }
      | .error e => .error ⟨"approvals" :: e.path, e.problem⟩ := by
  simp only [graphState, fieldsOf, field]
  cases h : approval.list.load ctx (approval.list.dump s.approvals) with
  | error e => simp [bind, Except.bind, load_stats, h]
  | ok approvals => simp [bind, Except.bind, pure, Except.pure, load_stats, h]

/-- A state with scores in range loads, as itself, exactly before its first
approval expires. -/
theorem load_graphState_ok_iff {ctx : LoadContext} {s s' : GestaltGraphState}
    (hstats : s.stats.InRange) :
    graphState.load ctx (graphState.dump s) = .ok s' ↔
      s' = s ∧ ∀ a ∈ s.approvals, ctx.now < a.expiresAt := by
  have hclamped : s.stats.clamped = s.stats := GestaltStats.clamped_eq_iff.mpr hstats
  rw [load_graphState, hclamped]
  cases h : approval.list.load ctx (approval.list.dump s.approvals) with
  | error e =>
      have hexpired : ¬ ∀ a ∈ s.approvals, ctx.now < a.expiresAt := by
        intro hnow
        rw [load_approvals.mpr ⟨rfl, hnow⟩] at h
        contradiction
      simp [hexpired]
  | ok approvals =>
      obtain ⟨rfl, hnow⟩ := load_approvals.mp h
      rw [Except.ok.injEq]
      exact ⟨fun heq => ⟨heq.symm, hnow⟩, fun heq => heq.1.symm⟩

end Schema

/-- `state.model_dump(mode="python")`. -/
def GestaltGraphState.modelDump (s : GestaltGraphState) : Value := Schema.graphState.dump s

/-- `GestaltGraphState.model_validate`. -/
def GestaltGraphState.modelValidate (ctx : LoadContext) (v : Value) :
    Except LoadError GestaltGraphState := Schema.graphState.load ctx v

end Gestalt
