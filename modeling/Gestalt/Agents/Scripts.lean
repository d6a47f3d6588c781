import Gestalt.Graph.Conduct
import Gestalt.Library.Script

/-!
# Gestalt.Agents.Scripts

In which order an agent calls the services.

An agent asks what it needs to know, has a completion requested, and only then
are its artifacts written, memories first.  The order is fixed by a script of
its own, whatever it is answered: an answer can cut the script short, but not
add to it or change it.
-/

namespace Gestalt

open Effects Program

/-! ## services -/

/-- What a call is for. -/
inductive Service where
  | recall
  | memory
  | command
  | statsReport
  | auditReport
  | proposal
  | relation
  | evidence
  | approval
  | completion
  | telemetry
  | stream
  | shell
  deriving DecidableEq, Repr

def Call.service : Call → Service
  | queryMemory _ => .recall
  | writeMemory _ => .memory
  | writeCommand _ => .command
  | writeStatsReport _ => .statsReport
  | writeAuditReport _ => .auditReport
  | writeOptimizationProposal _ => .proposal
  | linkEntities _ => .relation
  | computeCohesionInputs => .evidence
  | approve _ => .approval
  | acompletion _ _ => .completion
  | prometheusQuery _ => .telemetry
  | redisStreamInspect _ _ => .stream
  | bash _ _ _ => .shell

/-- The service an event calls, whether the call succeeds or not. -/
def calledServices (ev : Event Services) : List Service :=
  match ev.op with
  | .utcNow _ | .uuid4 => []
  | .call c => [c.service]

/-- The services that write the artifacts. -/
def AgentArtifacts.services (artifacts : AgentArtifacts) : List Service :=
  artifacts.rows.map fun row => row.call.service

namespace AgentName

open Script

/-- What the artifact builder of the agent calls. -/
def consulting : AgentName → Script Service
  | orchestrator => either (say .evidence) (seq (opt (say .completion)) (say .approval))
  | monitor => seq (say .telemetry) (seq (say .telemetry)
      (seq (say .telemetry) (opt (say .completion))))
  | analyzer => seq (say .recall) (seq (say .telemetry) (opt (say .completion)))
  | plannerExecutor => seq (say .shell) (opt (say .completion))
  | optimizer => seq (say .recall) (seq (say .telemetry) (opt (say .completion)))
  | knowledge => seq (say .recall) (seq (opt (say .completion)) (opt (say .relation)))
  | securityAudit => seq (say .recall) (seq (say .stream)
      (seq (say .telemetry) (opt (say .completion))))

/-- What writes the artifacts of the agent. -/
def storing : AgentName → Script Service
  | orchestrator => done
  | monitor => seq (say .memory) (seq (opt (say .command))
      (seq (opt (say .command)) (say .statsReport)))
  | analyzer => seq (say .memory) (say .command)
  | plannerExecutor => seq (say .memory) (opt (say .command))
  | optimizer => seq (say .memory) (say .proposal)
  | knowledge => say .memory
  | securityAudit => seq (say .memory) (seq (opt (say .command)) (say .auditReport))

/-- An invocation of the agent. -/
def script (a : AgentName) : Script Service :=
  seq (say .recall) (seq a.consulting a.storing)

end AgentName

/-! ## calls -/

section Calls

variable {rt : Runtime} {a : AgentName} {s : GestaltGraphState} {script : Script Service}

/-- A part that calls no service. -/
abbrev Silent {α : Type} (p : Action α) (ok : α → Prop) : Prop :=
  Follows calledServices p .done ok

theorem silent_of_inward {α : Type} {p : Action α} (h : p.Asks Inward) :
    Silent p fun _ => True := by
  refine follows_of_asks h fun ev hinward => ?_
  unfold calledServices
  split
  · rfl
  · rfl
  · next hop =>
      rw [hop] at hinward
      exact hinward.elim

/-- A call is made, whether it succeeds or not. -/
theorem logsAll_call (c : Call) :
    LogsAll calledServices s (send c) [c.service] fun _ => True := by
  have hasked : Logs calledServices s (query (I := Services) (.call c) : Action _)
      (fun _ s' log => s' = s ∧ log = [c.service]) fun _ _ _ => False :=
    logs_query fun _ => ⟨rfl, rfl⟩
  refine logs_bind hasked (fun _ _ _ h => h.elim) ?_
  intro answer _ _ hpost
  obtain ⟨rfl, rfl⟩ := hpost
  refine logs_ofExcept ?_ ?_
  · intro r _
    exact ⟨rfl, rfl, trivial⟩
  · intro e _
    exact ⟨rfl, List.prefix_append _ _⟩

theorem follows_send (c : Call) : Follows calledServices (send c) (.say c.service) fun _ => True :=
  follows_of_logsAll (fun _ => logsAll_call c) (Script.mem_words_say _)

theorem follows_executeAllowed {α : Type} {toolName : String} {tool : Action α} {ok : α → Prop}
    (h : Follows calledServices tool script ok) :
    Follows calledServices (executeAllowed rt a toolName tool) script ok := by
  unfold executeAllowed
  split
  · exact h
  · exact follows_raise

theorem follows_queryBlackboard {query : MinStr 1} {limit : Nat}
    {in_range : decide (1 ≤ limit ∧ limit ≤ 100) = true} :
    Follows calledServices (queryBlackboard rt a query limit in_range) (.say .recall)
      fun _ => True :=
  follows_executeAllowed (follows_send _)

theorem follows_queryPrometheus {query : MinStr 1} :
    Follows calledServices (queryPrometheus rt a query) (.say .telemetry) fun _ => True :=
  follows_executeAllowed (follows_send _)

theorem follows_inspectRedisStream {streamName : MinStr 1} {count : Nat} :
    Follows calledServices (inspectRedisStream rt a streamName count) (.say .stream)
      fun _ => True :=
  follows_executeAllowed (follows_send _)

theorem follows_runSandboxCommand {command cwd : String} {timeoutSeconds : Nat} :
    Follows calledServices (runSandboxCommand rt a command cwd timeoutSeconds) (.say .shell)
      fun _ => True := by
  refine follows_executeAllowed ?_
  unfold sandboxCommand
  dsimp only
  split
  · exact follows_raise
  split
  · exact follows_send _
  · exact follows_raise

/-- A completion is requested once, unless the gateway answers itself. -/
theorem follows_completeStructured {userPrompt : String} {responseModel : ResponseModel}
    {stats : GestaltStats} {mock : Except Exc responseModel.Reply} :
    Follows calledServices (completeStructured rt a userPrompt responseModel stats mock)
      (.opt (.say .completion)) fun _ => True := by
  unfold completeStructured
  dsimp only
  split
  · exact (follows_ofExcept.mono fun _ _ => trivial).left
  · refine (follows_bind_silent (follows_send _) fun parsed _ => ?_).right
    cases parsed with
    | none => exact follows_raise
    | some reply => exact follows_pure trivial

theorem asks_inward_newCommand {traceId : Uuid} {commandType : GestaltCommandType}
    {issuedBy targetAgent : MinStr 2} {rationale : MinStr 8} {payload : Dict Value} :
    (newCommand traceId commandType issuedBy targetAgent rationale payload).Asks Inward :=
  asks_bind (asks_query trivial) fun _ => asks_bind (asks_query trivial) fun _ => asks_pure _

theorem asks_inward_newMemory {traceId : Uuid} {memoryKind : MemoryKind} {title : MinStr 3}
    {content : MinStr 1} {tags : List String} {metadata : Dict Value} :
    (newMemory traceId memoryKind title content tags metadata).Asks Inward :=
  asks_bind (asks_query trivial) fun _ => asks_bind (asks_query trivial) fun _ => asks_pure _

/-- What may be added is one item at most. -/
theorem silent_appendIf {α : Type} {condition : Bool} {build : Action α}
    (h : build.Asks Inward) :
    Silent (appendIf condition build) fun items => items = [] ∨ ∃ item, items = [item] := by
  unfold appendIf
  split
  · exact follows_silent_bind (silent_of_inward h) fun item _ => follows_pure (Or.inr ⟨item, rfl⟩)
  · exact follows_pure (Or.inl rfl)

theorem silent_uuid4 : Silent uuid4 fun _ => True :=
  silent_of_inward (asks_query trivial)

theorem silent_utcNow (site : ClockSite) : Silent (utcNow site) fun _ => True :=
  silent_of_inward (asks_query trivial)

end Calls

/-! ## writing -/

section Writing

variable {artifacts : AgentArtifacts}

/-- The services that write artifacts, list by list. -/
theorem AgentArtifacts.services_eq (artifacts : AgentArtifacts) :
    artifacts.services = artifacts.memories.map (fun _ => .memory) ++
      (artifacts.commands.map (fun _ => .command) ++
        (artifacts.statsReport.toList.map (fun _ => .statsReport) ++
          (artifacts.auditReport.toList.map (fun _ => .auditReport) ++
            artifacts.optimizationProposals.map fun _ => .proposal))) := by
  simp only [services, rows, List.map_append, List.map_map]
  rfl

/-- One command at most. -/
theorem mem_words_optional {commands : List GestaltCommand}
    (h : commands = [] ∨ ∃ command, commands = [command]) :
    commands.map (fun _ => Service.command) ∈ (Script.opt (.say Service.command)).words := by
  rcases h with rfl | ⟨command, rfl⟩
  · exact Script.mem_words_left Script.mem_words_done
  · exact Script.mem_words_right (Script.mem_words_say _)

theorem follows_persistOutputs {script : Script Service} (h : artifacts.services ∈ script.words) :
    Follows calledServices (persistOutputs artifacts) script fun _ => True := by
  refine follows_of_logsAll (fun s => ?_) h
  rw [AgentArtifacts.services_eq]
  refine logsAll_bind (logsAll_forEach fun memory => logsAll_call _) fun _ _ => ?_
  refine logsAll_bind (logsAll_forEach fun command => logsAll_call _) fun _ _ => ?_
  refine logsAll_bind (logsAll_forEach fun report => logsAll_call _) fun _ _ => ?_
  refine logsAll_bind (logsAll_forEach fun report => logsAll_call _) fun _ _ => ?_
  exact logsAll_forEach fun proposal => logsAll_call _

end Writing

/-! ## the artifact builders -/

section Builders

variable (rt : Runtime) (context : AgentContextEnvelope)

/-- The builder calls what its script says, and so does the writing of what it
returns. -/
def Scripted (node : AgentName) : Prop :=
  Follows calledServices ((agentAt rt node).produceArtifacts context) node.consulting
    fun artifacts => artifacts.services ∈ node.storing.words

theorem scripted_monitor : Scripted rt context .monitor := by
  refine follows_read_bind fun state => ?_
  refine follows_seq follows_queryPrometheus fun queue _ => ?_
  refine follows_seq follows_queryPrometheus fun latency _ => ?_
  refine follows_seq follows_queryPrometheus fun errorRatio _ => ?_
  refine follows_silent_bind follows_ofExcept fun snapshot _ => ?_
  refine follows_silent_bind (silent_utcNow _) fun updatedAt _ => ?_
  refine follows_bind_silent follows_completeStructured fun reasoning _ => ?_
  refine follows_silent_bind follows_ofExcept fun healthSnapshots _ => ?_
  refine follows_silent_bind silent_uuid4 fun reportId _ => ?_
  refine follows_silent_bind (silent_utcNow _) fun capturedAt _ => ?_
  refine follows_silent_bind follows_ofExcept fun report _ => ?_
  refine follows_silent_bind (silent_appendIf asks_inward_newCommand) fun optimizes hoptimizes => ?_
  refine follows_silent_bind (silent_appendIf asks_inward_newCommand) fun audits haudits => ?_
  refine follows_silent_bind (silent_of_inward asks_inward_newMemory) fun memory _ => ?_
  refine follows_pure ?_
  simp only [AgentArtifacts.services_eq, List.map_append, List.append_assoc]
  exact Script.mem_words_seq (Script.mem_words_say _) (Script.mem_words_seq
    (mem_words_optional hoptimizes) (Script.mem_words_seq (mem_words_optional haudits)
      (Script.mem_words_say _)))

theorem scripted_analyzer : Scripted rt context .analyzer := by
  refine follows_read_bind fun state => ?_
  refine follows_seq follows_queryBlackboard fun result _ => ?_
  refine follows_seq follows_queryPrometheus fun latency _ => ?_
  refine follows_bind_silent follows_completeStructured fun reasoning _ => ?_
  refine follows_silent_bind (silent_of_inward asks_inward_newCommand) fun command _ => ?_
  refine follows_silent_bind (silent_of_inward asks_inward_newMemory) fun memory _ => ?_
  refine follows_pure ?_
  rw [AgentArtifacts.services_eq]
  exact Script.mem_words_seq (Script.mem_words_say _) (Script.mem_words_say _)

theorem scripted_plannerExecutor : Scripted rt context .plannerExecutor := by
  refine follows_read_bind fun state => ?_
  refine follows_seq follows_runSandboxCommand fun result _ => ?_
  refine follows_bind_silent follows_completeStructured fun reasoning _ => ?_
  refine follows_silent_bind (silent_of_inward asks_inward_newMemory) fun memory _ => ?_
  refine follows_silent_bind (silent_appendIf asks_inward_newCommand) fun commands hcommands => ?_
  refine follows_pure ?_
  simp only [AgentArtifacts.services_eq, Option.toList_none, List.map_nil, List.append_nil]
  exact Script.mem_words_seq (Script.mem_words_say _) (mem_words_optional hcommands)

theorem scripted_optimizer : Scripted rt context .optimizer := by
  refine follows_read_bind fun state => ?_
  refine follows_seq follows_queryBlackboard fun history _ => ?_
  refine follows_seq follows_queryPrometheus fun latency _ => ?_
  refine follows_bind_silent follows_completeStructured fun reasoning _ => ?_
  refine follows_silent_bind silent_uuid4 fun proposalId _ => ?_
  refine follows_silent_bind (silent_utcNow _) fun proposedAt _ => ?_
  refine follows_silent_bind (silent_of_inward asks_inward_newMemory) fun memory _ => ?_
  refine follows_pure ?_
  rw [AgentArtifacts.services_eq]
  exact Script.mem_words_seq (Script.mem_words_say _) (Script.mem_words_say _)

theorem follows_linkLineage {matching : List BlackboardMemoryRecord} {target : Uuid} :
    Follows calledServices (Knowledge.linkLineage rt matching target) (.opt (.say .relation))
      fun _ => True := by
  cases matching with
  | nil => exact (follows_pure trivial).left
  | cons record rest =>
      refine Follows.right ?_
      exact follows_silent_bind silent_uuid4 fun relationId _ => follows_send _

theorem scripted_knowledge : Scripted rt context .knowledge := by
  refine follows_read_bind fun state => ?_
  refine follows_seq follows_queryBlackboard fun result _ => ?_
  refine follows_seq follows_completeStructured fun reasoning _ => ?_
  refine follows_silent_bind (silent_of_inward asks_inward_newMemory) fun memory _ => ?_
  refine follows_bind_silent (follows_linkLineage rt) fun _ _ => ?_
  refine follows_pure ?_
  rw [AgentArtifacts.services_eq]
  exact Script.mem_words_say _

theorem asks_inward_auditFindings {state : GestaltGraphState} {errorRatio : Rat} :
    (SecurityAudit.auditFindings rt state errorRatio).Asks Inward := by
  refine asks_bind (asks_appendIf ?_) fun failures => ?_
  · exact asks_bind (asks_query trivial) fun _ => asks_bind (asks_query trivial) fun _ =>
      asks_pure _
  refine asks_bind (asks_appendIf ?_) fun errors => ?_
  · exact asks_bind (asks_query trivial) fun _ => asks_pure _
  refine asks_bind (asks_appendIf ?_) fun history => asks_pure _
  exact asks_bind (asks_query trivial) fun _ => asks_pure _

theorem scripted_securityAudit : Scripted rt context .securityAudit := by
  refine follows_read_bind fun state => ?_
  refine follows_seq follows_queryBlackboard fun result _ => ?_
  refine follows_seq follows_inspectRedisStream fun entries _ => ?_
  refine follows_seq follows_queryPrometheus fun errorRatio _ => ?_
  refine follows_silent_bind (silent_of_inward (asks_inward_auditFindings rt))
    fun findings _ => ?_
  refine follows_bind_silent follows_completeStructured fun reasoning _ => ?_
  refine follows_silent_bind (silent_appendIf asks_inward_newCommand) fun commands hcommands => ?_
  refine follows_silent_bind silent_uuid4 fun reportId _ => ?_
  refine follows_silent_bind (silent_utcNow _) fun reportedAt _ => ?_
  refine follows_silent_bind (silent_of_inward asks_inward_newMemory) fun memory _ => ?_
  refine follows_pure ?_
  rw [AgentArtifacts.services_eq]
  exact Script.mem_words_seq (Script.mem_words_say _) (Script.mem_words_seq
    (mem_words_optional hcommands) (Script.mem_words_say _))

/-- An approval is registered once; what comes before it can only raise. -/
theorem follows_issuePeerApproval {targetAgent : Value} {rationale : MinStr 8} :
    Follows calledServices (Orchestrator.issuePeerApproval rt targetAgent rationale)
      (.say .approval) fun _ => True := by
  refine follows_read_bind fun state => ?_
  refine follows_silent_bind (silent_utcNow _) fun now _ => ?_
  have happroval : ∀ {traceId expiresAt},
      (Orchestrator.newApproval traceId targetAgent rationale expiresAt).Asks Inward := by
    intro traceId expiresAt
    refine asks_bind (asks_ofExcept _) fun target => asks_bind (asks_query trivial) fun now => ?_
    split
    · exact asks_raise _
    · exact asks_bind (asks_query trivial) fun _ => asks_pure _
  refine follows_silent_bind (silent_of_inward happroval) fun approval _ => ?_
  refine follows_bind_silent (follows_send _) fun _ _ => silent_of_inward ?_
  exact asks_bind (asks_modify _) fun _ => asks_pure _

/-- A cycle is closed on the evidence of the blackboard. -/
theorem follows_finalize : Follows calledServices (Orchestrator.finalize rt) (.say .evidence)
    fun artifacts => artifacts.services = [] := by
  refine follows_read_bind fun state => ?_
  have hcohesion : Follows calledServices (Orchestrator.evaluateCohesion rt) (.say .evidence)
      fun _ => True :=
    follows_read_bind fun _ => follows_bind_silent (follows_send _) fun _ _ => follows_pure trivial
  refine follows_bind_silent hcohesion fun cohesionScore _ => ?_
  refine follows_silent_bind follows_ofExcept fun securityRiskScore _ => ?_
  refine follows_silent_bind silent_uuid4 fun cycleId _ => ?_
  refine follows_silent_bind (silent_utcNow _) fun producedAt _ => ?_
  exact follows_pure rfl

theorem follows_dispatch {nextAgent : Value} {rest : List Value} :
    Follows calledServices (Orchestrator.dispatch rt context nextAgent rest)
      (.seq (.opt (.say .completion)) (.say .approval))
      fun artifacts => artifacts.services = [] := by
  refine follows_read_bind fun state => ?_
  refine follows_seq follows_completeStructured fun reasoning _ => ?_
  refine follows_bind_silent (follows_issuePeerApproval rt) fun _ _ => ?_
  refine follows_silent_bind follows_ofExcept fun recipient _ => ?_
  refine follows_silent_bind (silent_of_inward asks_inward_newMessage) fun message _ => ?_
  split
  · exact follows_raise
  · exact follows_pure rfl

theorem scripted_orchestrator : Scripted rt context .orchestrator := by
  have hnothing : ∀ artifacts : AgentArtifacts, artifacts.services = [] →
      artifacts.services ∈ AgentName.orchestrator.storing.words := by
    intro artifacts h
    rw [h]
    exact Script.mem_words_done
  refine follows_read_bind fun state => ?_
  split
  · exact follows_raise
  · exact (follows_finalize rt).left.mono hnothing
  · exact (follows_dispatch rt context).right.mono hnothing

/-- Every agent keeps to its script. -/
theorem scripted (node : AgentName) : Scripted rt context node := by
  cases node with
  | orchestrator => exact scripted_orchestrator rt context
  | monitor => exact scripted_monitor rt context
  | analyzer => exact scripted_analyzer rt context
  | plannerExecutor => exact scripted_plannerExecutor rt context
  | optimizer => exact scripted_optimizer rt context
  | knowledge => exact scripted_knowledge rt context
  | securityAudit => exact scripted_securityAudit rt context

end Builders

end Gestalt
