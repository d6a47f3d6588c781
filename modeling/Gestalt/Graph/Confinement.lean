import Gestalt.Graph.Grammar
import Gestalt.Graph.Selection

/-!
# Gestalt.Graph.Confinement

What a cycle sends out.

Agents hand each other commands, memories and reports, and read what models,
tools and the blackboard say.  None of it shapes what they ask in turn: beside
what is deposited in the stores, the calls of a cycle are among seventeen that
the settings and the objective fix when the request arrives.
-/

namespace Gestalt

open Effects Program

/-! ## the calls -/

/-- The call hands data to a store of the process, or to its event bus. -/
def Call.Deposits : Call → Prop
  | .writeMemory _ | .writeCommand _ | .writeStatsReport _ | .writeAuditReport _
  | .writeOptimizationProposal _ | .linkEntities _ | .approve _ => True
  | _ => False

namespace Runtime

variable (rt : Runtime) (objective : MinStr 3)

/-- The completion the agent requests, if the gateway does not mock it. -/
def completionFor (a : AgentName) : CompletionRequest where
  model := rt.settings.models.routes.aliasOf (rt.preference a)
  temperature := rt.settings.models.temperature
  maxTokens := rt.settings.models.maxTokens
  systemPrompt := rt.systemPrompt a
  userPrompt := a.task ++ objective.val

theorem one_le_semanticTopK : 1 ≤ rt.settings.blackboard.semanticTopK :=
  rt.settings.blackboard.top_k_pos

theorem semanticTopK_le : rt.settings.blackboard.semanticTopK ≤ 100 :=
  rt.settings.blackboard.top_k_le

/-- The query every invocation makes for its context. -/
def recallQuery : BlackboardQuery where
  query := objective.weaken
  limit := rt.settings.blackboard.semanticTopK
  limit_pos := rt.one_le_semanticTopK
  limit_le := rt.semanticTopK_le

/-- The one command for the shell. -/
def echoCall : Call :=
  .bash ("echo 'gestalt planner executed objective: " ++ objective.val ++ "'")
    (rt.resolve (PosixPath.join (rt.resolve "/workspace") ".")) 15

/-- All the calls of a cycle that are no deposits. -/
def outboundCalls : List Call :=
  ([.orchestrator, .monitor, .analyzer, .plannerExecutor, .optimizer, .knowledge,
    .securityAudit].map fun a => .acompletion (rt.completionFor objective a) a.responseModel) ++
  [.queryMemory (rt.recallQuery objective),
    .queryMemory (plainQuery objective.weaken 5),
    .queryMemory (plainQuery (plainText "optimization proposal") 3),
    .queryMemory (plainQuery (plainText "audit security risk") 5),
    .computeCohesionInputs,
    .prometheusQuery (plainText "queue_depth"),
    .prometheusQuery (plainText "latency_p95_ms"),
    .prometheusQuery (plainText "error_ratio"),
    .redisStreamInspect rt.settings.events.streamName 10,
    rt.echoCall objective]

end Runtime

section Calls

variable {rt : Runtime} {objective : MinStr 3} {a : AgentName} {s : GestaltGraphState}

/-- A completion the agent may request is the one it has for the objective. -/
theorem Requests.eq_completionFor {request : CompletionRequest} {responseModel : ResponseModel}
    (h : Requests rt objective a request responseModel) :
    request = rt.completionFor objective a := by
  obtain ⟨-, ⟨stats, hmodel⟩, hprompt, htask, ⟨htemperature, htokens⟩, -⟩ := h
  rw [Runtime.requestedAlias_eq] at hmodel
  cases request
  simp_all [Runtime.completionFor]

theorem Runtime.acompletion_mem_outboundCalls (rt : Runtime) (objective : MinStr 3)
    (a : AgentName) :
    .acompletion (rt.completionFor objective a) a.responseModel ∈ rt.outboundCalls objective := by
  refine List.mem_append_left _ (List.mem_map.mpr ⟨a, ?_, rfl⟩)
  cases a <;> simp

theorem Runtime.prometheusQuery_mem_outboundCalls (rt : Runtime) (objective : MinStr 3)
    {query : MinStr 1} (h : query.val ∈ ["queue_depth", "latency_p95_ms", "error_ratio"]) :
    .prometheusQuery query ∈ rt.outboundCalls objective := by
  obtain ⟨text, hlength⟩ := query
  simp only [List.mem_cons, List.not_mem_nil, or_false] at h
  rcases h with rfl | rfl | rfl <;> simp [outboundCalls, plainText]

/-- Where no inbound payload has a text for the shell, the objective is quoted. -/
theorem PlannerExecutor.commandText_of_no_candidate {commands : List GestaltCommand}
    (h : ∀ command ∈ commands, candidateCommand (some command) = none) :
    commandText objective.val commands.head? =
      "echo 'gestalt planner executed objective: " ++ objective.val ++ "'" := by
  rw [commandText]
  cases hhead : commands.head? with
  | none => rfl
  | some command =>
      rw [h command (List.mem_of_mem_head? hhead)]
      rfl

/-- A call of a row is a deposit or one of the fixed calls. -/
theorem Consults.outbound {context : AgentContextEnvelope} {call : Call}
    (h : Consults rt context a call) (hobjective : context.objective = objective)
    (hcommands : ∀ command ∈ context.inboundCommands,
      PlannerExecutor.candidateCommand (some command) = none) :
    call.Deposits ∨ call ∈ rt.outboundCalls objective := by
  subst hobjective
  cases call with
  | acompletion request responseModel =>
      right
      have hrequests : Requests rt context.objective a request responseModel := by
        cases a <;> exact h
      rw [hrequests.eq_completionFor, hrequests.answered]
      exact rt.acompletion_mem_outboundCalls context.objective a
  | queryMemory query =>
      right
      cases a <;> first
        | exact h.elim
        | (obtain ⟨-, rfl⟩ := h
           simp [Runtime.outboundCalls])
  | prometheusQuery query =>
      right
      have hquery : query.val ∈ ["queue_depth", "latency_p95_ms", "error_ratio"] := by
        cases a <;> first
          | exact h.elim
          | exact h.2
          | simp [h.2]
      exact rt.prometheusQuery_mem_outboundCalls _ hquery
  | redisStreamInspect streamName count =>
      right
      cases a <;> first
        | exact h.elim
        | (obtain ⟨-, rfl, rfl⟩ := h
           simp [Runtime.outboundCalls])
  | bash command cwd timeoutSeconds =>
      right
      cases a <;> try exact h.elim
      obtain ⟨-, hsandboxed, rfl, rfl⟩ := h
      rw [hsandboxed.resolved, PlannerExecutor.commandText_of_no_candidate hcommands]
      simp [Runtime.outboundCalls, Runtime.echoCall]
  | computeCohesionInputs =>
      right
      simp [Runtime.outboundCalls]
  | _ => exact Or.inl trivial

/-- A call that is granted is a deposit or one of the fixed calls. -/
theorem Granted.outbound {call : Call} (h : Granted rt a s call) (hform : s.InForm rt) :
    call.Deposits ∨ call ∈ rt.outboundCalls s.objective := by
  cases h with
  | recalls => exact Or.inr (by simp [Runtime.outboundCalls, Runtime.recallQuery, contextQuery])
  | @writes row _ => cases row <;> exact Or.inl trivial
  | @consults context _ hcontext hrow =>
      refine hrow.outbound hcontext.objective fun command hmem => ?_
      rw [hcontext.inbound] at hmem
      obtain ⟨issuer, hissued⟩ := hform.commands command (List.mem_of_mem_filter hmem)
      exact hissued.candidateCommand

end Calls

/-- **Confinement.**  In every run of every cycle, whatever models, tools and the
blackboard answer and whatever fails, each call of a step is a deposit in a store
of the process, or one of seventeen calls that the settings and the objective of
the request fix beforehand.  So nothing that was read, recalled or replied ever
appears in a prompt, a query or a command for the shell. -/
theorem Cycle.confined_after (rt : Runtime) (fresh : Fresh) (request : CycleRequest)
    (visits : Nat → Visit) (n : Nat) :
    ∀ ev ∈ (after rt visits (start fresh request) n).events rt (visits n),
      ∀ call, ev.op = .call call →
        call.Deposits ∨ call ∈ rt.outboundCalls request.objective := by
  intro ev hev call hop
  have hsound := sound_after rt fresh request visits n
  obtain ⟨node, -, -, hmem⟩ := exists_run_of_mem_events hsound.inRange hev
  have hgranted := (spec_conducted rt node _).emits_of_mem (fun _ _ => trivial) ev hmem call hop
  have houtbound := hgranted.outbound (inForm_after rt fresh request visits n)
  rwa [hsound.same.objective] at houtbound

/-- The planner of the reference world sends the shell what was fixed for its
objective. -/
theorem Cycle.confined_after_planner :
    ∃ call, ¬ call.Deposits ∧
      (∃ ev ∈ (after Reference.runtime Reference.calm
          (start Reference.fresh Reference.plannerRequest) 1).events Reference.runtime
          (Reference.calm 1), ev.op = .call call) ∧
      call ∈ Reference.runtime.outboundCalls Reference.plannerRequest.objective := by
  have hshell : (⟨"echo 'gestalt planner executed objective: Watch the cluster'",
      "/workspace/.", 15⟩ : ShellCall) ∈ shellCalls
        ((after Reference.runtime Reference.calm
          (start Reference.fresh Reference.plannerRequest) 1).events Reference.runtime
          (Reference.calm 1)) := by
    decide +kernel
  obtain ⟨ev, hev, hop⟩ := exists_bash_of_mem hshell
  have hconfined := confined_after Reference.runtime Reference.fresh Reference.plannerRequest
    Reference.calm 1 ev hev _ hop
  exact ⟨_, id, ⟨ev, hev, hop⟩, hconfined.resolve_left id⟩

end Gestalt
