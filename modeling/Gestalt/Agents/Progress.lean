import Gestalt.Agents.Access
import Gestalt.Graph.Replies
import Gestalt.Stats.Range

/-!
# Gestalt.Agents.Progress

What it takes for the artifact builders to return.

Each builder raises only for a reason outside of it: a call that fails, a tool
that is not allowed, a measurement out of its range, a text the sandbox blocks.
Where the world answers every call, telemetry is plausible and the runtime is
equipped, none of these is left, and every specialist completes.
-/

namespace Gestalt

open Effects Program

/-! ## a runtime in order -/

/-- The tools the builder of each agent uses. -/
def AgentName.tools : AgentName → List String
  | .orchestrator => []
  | .monitor => ["prometheus_query"]
  | .analyzer => analyzerTools
  | .plannerExecutor => ["sandbox_command"]
  | .optimizer => ["blackboard_query", "prometheus_query"]
  | .knowledge => ["blackboard_query"]
  | .securityAudit => auditTools

/-- Every agent is allowed its tools, a health snapshot can carry the name of
every configured agent, and the workspace contains itself. -/
structure Runtime.Equipped (rt : Runtime) : Prop where
  allowed : ∀ a : AgentName, ∀ tool ∈ a.tools, rt.allowsTool a tool
  named : ∀ kv ∈ rt.settings.agents, 2 ≤ kv.1.length
  contained : (rt.resolve "/workspace").toList <+:
    (rt.resolve (PosixPath.join (rt.resolve "/workspace") ".")).toList

/-- No blocked term occurs in the text. -/
def Runtime.Unblocked (rt : Runtime) (text : String) : Prop :=
  ∀ blocked ∈ blockedTerms, occursIn blocked (rt.lower text) = false

instance (rt : Runtime) (text : String) : Decidable (rt.Unblocked text) :=
  inferInstanceAs (Decidable (∀ blocked ∈ blockedTerms, _))

/-- Telemetry measures nothing below zero, and no error ratio above one. -/
def PlausibleReading : Event Services → Prop
  | ⟨.call (.prometheusQuery query), .ok value⟩ =>
      0 ≤ value ∧ (query.val = "error_ratio" → value ≤ 1)
  | _ => True

/-- A sampled value is a plausible one. -/
theorem Sampled.bounds {allows : Event Services → Prop} {query : String} {value : Rat}
    (h : Sampled allows query value) (hsound : ∀ ev, allows ev → PlausibleReading ev) :
    0 ≤ value ∧ (query = "error_ratio" → value ≤ 1) := by
  obtain ⟨q, rfl, hallowed⟩ := h
  exact hsound _ hallowed

/-! ## checks that pass -/

theorem Ratio.check?_of_mem {q : Rat} (h0 : 0 ≤ q) (h1 : q ≤ 1) :
    check? q = some ⟨q, h0, h1⟩ :=
  dif_pos ⟨h0, h1⟩

theorem NonNegFloat.check?_of_nonneg {q : Rat} (h : 0 ≤ q) : check? q = some ⟨q, h⟩ :=
  dif_pos h

theorem exists_toNat?_of_nonneg {i : Int} (h : 0 ≤ i) : ∃ n, i.toNat? = some n :=
  ⟨i.toNat, Int.mem_toNat?.mpr (Int.toNat_of_nonneg h).symm⟩

namespace Monitor

/-- A snapshot of plausible measurements: none of them is negative. -/
theorem exists_snapshot (state : GestaltGraphState) {queue latency errorRatio : Rat}
    (hqueue : 0 ≤ queue) (hlatency : 0 ≤ latency) (hratio : 0 ≤ errorRatio ∧ errorRatio ≤ 1) :
    ∃ m, snapshot state queue latency errorRatio = .ok m ∧ 0 ≤ m.queueDepth ∧
      0 ≤ m.activeCycles ∧ 0 ≤ m.p95LatencyMs ∧ m.Penalizes := by
  refine ⟨_, by rw [snapshot, Ratio.check?_of_mem hratio.1 hratio.2]; rfl, truncate_nonneg hqueue,
    ?_, hlatency, MonitorSnapshot.penalizes_of_nonneg ?_ ?_⟩
  · exact le_trans (by decide) (le_max_left _ _)
  · exact mul_nonneg hlatency (by norm_num)
  · exact le_trans (by norm_num) (le_max_left _ _)

/-- Every configured agent gets its health snapshot. -/
theorem exists_healthSnapshots {settings : GestaltSettings}
    (h : ∀ kv ∈ settings.agents, 2 ≤ kv.1.length) :
    ∃ snapshots, healthSnapshots settings = .ok snapshots := by
  unfold healthSnapshots
  generalize settings.agents = agents at h
  induction agents with
  | nil => exact ⟨[], rfl⟩
  | cons kv agents ih =>
      obtain ⟨hname, hrest⟩ := List.forall_mem_cons.mp h
      obtain ⟨snapshots, hsnapshots⟩ := ih hrest
      rw [List.mapM_cons, hsnapshots, MinStr.check?_of_le hname]
      exact ⟨_, rfl⟩

/-- A report on statistics in range passes its checks. -/
theorem exists_statsReport (traceId reportId : Uuid) (capturedAt : Int) {stats : GestaltStats}
    {m : MonitorSnapshot} (agentHealth : List AgentHealthSnapshot) (hrange : stats.InRange)
    (hlatency : 0 ≤ m.p95LatencyMs) (hqueue : 0 ≤ m.queueDepth) (hcycles : 0 ≤ m.activeCycles) :
    ∃ report, statsReport traceId reportId capturedAt stats m agentHealth = .ok report := by
  obtain ⟨⟨c0, c1⟩, ⟨r0, r1⟩, ⟨g0, g1⟩⟩ := hrange
  obtain ⟨queueDepth, hqueue⟩ := exists_toNat?_of_nonneg hqueue
  obtain ⟨activeCycles, hcycles⟩ := exists_toNat?_of_nonneg hcycles
  unfold statsReport
  dsimp only
  rw [Score.check?_of_mem c0 c1, Score.check?_of_mem r0 r1, Score.check?_of_mem g0 g1,
    NonNegFloat.check?_of_nonneg hlatency, hqueue, hcycles]
  exact ⟨_, rfl⟩

end Monitor

/-- The mock payload of the optimizer passes its own check. -/
theorem Optimizer.exists_mockReasoning (stats : GestaltStats) (latency : Rat) :
    ∃ reply, mockReasoning stats.deriveModelPolicy.preferredRoute latency = .ok reply := by
  have hlength : 3 ≤ stats.preferredModelRoute.length := by
    have hmem := preferredModelRoute_mem stats
    simp only [modelRoutes, List.mem_cons, List.not_mem_nil, or_false] at hmem
    rcases hmem with h | h | h | h <;> rw [h] <;> decide
  rw [mockReasoning, GestaltStats.deriveModelPolicy, MinStr.check?_of_le hlength]
  exact ⟨_, rfl⟩

/-! ## the builders -/

section Builders

variable {allows : Event Services → Prop} {s : GestaltGraphState}
variable {rt : Runtime} {context : AgentContextEnvelope}

/-- The program leaves the state alone and returns. -/
def Returns {α : Type} (allows : Event Services → Prop) (s : GestaltGraphState) (p : Action α) :
    Prop :=
  Steady allows (fun _ => True) False s p fun _ => True

/-- A tool the agent is allowed is not missing. -/
theorem Runtime.Equipped.not_missing (h : rt.Equipped) (a : AgentName) {tool : String}
    (hmem : tool ∈ a.tools) : tool ∉ (rt.settings.policy a).toolAllowlist → False :=
  fun hnot => hnot (h.allowed a tool hmem)

/-- The sandbox runs a text without blocked terms. -/
theorem returns_runSandboxCommand (hcovers : Covers allows False) (hequipped : rt.Equipped)
    {command : String} (hcommand : rt.Unblocked command) :
    Returns allows s (runSandboxCommand rt .plannerExecutor command "." 15) := by
  have hbash : Returns allows s (sandboxCommand rt command "." 15) := by
    have hfind : (blockedTerms.find? fun blocked => occursIn blocked (rt.lower command)) = none :=
      List.find?_eq_none.mpr fun blocked hmem => by simp [hcommand blocked hmem]
    unfold sandboxCommand
    dsimp only
    rw [hfind, if_pos hequipped.contained]
    exact (steady_send (hcovers.call _) fun _ => trivial).mono fun _ _ => trivial
  exact (steady_executeAllowed (hequipped.not_missing .plannerExecutor (by decide)) hbash).mono
    fun _ _ => trivial

theorem returns_monitor (hcovers : Covers allows False) (hequipped : rt.Equipped)
    (hsound : ∀ ev, allows ev → PlausibleReading ev) :
    Returns allows s (Monitor.produceArtifacts rt context) := by
  have htool := hequipped.not_missing .monitor (List.mem_singleton_self _)
  refine steady_read_bind ?_
  refine steady_bind (steady_queryPrometheus hcovers htool) fun queue hqueue => ?_
  refine steady_bind (steady_queryPrometheus hcovers htool) fun latency hlatency => ?_
  refine steady_bind (steady_queryPrometheus hcovers htool) fun errorRatio hratio => ?_
  have hbounds := hratio.1.bounds hsound
  obtain ⟨m, hm, hdepth, hcycles, hp95, hpenalizes⟩ := Monitor.exists_snapshot s
    (hqueue.1.bounds hsound).1 (hlatency.1.bounds hsound).1
    ⟨hbounds.1, hbounds.2 rfl⟩
  obtain ⟨health, hhealth⟩ := Monitor.exists_healthSnapshots hequipped.named
  refine steady_ofExcept_bind hm ?_
  refine steady_bind (steady_utcNow _) fun updatedAt _ => ?_
  refine steady_bind (steady_completeStructured hcovers.completions (by simp)) fun reasoning _ => ?_
  refine steady_ofExcept_bind hhealth ?_
  refine steady_bind steady_uuid4 fun reportId _ => ?_
  refine steady_bind (steady_utcNow _) fun capturedAt _ => ?_
  obtain ⟨report, hreport⟩ := Monitor.exists_statsReport s.traceId reportId capturedAt health
    ((GestaltStats.inRange_applyMonitorSnapshot_iff (s := s.stats.clamped) _
      (Monitor.thresholdsFromSettings rt.settings) updatedAt).mpr hpenalizes) hp95 hdepth hcycles
  refine steady_ofExcept_bind hreport ?_
  refine steady_bind (steady_appendIf steady_newCommand) fun optimize _ => ?_
  refine steady_bind (steady_appendIf steady_newCommand) fun audit _ => ?_
  exact steady_bind steady_newMemory fun memory _ => steady_pure trivial

theorem returns_plannerExecutor (hcovers : Covers allows False) (hequipped : rt.Equipped)
    (hcommand : rt.Unblocked (PlannerExecutor.commandText context.objective.val
      context.inboundCommands.head?)) :
    Returns allows s (PlannerExecutor.produceArtifacts rt context) := by
  refine steady_read_bind ?_
  refine steady_bind (returns_runSandboxCommand hcovers hequipped hcommand) fun result _ => ?_
  refine steady_bind (steady_completeStructured hcovers.completions (by simp)) fun reasoning _ => ?_
  refine steady_bind steady_newMemory fun memory _ => ?_
  exact steady_bind (steady_appendIf steady_newCommand) fun commands _ => steady_pure trivial

theorem returns_optimizer (hcovers : Covers allows False) (hequipped : rt.Equipped) :
    Returns allows s (Optimizer.produceArtifacts rt context) := by
  refine steady_read_bind ?_
  refine steady_bind (steady_queryBlackboard hcovers
    (hequipped.not_missing .optimizer (by decide))) fun history _ => ?_
  refine steady_bind (steady_queryPrometheus hcovers
    (hequipped.not_missing .optimizer (by decide))) fun latency _ => ?_
  refine steady_bind (steady_completeStructured hcovers.completions fun _ e he => ?_)
    fun reasoning _ => ?_
  · obtain ⟨reply, hreply⟩ := Optimizer.exists_mockReasoning s.stats latency
    rw [hreply] at he
    contradiction
  refine steady_bind steady_uuid4 fun proposalId _ => ?_
  refine steady_bind (steady_utcNow _) fun proposedAt _ => ?_
  exact steady_bind steady_newMemory fun memory _ => steady_pure trivial

theorem returns_linkLineage (hcovers : Covers allows False)
    {matching : List BlackboardMemoryRecord} {target : Uuid} :
    Returns allows s (Knowledge.linkLineage rt matching target) := by
  cases matching with
  | nil => exact steady_pure trivial
  | cons record matching =>
      refine steady_bind steady_uuid4 fun relationId _ => ?_
      exact (steady_send (hcovers.call _) fun _ => trivial).mono fun _ _ => trivial

theorem returns_knowledge (hcovers : Covers allows False) (hequipped : rt.Equipped) :
    Returns allows s (Knowledge.produceArtifacts rt context) := by
  refine steady_read_bind ?_
  refine steady_bind (steady_queryBlackboard hcovers
    (hequipped.not_missing .knowledge (by decide))) fun result _ => ?_
  refine steady_bind (steady_completeStructured hcovers.completions (by simp)) fun reasoning _ => ?_
  refine steady_bind steady_newMemory fun memory _ => ?_
  exact steady_bind (returns_linkLineage hcovers) fun _ _ => steady_pure trivial

/-- **Progress**: where every call is answered plausibly, the builder of a
specialist of an equipped runtime returns. -/
theorem returns_specialist {node : AgentName} (hnode : node ≠ .orchestrator)
    (hanswered : ∀ ev, allows ev → Answered ev) (hsound : ∀ ev, allows ev → PlausibleReading ev)
    (hequipped : rt.Equipped) (hcontext : ContextOf node s context)
    (hshell : ∀ text, shellText s node = some text → rt.Unblocked text) :
    Returns allows s ((agentAt rt node).produceArtifacts context) := by
  have hcovers := covers_of_answered hanswered
  cases node with
  | orchestrator => contradiction
  | monitor => exact returns_monitor hcovers hequipped hsound
  | analyzer =>
      exact (steady_analyzer hcovers fun tool htool =>
        hequipped.not_missing .analyzer htool).mono fun _ _ => trivial
  | plannerExecutor =>
      refine returns_plannerExecutor hcovers hequipped (hshell _ ?_)
      rw [shellText, if_pos rfl, hcontext.objective, hcontext.inbound]
  | optimizer => exact returns_optimizer hcovers hequipped
  | knowledge => exact returns_knowledge hcovers hequipped
  | securityAudit =>
      exact (steady_securityAudit hcovers
        (Or.inl fun tool htool => hequipped.allowed .securityAudit tool htool)).mono
        fun _ _ => trivial

end Builders

end Gestalt
