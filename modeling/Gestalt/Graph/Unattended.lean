import Gestalt.Graph.Enablement
import Gestalt.Graph.Grammar
import Gestalt.Graph.WriteAhead

/-!
# Gestalt.Graph.Unattended

The cycles the scheduler starts.

`build_scheduler` has four jobs, and each starts cycles for one specialist.  With
no other requests coming in, only these specialists and the orchestrator ever
run: no command reaches the agent it asks, and nothing is handed to the shell.
-/

namespace Gestalt

open Effects Program

/-! ## the jobs -/

/-- The periodic jobs of `build_scheduler`. -/
inductive ScheduledJob where
  | monitor
  | securityAudit
  | knowledgeMaintenance
  | optimizerMaintenance
  deriving DecidableEq, Repr

namespace ScheduledJob

/-- The id of the job. -/
def id : ScheduledJob → String
  | monitor => "monitor"
  | securityAudit => "security_audit"
  | knowledgeMaintenance => "knowledge_maintenance"
  | optimizerMaintenance => "optimizer_maintenance"

/-- The specialist the job is for. -/
def specialist : ScheduledJob → Specialist
  | monitor => .monitor
  | securityAudit => .securityAudit
  | knowledgeMaintenance => .knowledge
  | optimizerMaintenance => .optimizer

/-- The request the job runs a cycle for. -/
def request : ScheduledJob → CycleRequest
  | monitor => schedulerRequest (.text "Scheduled monitoring cycle") "monitor"
  | securityAudit => schedulerRequest (.text "Scheduled security audit cycle") "security_audit"
  | knowledgeMaintenance => schedulerRequest (.text "Scheduled knowledge curation") "knowledge"
  | optimizerMaintenance =>
      schedulerRequest (.text "Scheduled optimization maintenance") "optimizer"

/-- The plan of the job is its specialist. -/
theorem determineNextAgents_request (job : ScheduledJob) (rt : Runtime) (fresh : Fresh) :
    Orchestrator.determineNextAgents rt (buildGraphState fresh job.request) =
      [job.specialist.name] := by
  cases job <;> rfl

/-- The specialist of a job issues no command to itself. -/
theorem target_ne (job : ScheduledJob) {rt : Runtime} {command : GestaltCommand}
    (h : IssuedBy rt job.specialist.agent command) :
    command.targetAgent.val ≠ job.specialist.name := by
  have hshape := h.shape
  have htarget : command.targetAgent.val = command.shape.target := rfl
  rw [htarget]
  generalize command.shape = shape at hshape
  cases job with
  | monitor => rcases hshape with rfl | rfl <;> decide
  | securityAudit =>
      obtain rfl : shape = _ := hshape
      decide
  | knowledgeMaintenance => exact hshape.elim
  | optimizerMaintenance => exact hshape.elim

end ScheduledJob

/-! ## cycles for one specialist -/

/-- The cycle runs the specialist and the orchestrator, and its commands are the
specialist's. -/
structure Cycle.OnDuty (rt : Runtime) (a : Specialist) (c : Cycle) : Prop where
  visited : ∀ node ∈ c.visited, node = .orchestrator ∨ node = a.agent
  orchestrator : c.cursor = .at .orchestrator → AtTurn rt [a.name] c.state
  specialist : ∀ node, c.cursor = .at node → node ≠ .orchestrator →
    node = a.agent ∧ Underway [a.name] c.state
  commands : ∀ command ∈ c.state.commands, IssuedBy rt a.agent command

section Steps

variable {rt : Runtime} {a : Specialist} {c : Cycle} {v : Visit}

theorem Cycle.OnDuty.node (h : c.OnDuty rt a) {node : AgentName} (hcursor : c.cursor = .at node) :
    node = .orchestrator ∨ node = a.agent := by
  by_cases hnode : node = .orchestrator
  · exact Or.inl hnode
  · exact Or.inr (h.specialist node hcursor hnode).1

/-- A cycle that has stopped needs no turn. -/
theorem Cycle.OnDuty.of_stopped {c' : Cycle} (hstopped : ∀ node, c'.cursor ≠ .at node)
    (hvisited : ∀ node ∈ c'.visited, node = .orchestrator ∨ node = a.agent)
    (hcommands : ∀ command ∈ c'.state.commands, IssuedBy rt a.agent command) : c'.OnDuty rt a :=
  ⟨hvisited, fun hcursor => absurd hcursor (hstopped _),
    fun node hcursor => absurd hcursor (hstopped node), hcommands⟩

/-- A visit that returns issues commands of the specialist only. -/
theorem Cycle.OnDuty.issued (h : c.OnDuty rt a) {node : AgentName} {out : GestaltGraphState}
    (hcursor : c.cursor = .at node) (hrun : (c.agentRun rt v node).result = .ok out) :
    ∀ command ∈ out.commands, IssuedBy rt a.agent command := by
  obtain ⟨entry, rfl, hproduces⟩ :=
    (spec_produces rt node c.state).of_ok (fun _ _ => trivial) hrun
  obtain ⟨commands, hcommands, hissued⟩ := hproduces.commands
  intro command hmem
  rw [hcommands, List.mem_append] at hmem
  rcases hmem with hmem | hmem
  · exact h.commands command hmem
  · have hform := hissued command hmem
    rcases h.node hcursor with hnode | hnode
    · rw [hnode] at hform
      exact hform.shape.elim
    · rwa [hnode] at hform

/-- **One step** keeps a cycle on duty. -/
theorem Cycle.OnDuty.step (h : c.OnDuty rt a) (hrange : c.state.stats.InRange) (v : Visit) :
    (c.step rt v).OnDuty rt a := by
  have hmoves := moves hrange rt v
  have hahead := hmoves.underway h.orchestrator fun node hcursor hnode =>
    (h.specialist node hcursor hnode).2
  have hvisited : ∀ {node}, c.cursor = .at node →
      ∀ seen ∈ c.visited ++ [node], seen = .orchestrator ∨ seen = a.agent := by
    intro node hcursor seen hseen
    rcases List.mem_append.mp hseen with hseen | hseen
    · exact h.visited seen hseen
    · obtain rfl := List.mem_singleton.mp hseen
      exact h.node hcursor
  generalize c.step rt v = c' at hmoves hahead ⊢
  cases hmoves with
  | stays _ => exact h
  | rejected hcursor _ => exact .of_stopped (fun _ h => by cases h) h.visited h.commands
  | raised hcursor _ _ => exact .of_stopped (fun _ h => by cases h) (hvisited hcursor) h.commands
  | @visited node out hcursor _ hrun =>
      have hcommands := h.issued hcursor hrun
      rcases hahead with hstopped | hunderway
      · exact .of_stopped hstopped (hvisited hcursor) hcommands
      · refine ⟨hvisited hcursor, fun _ => hunderway.atTurn, fun next hnext hne => ?_, hcommands⟩
        -- only the orchestrator is followed by a specialist, the one it routes to
        have hnext : nextCursor node out = .at next := hnext
        unfold nextCursor at hnext
        split at hnext
        · obtain ⟨name, hname, hroute⟩ := hunderway.route
          obtain rfl := List.mem_singleton.mp hname
          have hroute' : routeFromOrchestrator out = some a.name := by
            rw [routeFromOrchestrator, hroute]
            rfl
          rw [hroute', followRoute_name] at hnext
          exact ⟨(Cursor.at.inj hnext).symm, hunderway⟩
        · exact absurd (Cursor.at.inj hnext).symm hne

/-- A cycle of a job starts on duty. -/
theorem ScheduledJob.onDuty_start (job : ScheduledJob) (rt : Runtime) (fresh : Fresh) :
    (Cycle.start fresh job.request).OnDuty rt job.specialist := by
  have hmetadata : ∀ key, key ≠ "scheduled_agent" →
      (buildGraphState fresh job.request).metadata.get? key = none := by
    intro key hkey
    refine Table.get?_of_not_mem_keys ?_
    cases job <;> simpa [buildGraphState, request, schedulerRequest] using hkey
  have hplan : Orchestrator.pendingAgents rt (buildGraphState fresh job.request) =
      some ([job.specialist.name].map .str) := by
    rw [Orchestrator.pendingAgents, hmetadata _ (by decide), job.determineNextAgents_request]
  refine ⟨by simp [Cycle.start], fun _ => ⟨⟨_, hplan, List.Subset.refl _⟩, Or.inl ?_⟩, ?_, ?_⟩
  · exact hmetadata _ (by decide)
  · exact fun node hcursor hnode => absurd (Cursor.at.inj hcursor).symm hnode
  · simp [Cycle.start, buildGraphState]

/-- A specialist on duty finds no command in its context. -/
theorem Cycle.OnDuty.received_eq_nil {job : ScheduledJob} (h : c.OnDuty rt job.specialist)
    (hrange : c.state.stats.InRange) (hcursor : c.cursor ≠ .at .orchestrator) :
    c.received rt v = [] := by
  refine List.eq_nil_iff_forall_not_mem.mpr fun command hmem => ?_
  obtain ⟨node, hnode, -, hinbound⟩ := mem_of_received hmem hrange
  obtain rfl | rfl := h.node hnode
  · exact hcursor hnode
  · obtain ⟨hcommand, hwaits⟩ := List.mem_filter.mp hinbound
    have htarget := (of_decide_eq_true hwaits).1
    exact job.target_ne (h.commands command hcommand) htarget

/-- The shell is the planner's. -/
theorem Granted.eq_plannerExecutor {node : AgentName} {s : GestaltGraphState}
    {command cwd : String} {timeoutSeconds : Nat}
    (h : Granted rt node s (.bash command cwd timeoutSeconds)) : node = .plannerExecutor := by
  generalize hcall : Call.bash command cwd timeoutSeconds = asked at h
  cases h with
  | recalls => contradiction
  | @writes row _ => cases row <;> contradiction
  | consults _ inRow =>
      subst hcall
      cases node <;> first | rfl | exact inRow.elim

/-- Nothing on duty is handed to the shell. -/
theorem Cycle.OnDuty.shellCalls_eq_nil {job : ScheduledJob} (h : c.OnDuty rt job.specialist)
    (hrange : c.state.stats.InRange) : shellCalls (c.events rt v) = [] := by
  refine List.eq_nil_iff_forall_not_mem.mpr fun call hmem => ?_
  obtain ⟨ev, hev, hop⟩ := exists_bash_of_mem hmem
  obtain ⟨node, hcursor, -, hrun⟩ := exists_run_of_mem_events hrange hev
  have hgranted := (spec_conducted rt node _).emits_of_mem (fun _ _ => trivial) ev hrun _ hop
  obtain rfl := hgranted.eq_plannerExecutor
  rcases h.node hcursor with hnode | hnode
  · contradiction
  · cases job <;> contradiction

/-- The orchestrator writes no row. -/
theorem Row.not_writtenBy_orchestrator {row : Row} : ¬ row.WrittenBy rt .orchestrator := by
  intro h
  cases row with
  | memory _ => exact absurd h.note (by simp [AgentName.note])
  | command _ => exact h.shape.elim
  | statsReport _ => contradiction
  | auditReport _ => exact absurd h.1 (by decide)
  | proposal _ => contradiction

/-- The rows a step on duty stores are the specialist's. -/
theorem Cycle.OnDuty.writtenBy (h : c.OnDuty rt a) (hrange : c.state.stats.InRange) {row : Row}
    (hrow : row ∈ (c.events rt v).flatMap storedRows) : row.WrittenBy rt a.agent := by
  obtain ⟨node, hcursor, hwritten⟩ := writtenBy_of_stored hrange hrow
  rcases h.node hcursor with rfl | rfl
  · exact absurd hwritten Row.not_writtenBy_orchestrator
  · exact hwritten

end Steps

namespace SharedBoard

variable {ι : Type} [DecidableEq ι]

/-- Every cycle of a job is on duty. -/
theorem onDuty_run (rt : Runtime) (fresh : ι → Fresh) (job : ι → ScheduledJob)
    (turns : List (ι × Visit)) (i : ι) :
    ((run rt fresh (fun i => (job i).request) turns).cycles i).OnDuty rt (job i).specialist := by
  induction turns using List.reverseRecOn generalizing i with
  | nil => exact (job i).onDuty_start rt (fresh i)
  | append_singleton turns turn ih =>
      have hsound := sound_run rt fresh (fun i => (job i).request) turns
      rw [run_snoc]
      exact (Function.forall_update_iff _ fun i (c : Cycle) => c.OnDuty rt (job i).specialist).mpr
        ⟨(ih turn.1).step (hsound.cycles turn.1).inRange turn.2, fun i _ => ih i⟩ i

/-- **Unattended.**  Any number of cycles of the scheduled jobs share a blackboard,
in whatever order they take their turns, whatever is answered and whatever fails.
Each visits the orchestrator and the specialist of its job only, whose rows are all
it writes.  No specialist finds a command in its context, and nothing is handed to
the shell. -/
theorem unattended_run (rt : Runtime) (fresh : ι → Fresh) (job : ι → ScheduledJob)
    (turns : List (ι × Visit)) :
    let d := run rt fresh (fun i => (job i).request) turns
    (∀ i, ∀ node ∈ (d.cycles i).visited,
      node = .orchestrator ∨ node = (job i).specialist.agent) ∧
    (∀ i v, shellCalls ((d.cycles i).events rt v) = [] ∧
      ((d.cycles i).cursor ≠ .at .orchestrator → (d.cycles i).received rt v = [])) ∧
    ∀ row ∈ d.rows, ∃ i, row.traceId = (fresh i).traceId ∧
      row.WrittenBy rt (job i).specialist.agent := by
  intro d
  have hsound := sound_run rt fresh fun i => (job i).request
  refine ⟨fun i => (onDuty_run rt fresh job turns i).visited, fun i v => ?_, fun row hmem => ?_⟩
  · have honDuty := onDuty_run rt fresh job turns i
    have hrange := ((hsound turns).cycles i).inRange
    exact ⟨honDuty.shellCalls_eq_nil hrange, honDuty.received_eq_nil hrange⟩
  · obtain ⟨before, i, v, after, -, hrow⟩ := exists_turn_of_mem_rows hmem
    have hcycle := (hsound before).cycles i
    refine ⟨i, ?_, (onDuty_run rt fresh job before i).writtenBy hcycle.inRange hrow⟩
    rw [(Cycle.stored_step hcycle.inRange rt v).1 row hrow]
    exact hcycle.same.traceId

end SharedBoard

end Gestalt
