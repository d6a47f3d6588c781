import Gestalt.Graph.Conduct
import Gestalt.Graph.Entries
import Gestalt.Graph.Lifecycle
import Gestalt.Graph.Planner

/-!
# Gestalt.Graph.Grammar

The commands and memories there ever are.

Nothing enters a state or the blackboard but what an agent issues in one of its
forms, whatever models, tools and requests contribute.  No form of a command has
a payload with a `command` in it, so the planner has only ever one text for the
shell.
-/

namespace Gestalt

open Effects Program

/-! ## states -/

/-- A report of an invocation that produced what its agent does. -/
structure AgentExecutionReport.InForm (rt : Runtime) (a : AgentName)
    (report : AgentExecutionReport) : Prop where
  agentName : report.agentName = a.field
  commands : ∀ command ∈ report.emittedCommands, IssuedBy rt a command
  memories : ∀ memory ∈ report.emittedMemories, NotedBy a report.summary.val memory

/-- All that the state holds an agent has issued in one of its forms. -/
structure GestaltGraphState.InForm (rt : Runtime) (s : GestaltGraphState) : Prop where
  commands : ∀ command ∈ s.commands, ∃ a, IssuedBy rt a command
  memories : ∀ memory ∈ s.memories, ∃ a, NotedBy a memory.content.val memory
  reports : ∀ report ∈ s.executionReports, ∃ a, report.InForm rt a
  audits : ∀ report ∈ s.auditReports, ∀ command ∈ report.remediationCommands,
    IssuedBy rt .securityAudit command

section States

variable {rt : Runtime} {a : AgentName} {s s' out : GestaltGraphState} {art : AgentArtifacts}
variable {entry : Entry}

/-- Artifacts in form leave a state in form. -/
theorem GestaltGraphState.InForm.formedAs (hs : s.InForm rt) (hformed : Formed rt a art)
    (hout : FormedAs a s art out) : out.InForm rt := by
  obtain ⟨messages, report, -, hreport, rfl⟩ := hout
  constructor
  · intro command hmem
    rcases List.mem_append.mp hmem with hmem | hmem
    · exact hs.commands command hmem
    · exact ⟨a, hformed.commands command hmem⟩
  · intro memory hmem
    rcases List.mem_append.mp hmem with hmem | hmem
    · exact hs.memories memory hmem
    · exact ⟨a, (hformed.memories.ok_of_mem memory hmem).self⟩
  · intro r hmem
    rcases List.mem_append.mp hmem with hmem | hmem
    · exact hs.reports r hmem
    · obtain rfl := List.mem_singleton.mp hmem
      refine ⟨a, hreport.agentName, ?_, ?_⟩
      · rw [hreport.commands]
        exact hformed.commands
      · rw [hreport.memories, hreport.summary]
        exact hformed.memories.ok_of_mem
  · intro r hmem
    rcases List.mem_append.mp hmem with hmem | hmem
    · exact hs.audits r hmem
    · have haudit : art.auditReport = some r := Option.mem_toList.mp hmem
      obtain rfl := hformed.audit.mp (by rw [haudit]; rfl)
      rw [hformed.remediation r haudit]
      exact hformed.commands

/-- A failure leaves nothing but its report. -/
theorem GestaltGraphState.InForm.failedAs (hs : s.InForm rt) (hout : FailedAs rt a s out) :
    out.InForm rt := by
  obtain ⟨e, report, hreport, rfl⟩ := hout
  have hcommands : report.emittedCommands = [] := hreport.commands
  have hmemories : report.emittedMemories = [] := hreport.memories
  constructor
  · simpa [applyStateUpdate, failureArtifacts] using hs.commands
  · simpa [applyStateUpdate, failureArtifacts] using hs.memories
  · intro r hmem
    rcases List.mem_append.mp hmem with hmem | hmem
    · exact hs.reports r hmem
    · obtain rfl := List.mem_singleton.mp hmem
      exact ⟨a, hreport.agentName, by simp [hcommands], by simp [hmemories]⟩
  · simpa [applyStateUpdate, failureArtifacts] using hs.audits

theorem GestaltGraphState.InForm.withApproval (hs : s.InForm rt) (approval : EventApproval) :
    (s.withApproval approval).InForm rt :=
  ⟨hs.commands, hs.memories, hs.reports, hs.audits⟩

/-- A visit keeps the state in form. -/
theorem GestaltGraphState.InForm.produces (hs : s.InForm rt) (h : Produces rt s entry out) :
    out.InForm rt := by
  cases h with
  | failed left update =>
      rcases left with rfl | ⟨approval, -, rfl⟩
      · exact hs.failedAs update
      · exact (hs.withApproval approval).failedAs update
  | worked _ formed update => exact hs.formedAs formed update
  | dispatched _ _ formed _ update => exact (hs.withApproval _).formedAs formed update
  | finalized _ _ formed _ update => exact hs.formedAs formed update

/-- A step keeps the state in form. -/
theorem GestaltGraphState.InForm.step {c : Cycle} {v : Visit} (hs : c.state.InForm rt)
    (hrange : c.state.stats.InRange) : (c.step rt v).state.InForm rt := by
  obtain hkept | ⟨node, -, -, hrun⟩ := (Cycle.moves hrange rt v).state_cases
  · rw [hkept]
    exact hs
  · obtain ⟨entry, -, hproduces⟩ := (spec_produces rt node c.state).of_ok (fun _ _ => trivial) hrun
    exact hs.produces hproduces

theorem inForm_buildGraphState (rt : Runtime) (fresh : Fresh) (request : CycleRequest) :
    (buildGraphState fresh request).InForm rt := by
  constructor <;> simp [buildGraphState]

end States

/-- Every reachable state is in form. -/
theorem Cycle.inForm_after (rt : Runtime) (fresh : Fresh) (request : CycleRequest)
    (visits : Nat → Visit) (n : Nat) :
    (after rt visits (start fresh request) n).state.InForm rt := by
  induction n with
  | zero => exact inForm_buildGraphState rt fresh request
  | succ n ih => exact ih.step (sound_after rt fresh request visits n).inRange

/-! ## the blackboard -/

/-- A call that writes a row was granted for the row. -/
theorem Granted.writtenBy {rt : Runtime} {a : AgentName} {s : GestaltGraphState} {row : Row}
    (h : Granted rt a s row.call) : row.WrittenBy rt a := by
  generalize hcall : row.call = call at h
  cases h with
  | recalls => cases row <;> contradiction
  | consults prepared inRow =>
      cases row <;> cases hcall <;> cases a <;> exact inRow.elim
  | @writes written hwritten =>
      obtain rfl : row = written := by
        cases row <;> cases written <;> simp_all [Row.call]
      exact hwritten

/-- The rows a step stores its agent has written. -/
theorem Cycle.writtenBy_of_stored {rt : Runtime} {v : Visit} {c : Cycle} {row : Row}
    (hrange : c.state.stats.InRange) (h : row ∈ (c.events rt v).flatMap storedRows) :
    ∃ node, c.cursor = .at node ∧ row.WrittenBy rt node := by
  obtain ⟨ev, hev, hrow⟩ := List.mem_flatMap.mp h
  obtain ⟨node, hcursor, -, hmem⟩ := exists_run_of_mem_events hrange hev
  have hop : ev.op = .call row.call := by
    obtain ⟨op, answer⟩ := ev
    cases op with
    | call call => cases call <;> cases answer <;> simp_all [storedRows, Row.call]
    | utcNow site => simp [storedRows] at hrow
    | uuid4 => simp [storedRows] at hrow
  have hgranted :=
    (spec_conducted rt node c.state).emits_of_mem (fun _ _ => trivial) ev hmem row.call hop
  exact ⟨node, hcursor, hgranted.writtenBy⟩

namespace SharedBoard

variable {ι : Type} [DecidableEq ι]

/-- Every row an agent has written. -/
theorem writtenBy_run (rt : Runtime) (fresh : ι → Fresh) (request : ι → CycleRequest)
    (turns : List (ι × Visit)) :
    ∀ row ∈ (run rt fresh request turns).rows, ∃ a, row.WrittenBy rt a := by
  intro row hmem
  obtain ⟨before, i, v, after, -, hrow⟩ := exists_turn_of_mem_rows hmem
  have hrange := ((sound_run rt fresh request before).cycles i).inRange
  obtain ⟨node, -, hwritten⟩ := Cycle.writtenBy_of_stored hrange hrow
  exact ⟨node, hwritten⟩

/-- **The grammar of the blackboard.**  Among any number of cycles that share a
blackboard, in whatever order they take their turns and whatever is answered:
each command and each memory in a state or a report, each command an audit
asks for, and each row of the blackboard is of the form of the agent that
produced it. -/
theorem inForm_run (rt : Runtime) (fresh : ι → Fresh) (request : ι → CycleRequest)
    (turns : List (ι × Visit)) :
    (∀ i, ((run rt fresh request turns).cycles i).state.InForm rt) ∧
    ∀ row ∈ (run rt fresh request turns).rows, ∃ a, row.WrittenBy rt a := by
  refine ⟨?_, writtenBy_run rt fresh request turns⟩
  induction turns using List.reverseRecOn with
  | nil => exact fun i => inForm_buildGraphState rt (fresh i) (request i)
  | append_singleton turns turn ih =>
      have hrange := ((sound_run rt fresh request turns).cycles turn.1).inRange
      rw [run_snoc]
      exact (Function.forall_update_iff _ fun _ (c : Cycle) => c.state.InForm rt).mpr
        ⟨(ih turn.1).step hrange, fun i _ => ih i⟩

end SharedBoard

/-! ## the shell -/

theorem Table.get?_of_not_mem_keys {α : Type} {d : Dict α} {key : String}
    (h : key ∉ d.map Prod.fst) : d.get? key = none := by
  cases hget : d.get? key with
  | none => rfl
  | some v => exact absurd (List.mem_map.mpr ⟨_, Table.mem_of_get? hget, rfl⟩) h

/-- No payload has a text for the shell. -/
theorem Issues.not_mem_keys {rt : Runtime} {a : AgentName} {shape : CommandShape}
    (h : Issues rt a shape) : "command" ∉ shape.keys := by
  cases a with
  | orchestrator => exact h.elim
  | optimizer => exact h.elim
  | knowledge => exact h.elim
  | monitor => rcases h with rfl | rfl <;> decide
  | analyzer =>
      rw [h.1]
      simp
  | plannerExecutor =>
      rw [h]
      decide
  | securityAudit =>
      rw [h]
      decide

theorem IssuedBy.candidateCommand {rt : Runtime} {a : AgentName} {command : GestaltCommand}
    (h : IssuedBy rt a command) : PlannerExecutor.candidateCommand (some command) = none := by
  have hnone : command.payload.get? "command" = none :=
    Table.get?_of_not_mem_keys h.shape.not_mem_keys
  simp [PlannerExecutor.candidateCommand, hnone]

/-- A command handed to the shell. -/
structure ShellCall where
  command : String
  cwd : String
  timeoutSeconds : Nat
  deriving DecidableEq, Repr

/-- The commands handed to the shell, in order. -/
def shellCalls (events : List (Event Services)) : List ShellCall :=
  events.filterMap fun
    | ⟨.call (.bash command cwd timeoutSeconds), _⟩ => some ⟨command, cwd, timeoutSeconds⟩
    | _ => none

theorem exists_bash_of_mem {events : List (Event Services)} {call : ShellCall}
    (h : call ∈ shellCalls events) :
    ∃ ev ∈ events, ev.op = .call (.bash call.command call.cwd call.timeoutSeconds) := by
  obtain ⟨ev, hev, hcall⟩ := List.mem_filterMap.mp h
  refine ⟨ev, hev, ?_⟩
  obtain ⟨op, answer⟩ := ev
  rcases op with site | _ | c
  · contradiction
  · contradiction
  · cases c <;> first | contradiction | (obtain rfl := Option.some.inj hcall; rfl)

/-- The `echo` of the objective, run for the planner in the sandbox. -/
structure RunsEcho (rt : Runtime) (objective : MinStr 3) (c : Cycle) (call : ShellCall) : Prop where
  cursor : c.cursor = .at .plannerExecutor
  allowed : rt.allowsTool .plannerExecutor "sandbox_command"
  sandboxed : rt.Sandboxed call.command call.cwd
  text : call.command = "echo 'gestalt planner executed objective: " ++ objective.val ++ "'"
  timeout : call.timeoutSeconds = 15

/-- **One text for the shell.**  In every run of every cycle, whatever models,
tools and blackboard answer, what a step hands to the shell is the `echo` of the
objective of the request: at the planner, whose allowlist names the sandbox, in
a directory under the workspace, without a blocked term and for 15 seconds. -/
theorem Cycle.runsEcho_after (rt : Runtime) (fresh : Fresh) (request : CycleRequest)
    (visits : Nat → Visit) (n : Nat) :
    ∀ call ∈ shellCalls ((after rt visits (start fresh request) n).events rt (visits n)),
      RunsEcho rt request.objective (after rt visits (start fresh request) n) call := by
  intro call hmem
  obtain ⟨ev, hev, hop⟩ := exists_bash_of_mem hmem
  have hsound := sound_after rt fresh request visits n
  obtain ⟨node, hcursor, hgranted⟩ := leastPrivilege rt (visits n) hsound.inRange ev hev _ hop
  have hform := inForm_after rt fresh request visits n
  generalize after rt visits (start fresh request) n = c at *
  generalize hcall : Call.bash call.command call.cwd call.timeoutSeconds = asked at hgranted
  cases hgranted with
  | recalls => contradiction
  | @writes row _ => cases row <;> contradiction
  | @consults context _ hcontext hrow =>
      subst hcall
      cases node <;> try exact hrow.elim
      obtain ⟨hallowed, hsandboxed, htext, htimeout⟩ := hrow
      refine ⟨hcursor, hallowed, hsandboxed, ?_, htimeout⟩
      have hobjective : c.state.objective = request.objective := hsound.same.objective
      rw [htext, hcontext.inbound, hcontext.objective, ← hobjective]
      refine PlannerExecutor.builtText_of_no_candidate fun inbound hmem => ?_
      obtain ⟨a, hissued⟩ := hform.commands inbound (List.mem_of_mem_filter hmem)
      exact hissued.candidateCommand

/-- A request for the planner alone. -/
def Reference.plannerRequest : CycleRequest :=
  { watchRequest with metadata := [("scheduled_agent", .str "planner_executor")] }

/-- The planner of the reference world runs the `echo` of its objective. -/
theorem Cycle.runsEcho_plannerRequest :
    let c := after Reference.runtime Reference.calm
      (start Reference.fresh Reference.plannerRequest) 1
    ∃ call ∈ shellCalls (c.events Reference.runtime (Reference.calm 1)),
      RunsEcho Reference.runtime Reference.plannerRequest.objective c call := by
  intro c
  have hcall : (⟨"echo 'gestalt planner executed objective: Watch the cluster'",
      "/workspace/.", 15⟩ : ShellCall) ∈
        shellCalls (c.events Reference.runtime (Reference.calm 1)) := by
    decide +kernel
  exact ⟨_, hcall, runsEcho_after Reference.runtime Reference.fresh Reference.plannerRequest
    Reference.calm 1 _ hcall⟩

end Gestalt
