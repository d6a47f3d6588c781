import Gestalt.BaseAgent.Persistence
import Gestalt.Graph.Delivery
import Gestalt.Graph.Finalization

/-!
# Gestalt.Graph.Pipeline

The plan of a request that names no concern.

A run whose orchestrator steps succeed follows the plan of its first turn,
whatever the specialists do.  That turn finds no execution reports, so it
always plans the monitor, and a plan that holds the monitor is not empty: the
pipeline that stands in for an empty plan is never run.
-/

namespace Gestalt

open Effects Program

/-! ## runs that follow their plan -/

/-- If it is the orchestrator's turn, the turn completes. -/
def Cycle.OrchestratorSucceeds (rt : Runtime) (v : Visit) (c : Cycle) : Prop :=
  c.cursor = .at .orchestrator → c.HandsOver v ∧
    ∃ out report, (c.agentRun rt v .orchestrator).result = .ok out ∧
      out.executionReports.getLast? = some report ∧ report.status = .completed

theorem turns_append_cons (done : List Specialist) (a : Specialist) (todo : List Specialist) :
    turns (done ++ a :: todo) = turns done ++ ([.orchestrator, a.agent] ++ turns todo) := by
  simp [turns]

/-- Where a cycle is that follows the plan: before a turn, after the last one, or
lost on the way. -/
inductive OnPlan (rt : Runtime) (plan : List Specialist) (c : Cycle) : Prop where
  | orchestrator {done todo : List Specialist} (split : plan = done ++ todo)
      (before : AtOrchestrator rt done todo c)
  | specialist {done todo : List Specialist} {a : Specialist} (split : plan = done ++ a :: todo)
      (before : AtSpecialist done a todo c)
  | finished (finished : Finished plan c)
  | crashed (e : CycleError) (cursor : c.cursor = .crashed e)
      (visited : c.visited <+: turns plan ++ [.orchestrator])

section Following

variable {rt : Runtime} {fresh : Fresh} {request : CycleRequest} {visits : Nat → Visit}
variable {plan : List Specialist} {c : Cycle} {v : Visit}

/-- The nodes visited are the first ones of the plan. -/
theorem OnPlan.visited_prefix (h : OnPlan rt plan c) :
    c.visited <+: turns plan ++ [.orchestrator] := by
  cases h with
  | @orchestrator done todo split before =>
      refine ⟨turns todo ++ [.orchestrator], ?_⟩
      simp [before.records.visited, split, turns]
  | specialist split before =>
      rw [before.records.visited, split, turns_append_cons, List.append_assoc]
      exact (List.prefix_append_right_inj _).mpr ⟨_, rfl⟩
  | finished finished =>
      rw [finished.records.visited]
  | crashed e cursor visited => exact visited

/-- A cycle that has ended has visited them all. -/
theorem OnPlan.visited_of_ended (h : OnPlan rt plan c) (hended : c.cursor = .ended) :
    c.visited = turns plan ++ [.orchestrator] := by
  cases h with
  | orchestrator split before => simp [before.cursor] at hended
  | specialist split before => simp [before.cursor] at hended
  | finished finished => exact finished.records.visited
  | crashed e cursor visited => simp [cursor] at hended

/-- A turn of the orchestrator that completes dispatches the head of what is left, or
finalizes. -/
theorem AtOrchestrator.onPlan {done todo : List Specialist} (h : AtOrchestrator rt done todo c)
    (hsplit : plan = done ++ todo) (hrange : c.state.stats.InRange)
    (hsucceeds : c.OrchestratorSucceeds rt v) : OnPlan rt plan (c.step rt v) := by
  obtain ⟨hover, out, report, hrun, hlast, hcompleted⟩ := hsucceeds h.cursor
  rw [Cycle.step_of_ok h.cursor hrange hover hrun]
  cases Cycle.visitOutcome_of_ok (fun _ _ => trivial) hrun with
  | completed specialist _ _ _ => contradiction
  | failed specialist _ => contradiction
  | routed _ routing update =>
      obtain ⟨hfinished, hdispatched⟩ := h.routed routing update
      cases todo with
      | nil =>
          rw [List.append_nil] at hsplit
          rw [hsplit]
          exact .finished (hfinished rfl)
      | cons a rest => exact .specialist hsplit (hdispatched a rest rfl)
  | routeFailed _ update =>
      obtain ⟨entry, hreports, hfailed⟩ := FailedAs.reported update
      rw [hreports, List.getLast?_concat] at hlast
      rw [Option.some.inj hlast, hcompleted] at hfailed
      contradiction

/-- A turn of a specialist leads back to the orchestrator, or loses the cycle. -/
theorem AtSpecialist.onPlan {done todo : List Specialist} {a : Specialist}
    (h : AtSpecialist done a todo c) (hsplit : plan = done ++ a :: todo)
    (hrange : c.state.stats.InRange) : OnPlan rt plan (c.step rt v) := by
  have hvisited : c.visited ++ [a.agent] <+: turns plan ++ [.orchestrator] := by
    rw [h.records.visited, hsplit, turns_append_cons]
    exact ⟨turns todo ++ [.orchestrator], by simp⟩
  have hmoves := Cycle.moves hrange rt v
  generalize c.step rt v = next at hmoves ⊢
  cases hmoves with
  | stays hcursor => exact absurd h.cursor (hcursor _)
  | rejected hcursor _ => exact .crashed _ rfl ((List.prefix_append _ _).trans hvisited)
  | raised hcursor _ _ =>
      obtain rfl := Cursor.at.inj (hcursor.symm.trans h.cursor)
      exact .crashed _ rfl hvisited
  | visited hcursor _ hrun =>
      obtain rfl := Cursor.at.inj (hcursor.symm.trans h.cursor)
      have hplan : plan = done ++ [a] ++ todo := by rw [hsplit, List.append_cons]
      refine .orchestrator hplan ?_
      exact h.returned (Cycle.visitOutcome_of_ok (fun _ _ => trivial) hrun)

/-- A step stays on the plan. -/
theorem OnPlan.step (h : OnPlan rt plan c) (hrange : c.state.stats.InRange)
    (hsucceeds : c.OrchestratorSucceeds rt v) : OnPlan rt plan (c.step rt v) := by
  cases h with
  | orchestrator split before => exact before.onPlan split hrange hsucceeds
  | specialist split before => exact before.onPlan split hrange
  | finished finished =>
      rw [show c.step rt v = c by simp [Cycle.step, finished.cursor]]
      exact .finished finished
  | crashed e cursor visited =>
      rw [show c.step rt v = c by simp [Cycle.step, cursor]]
      exact .crashed e cursor visited

/-- **The plan is followed** as long as the orchestrator's steps succeed. -/
theorem onPlan_after (hplan : Orchestrator.plan? rt (buildGraphState fresh request) = some plan)
    (hsucceeds : ∀ n,
      (Cycle.after rt visits (.start fresh request) n).OrchestratorSucceeds rt (visits n))
    (n : Nat) : OnPlan rt plan (Cycle.after rt visits (.start fresh request) n) := by
  induction n with
  | zero => exact .orchestrator (List.nil_append plan).symm (atOrchestrator_start hplan)
  | succ n ih => exact ih.step (Cycle.sound_after rt fresh request visits n).inRange (hsucceeds n)

/-- On the plan, an undisturbed turn of the orchestrator completes. -/
theorem OnPlan.orchestratorSucceeds (h : OnPlan rt plan c) (hrange : c.state.stats.InRange)
    (haligned : blank c.state.objective.val = false) (hundisturbed : c.Undisturbed rt v) :
    c.OrchestratorSucceeds rt v := by
  intro hcursor
  have hover := hundisturbed.handsOver _ hcursor
  cases h with
  | orchestrator split before =>
      obtain ⟨out, hrun, art, s', -, messages, report, -, hreport, rfl⟩ :=
        (spec_run_orchestrator_calm (fun _ h => h) haligned before.plan hrange).exists_ok
          (hundisturbed.calm _ hcursor)
      exact ⟨hover, _, report, hrun, by simp [applyStateUpdate], hreport.status_eq⟩
  | specialist split before =>
      have hnode := Cursor.at.inj (before.cursor.symm.trans hcursor)
      exact absurd hnode (Specialist.agent_ne_orchestrator _)
  | finished finished => simp [finished.cursor] at hcursor
  | crashed e cursor _ => simp [cursor] at hcursor

/-- In an undisturbed run the orchestrator's steps succeed. -/
theorem orchestratorSucceeds_of_undisturbed (haligned : blank request.objective.val = false)
    (hplan : Orchestrator.plan? rt (buildGraphState fresh request) = some plan)
    (h : ∀ n, (Cycle.after rt visits (.start fresh request) n).Undisturbed rt (visits n))
    (n : Nat) :
    (Cycle.after rt visits (.start fresh request) n).OrchestratorSucceeds rt (visits n) := by
  have hsound n := Cycle.sound_after rt fresh request visits n
  have hsucceeds {n : Nat} (honplan : OnPlan rt plan (Cycle.after rt visits _ n)) :=
    honplan.orchestratorSucceeds (hsound n).inRange ((hsound n).aligned haligned) (h n)
  have honplan : OnPlan rt plan (Cycle.after rt visits (.start fresh request) n) := by
    induction n with
    | zero => exact .orchestrator (List.nil_append plan).symm (atOrchestrator_start hplan)
    | succ n ih => exact ih.step (hsound n).inRange (hsucceeds ih)
  exact hsucceeds honplan

end Following

/-! ## requests that name no concern -/

/-- The stems `determine_next_agents` looks for in an objective. -/
def Orchestrator.stems : List String :=
  ["audit", "security", "risk", "jailbreak"] ++
  ["analy", "diagn", "incident", "failure", "debug", "investig", "latency", "regression"] ++
  ["execute", "deploy", "remediate", "fix", "run"] ++
  ["optimiz", "cost", "latency", "performance"] ++
  ["knowledge", "learn", "summary", "memory"]

/-- A request without routing metadata whose objective is not blank and holds no stem. -/
structure CycleRequest.Generic (rt : Runtime) (request : CycleRequest) : Prop where
  unrouted : request.Unrouted
  aligned : blank request.objective.val = false
  stemless : ∀ stem ∈ Orchestrator.stems, occursIn stem (rt.lower request.objective.val) = false

/-- The specialists that stand in for an empty plan. -/
def defaultPipeline : List AgentName := [.analyzer, .plannerExecutor, .optimizer, .knowledge]

/-- Every run whose orchestrator steps succeed visits them, in order, before it ends. -/
def RunsDefaultPipeline (rt : Runtime) (fresh : Fresh) (request : CycleRequest) : Prop :=
  ∀ visits : Nat → Visit,
    (∀ n, (Cycle.after rt visits (.start fresh request) n).OrchestratorSucceeds rt (visits n)) →
    ∀ n, (Cycle.after rt visits (.start fresh request) n).cursor = .ended →
      defaultPipeline.Sublist (Cycle.after rt visits (.start fresh request) n).visited

section Generic

variable {rt : Runtime} {fresh : Fresh} {request : CycleRequest}

/-- The plan of such a request is the monitor alone. -/
theorem CycleRequest.Generic.plan? (h : request.Generic rt) (fresh : Fresh) :
    Orchestrator.plan? rt (buildGraphState fresh request) = some [.monitor] := by
  have hstemless := h.stemless
  simp only [Orchestrator.stems, List.cons_append, List.nil_append, List.forall_mem_cons,
    List.not_mem_nil, false_implies, implies_true, and_true] at hstemless
  have hscheduled : (buildGraphState fresh request).metadata.get? "scheduled_agent" = none :=
    h.unrouted.scheduled
  have hforced : (buildGraphState fresh request).metadata.get? "force_audit" = none :=
    h.unrouted.forced
  have hordered : Orchestrator.orderedAgents rt (buildGraphState fresh request) = [.monitor] := by
    simp [Orchestrator.orderedAgents, buildGraphState, hstemless]
  refine Orchestrator.plan?_of_determined h.unrouted.pending ?_
  rw [Orchestrator.determineNextAgents_eq, Orchestrator.scheduledAgent, hscheduled]
  simp [Orchestrator.determineNextAgents.planned, hforced, hordered, Orchestrator.dedupe]

/-- A calm run ends after the monitor. -/
theorem CycleRequest.Generic.finished (h : request.Generic rt) (fresh : Fresh) :
    Finished [.monitor] (Cycle.after rt Reference.calm (.start fresh request) 3) :=
  finished_of_undisturbed h.aligned (h.plan? fresh) fun n => Reference.undisturbed_calm n

/-- In a calm run of such a request the orchestrator's steps succeed. -/
theorem CycleRequest.Generic.orchestratorSucceeds (h : request.Generic rt) (fresh : Fresh)
    (n : Nat) :
    (Cycle.after rt Reference.calm (.start fresh request) n).OrchestratorSucceeds rt
      (Reference.calm n) :=
  orchestratorSucceeds_of_undisturbed h.aligned (h.plan? fresh)
    (fun n => Reference.undisturbed_calm n) n

end Generic

/-- **The default pipeline never runs.**  Of a request without routing metadata whose
objective names no concern, every run whose orchestrator steps succeed visits the
monitor only, and there is such a run that ends. -/
theorem default_pipeline_never (rt : Runtime) (fresh : Fresh) (request : CycleRequest)
    (h : request.Generic rt) :
    ¬ RunsDefaultPipeline rt fresh request ∧
    ∀ visits : Nat → Visit,
      (∀ n, (Cycle.after rt visits (.start fresh request) n).OrchestratorSucceeds rt (visits n)) →
      ∀ n, (Cycle.after rt visits (.start fresh request) n).visited <+:
          [.orchestrator, .monitor, .orchestrator] ∧
        ((Cycle.after rt visits (.start fresh request) n).cursor = .ended →
          (Cycle.after rt visits (.start fresh request) n).visited =
            [.orchestrator, .monitor, .orchestrator]) := by
  constructor
  · intro hruns
    have hfinished := h.finished fresh
    have hsublist := hruns Reference.calm (h.orchestratorSucceeds fresh) 3 hfinished.cursor
    rw [hfinished.records.visited] at hsublist
    exact absurd hsublist (by decide)
  · intro visits hsucceeds n
    have honplan := onPlan_after (h.plan? fresh) hsucceeds n
    exact ⟨honplan.visited_prefix, honplan.visited_of_ended⟩

/-- The reference request names no concern. -/
theorem Reference.generic_watchRequest : watchRequest.Generic runtime where
  unrouted := ⟨rfl, rfl, rfl, rfl, rfl⟩
  aligned := by decide
  stemless := by decide +kernel

/-- The default pipeline does not run for the reference request. -/
theorem default_pipeline_never_watch :
    ¬ RunsDefaultPipeline Reference.runtime Reference.fresh Reference.watchRequest :=
  (default_pipeline_never Reference.runtime Reference.fresh Reference.watchRequest
    Reference.generic_watchRequest).1

/-- A calm run of the reference request ends without the default pipeline. -/
theorem default_pipeline_skipped :
    let c := Cycle.after Reference.runtime Reference.calm
      (.start Reference.fresh Reference.watchRequest)
    (∀ n, (c n).OrchestratorSucceeds Reference.runtime (Reference.calm n)) ∧
      (c 3).cursor = .ended ∧ (c 3).visited = [.orchestrator, .monitor, .orchestrator] ∧
      ¬ defaultPipeline.Sublist (c 3).visited := by
  intro c
  have hfinished : Finished [.monitor] (c 3) :=
    Reference.generic_watchRequest.finished Reference.fresh
  have hvisited : (c 3).visited = [.orchestrator, .monitor, .orchestrator] :=
    hfinished.records.visited
  refine ⟨Reference.generic_watchRequest.orchestratorSucceeds Reference.fresh, hfinished.cursor,
    hvisited, ?_⟩
  rw [hvisited]
  decide

end Gestalt
