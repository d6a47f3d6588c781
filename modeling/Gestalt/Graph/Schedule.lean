import Gestalt.Graph.History

/-!
# Gestalt.Graph.Schedule

A cycle whose plan is a list of known specialists, run to its end.

The orchestrator and the specialists take turns: `AtOrchestrator done todo`
describes the cycle before the orchestrator's turn, `AtSpecialist done a todo`
before the turn of `a`, and `Finished` after the last turn.  One step lemma
for each kind of turn leads from one to the next.  The specialists may fail in
any way; only the orchestrator's own calls, the hand-offs and the clock have
to be in order.
-/

namespace Gestalt

open Effects Program

/-! ## derived plans -/

theorem Specialist.mapM_ofValue?_names (plan : List Specialist) :
    (plan.map fun a => Value.str a.name).mapM ofValue? = some plan := by
  induction plan with
  | nil => rfl
  | cons a plan ih => simp [List.mapM_cons, ih]

namespace Orchestrator

theorem nodup_dedupe {α : Type} [DecidableEq α] (xs : List α) : (dedupe xs).Nodup := by
  have hfold : ∀ (xs kept : List α), kept.Nodup →
      (xs.foldl (fun kept x => if x ∈ kept then kept else kept ++ [x]) kept).Nodup := by
    intro xs
    induction xs with
    | nil => exact fun _ h => h
    | cons x xs ih =>
        intro kept hkept
        refine ih _ ?_
        by_cases hx : x ∈ kept
        · simpa [hx] using hkept
        · simpa [hx, List.nodup_append, hkept] using fun y hy (hyx : y = x) => hx (hyx ▸ hy)
  exact hfold xs [] List.nodup_nil

/-- The scheduled agent a state names, if it does. -/
def scheduledAgent (s : GestaltGraphState) : Option String :=
  ((s.metadata.get? "scheduled_agent").bind Value.asStr?).filter (· ≠ "")

/-- Without a scheduled agent the derived plan lists known specialists, none
of them twice. -/
theorem exists_planned (rt : Runtime) (s : GestaltGraphState) :
    ∃ plan : List Specialist, determineNextAgents.planned rt s = plan.map Specialist.name ∧
      plan.Nodup := by
  unfold determineNextAgents.planned
  split
  · exact ⟨[.securityAudit], rfl, by simp⟩
  · exact ⟨_, rfl, nodup_dedupe _⟩

theorem determineNextAgents_eq (rt : Runtime) (s : GestaltGraphState) :
    determineNextAgents rt s =
      match scheduledAgent s with
      | some scheduled => [scheduled]
      | none => determineNextAgents.planned rt s := by
  unfold determineNextAgents scheduledAgent
  cases (s.metadata.get? "scheduled_agent").bind Value.asStr? with
  | none => rfl
  | some scheduled => by_cases h : scheduled = "" <;> simp [h, Option.filter]

/-- A scheduled agent that is the name of a specialist is known. -/
theorem scheduledAgent_known {s : GestaltGraphState}
    (h : ∀ v, s.metadata.get? "scheduled_agent" = some v → ∃ a : Specialist, v = .str a.name) :
    ∀ name, scheduledAgent s = some name → ∃ a, Specialist.ofName? name = some a := by
  intro name hname
  cases hv : s.metadata.get? "scheduled_agent" with
  | none => simp [scheduledAgent, hv] at hname
  | some v =>
      obtain ⟨a, rfl⟩ := h v hv
      obtain ⟨-, rfl⟩ : a.name ≠ "" ∧ a.name = name := by
        simpa [scheduledAgent, hv, Value.asStr?, Option.filter] using hname
      exact ⟨a, Specialist.ofName?_name a⟩

/-- A derived plan without an unknown scheduled agent lists known specialists,
none of them twice. -/
theorem exists_determined (rt : Runtime) {s : GestaltGraphState}
    (h : ∀ name, scheduledAgent s = some name → ∃ a, Specialist.ofName? name = some a) :
    ∃ plan : List Specialist, determineNextAgents rt s = plan.map Specialist.name ∧
      plan.Nodup := by
  rw [determineNextAgents_eq]
  cases hs : scheduledAgent s with
  | none => exact exists_planned rt s
  | some name =>
      obtain ⟨a, ha⟩ := h name hs
      exact ⟨[a], by rw [← Specialist.name_of_ofName? ha]; rfl, by simp⟩

/-- Where the metadata holds no plan, the derived one is used. -/
theorem plan?_of_determined {rt : Runtime} {s : GestaltGraphState} {plan : List Specialist}
    (hpending : s.metadata.get? "pending_agents" = none)
    (hplan : determineNextAgents rt s = plan.map Specialist.name) : plan? rt s = some plan := by
  have hmap := Specialist.mapM_ofValue?_names plan
  simpa [plan?, pendingAgents, hpending, hplan, Function.comp_def] using hmap

end Orchestrator

theorem Specialist.agent_ne_orchestrator (a : Specialist) : a.agent ≠ .orchestrator := by
  cases a <;> decide

/-- Following the name of a specialist leads to its node. -/
theorem followRoute_name (a : Specialist) : followRoute (some a.name) = .at a.agent := by
  cases a <;> rfl

/-! ## turns -/

/-- The nodes visited while the plan elements `done` were dispatched and run. -/
def turns (done : List Specialist) : List AgentName :=
  done.flatMap fun a => [.orchestrator, a.agent]

theorem turns_append (done : List Specialist) (a : Specialist) :
    turns (done ++ [a]) = turns done ++ [.orchestrator, a.agent] := by
  simp [turns]

theorem length_turns (done : List Specialist) : (turns done).length = 2 * done.length := by
  induction done with
  | nil => rfl
  | cons a done ih =>
      rw [turns] at ih ⊢
      rw [List.flatMap_cons, List.length_append, ih, List.length_cons]
      simp only [List.length_cons, List.length_nil]
      omega

/-- A specialist has as many turns as the plan gives it. -/
theorem count_turns (done : List Specialist) (a : Specialist) :
    (turns done ++ [AgentName.orchestrator]).count a.agent = done.count a := by
  induction done with
  | nil => cases a <;> decide
  | cons b done ih =>
      rw [turns] at ih ⊢
      rw [List.flatMap_cons, List.append_assoc, List.count_append, ih, List.count_cons]
      have hself : b.agent = a.agent ↔ b = a := by cases a <;> cases b <;> decide
      simp only [List.count_cons, List.count_nil, beq_iff_eq, hself,
        (Specialist.agent_ne_orchestrator a).symm, if_false]
      omega

/-- The metadata holds the plan `todo`. -/
def PendingPlan (s : GestaltGraphState) (todo : List Specialist) : Prop :=
  ∃ vs, s.metadata.get? "pending_agents" = some (.list vs) ∧
    vs.mapM Specialist.ofValue? = some todo

theorem PendingPlan.plan? {rt : Runtime} {s : GestaltGraphState} {todo : List Specialist}
    (h : PendingPlan s todo) : Orchestrator.plan? rt s = some todo := by
  obtain ⟨vs, hvs, hmap⟩ := h
  simp [Orchestrator.plan?, Orchestrator.pendingAgents, hvs, Value.iterate?, hmap]

/-- What a cycle has recorded: the nodes visited, the report of each, and the
decisions made. -/
structure Records (c : Cycle) (nodes : List AgentName) (decisions : List AgentDecision) :
    Prop where
  visited : c.visited = nodes
  reports : c.state.executionReports.map (fun r => r.agentName.val) = nodes.map AgentName.name
  decisions : c.state.decisions = decisions

/-- Before the orchestrator's turn: `done` is done and `todo` is planned.  The
metadata still holds the last route. -/
structure AtOrchestrator (rt : Runtime) (done todo : List Specialist) (c : Cycle) : Prop where
  cursor : c.cursor = .at .orchestrator
  records : Records c (turns done) (done.map Specialist.decision)
  route : ∀ a ∈ done.getLast?, routeFromOrchestrator c.state = some a.name
  plan : Orchestrator.plan? rt c.state = some todo
  summary : c.state.latestSummary = none

/-- Before the turn of `a`: it has been dispatched, and `todo` is left. -/
structure AtSpecialist (done : List Specialist) (a : Specialist) (todo : List Specialist)
    (c : Cycle) : Prop where
  cursor : c.cursor = .at a.agent
  records : Records c (turns done ++ [.orchestrator]) ((done ++ [a]).map Specialist.decision)
  route : routeFromOrchestrator c.state = some a.name
  pending : PendingPlan c.state todo
  summary : c.state.latestSummary = none

/-- After the last turn: the plan is done and the cycle finalized. -/
structure Finished (plan : List Specialist) (c : Cycle) : Prop where
  cursor : c.cursor = .ended
  records : Records c (turns plan ++ [.orchestrator]) (plan.map Specialist.decision ++ [.finalize])
  summary : ∃ summary, c.state.latestSummary = some summary ∧
    summary.decisions = c.state.decisions

section Turns

variable {rt : Runtime} {fresh : Fresh} {request : CycleRequest} {v : Visit} {c : Cycle}
variable {done todo : List Specialist}

/-- A visit that returns moves the cycle along the edge and records the report. -/
theorem Cycle.step_of_ok {node : AgentName} {out : GestaltGraphState}
    (hcursor : c.cursor = .at node) (hrange : c.state.stats.InRange) (hover : c.HandsOver v)
    (hrun : (c.agentRun rt v node).result = .ok out) :
    c.step rt v =
      { cursor := nextCursor node out, state := out, visited := c.visited ++ [node] } := by
  rw [step_of_handsOver hcursor hrange hover]
  rw [agentRun] at hrun
  simp [visit, hrun]

/-- A visit that raises ends the cycle with the exception. -/
theorem Cycle.step_of_error {node : AgentName} {e : Exc} (hcursor : c.cursor = .at node)
    (hrange : c.state.stats.InRange) (hover : c.HandsOver v)
    (hrun : (c.agentRun rt v node).result = .error e) :
    (c.step rt v).cursor = .crashed (.raised e) := by
  rw [step_of_handsOver hcursor hrange hover]
  rw [agentRun] at hrun
  simp [visit, hrun]

/-- Recording one more visit. -/
theorem Records.snoc {nodes : List AgentName} {decisions new : List AgentDecision}
    {cursor : Cursor} {out : GestaltGraphState} {node : AgentName} {report : AgentExecutionReport}
    (h : Records c nodes decisions) (hname : report.agentName = node.field)
    (hreports : out.executionReports = c.state.executionReports ++ [report])
    (hdecisions : out.decisions = c.state.decisions ++ new) :
    Records { cursor := cursor, state := out, visited := c.visited ++ [node] }
      (nodes ++ [node]) (decisions ++ new) where
  visited := by simp [h.visited]
  reports := by simp [hreports, h.reports, hname, AgentName.field]
  decisions := by simp [hdecisions, h.decisions]

/-- A turn in which the orchestrator completes: with nothing left to do it
finalizes the cycle, otherwise it dispatches the head of the plan. -/
theorem AtOrchestrator.routed {allows : Event Services → Prop} {art : AgentArtifacts}
    {s' out : GestaltGraphState} (h : AtOrchestrator rt done todo c)
    (hrouting : Routing allows rt c.state art s') (hout : CompletedAs .orchestrator s' art out) :
    let c' : Cycle :=
      { cursor := nextCursor .orchestrator out, state := out,
        visited := c.visited ++ [.orchestrator] }
    (todo = [] → Finished done c') ∧
      (∀ a rest, todo = a :: rest → AtSpecialist done a rest c') := by
  have hcompleted := hout
  obtain ⟨messages, report, -, hreport, rfl⟩ := hout
  cases hrouting with
  | finalize pending finalizes =>
      refine ⟨fun _ => ?_, ?_⟩
      · obtain ⟨summary, hsummary, hdecisions⟩ := finalizes.summary
        refine ⟨?_, h.records.snoc hreport.agentName rfl ?_, summary, ?_, ?_⟩
        · simp [nextCursor, hcompleted.route_of_finalizes finalizes, followRoute]
        · simp [applyStateUpdate, finalizes.decisions]
        · simp [applyStateUpdate, hsummary]
        · simp [applyStateUpdate, finalizes.decisions, hdecisions]
      · intro a rest heq
        obtain rfl := heq
        have hplan := h.plan
        simp [Orchestrator.plan?, pending] at hplan
  | @dispatch next rest a approval _ pending issued dispatches =>
      have hplan := h.plan
      simp only [Orchestrator.plan?, pending, Option.bind_some, List.mapM_cons, dispatches.known,
        Option.bind_eq_bind, Option.bind_eq_some_iff, Option.pure_def, Option.some.injEq] at hplan
      obtain ⟨left, hleft, rfl⟩ := hplan
      refine ⟨by simp, ?_⟩
      intro _ _ hcons
      cases hcons
      have hroute := hcompleted.route_of_dispatches dispatches
      refine ⟨?_, ?_, hroute, ⟨rest, ?_, hleft⟩, ?_⟩
      · simp [nextCursor, hroute, followRoute_name]
      · rw [List.map_append]
        exact h.records.snoc hreport.agentName rfl
          (by simp [applyStateUpdate, dispatches.decisions, GestaltGraphState.withApproval])
      · simp [applyStateUpdate, dispatches.metadata]
      · simpa [applyStateUpdate, dispatches.summary, GestaltGraphState.withApproval]
          using h.summary

/-- **The orchestrator's turn**, where nothing goes wrong outside the process. -/
theorem AtOrchestrator.step (h : AtOrchestrator rt done todo c)
    (hrange : c.state.stats.InRange) (haligned : blank c.state.objective.val = false)
    (hover : c.HandsOver v) (hcalm : ∀ ev ∈ (c.agentRun rt v .orchestrator).trace, Calm ev) :
    (todo = [] → Finished done (c.step rt v)) ∧
    (∀ a rest, todo = a :: rest → AtSpecialist done a rest (c.step rt v)) := by
  obtain ⟨out, hrun, art, s', hrouting, hout⟩ :=
    (spec_run_orchestrator_calm (fun _ h => h) haligned h.plan hrange).exists_ok hcalm
  rw [Cycle.step_of_ok h.cursor hrange hover hrun]
  exact h.routed hrouting hout

/-- A specialist that returns leads back to the orchestrator with the plan as it
was. -/
theorem AtSpecialist.returned {allows : Event Services → Prop} {a : Specialist}
    {out : GestaltGraphState} (h : AtSpecialist done a todo c)
    (hout : VisitOutcome allows rt c.state a.agent out) :
    AtOrchestrator rt (done ++ [a]) todo
      { cursor := nextCursor a.agent out, state := out, visited := c.visited ++ [a.agent] } := by
  have hvisit := hout.specialistVisit a.agent_ne_orchestrator
  obtain ⟨status, art, report, hreport, hreports⟩ := hvisit.reported
  obtain ⟨vs, hvs, hmap⟩ := h.pending
  refine ⟨by simp [nextCursor, a.agent_ne_orchestrator], ?_, ?_,
    PendingPlan.plan? ⟨vs, (hvisit.metadata _ (by decide)).trans hvs, hmap⟩,
    hvisit.summary.trans h.summary⟩
  · have hrecords : Records ⟨nextCursor a.agent out, out, c.visited ++ [a.agent]⟩ _ (_ ++ []) :=
      h.records.snoc hreport.agentName hreports (by simp [hvisit.decisions])
    rw [turns_append]
    simpa using hrecords
  · simpa [routeFromOrchestrator, hvisit.metadata] using h.route

/-- **A specialist's turn**, however it ends, leads back to the orchestrator
with the plan as it was. -/
theorem AtSpecialist.step {a : Specialist} (h : AtSpecialist done a todo c)
    (hrange : c.state.stats.InRange) (hover : c.HandsOver v)
    (hclock : ∀ ev ∈ (c.agentRun rt v a.agent).trace, ClockSane ev) :
    AtOrchestrator rt (done ++ [a]) todo (c.step rt v) := by
  obtain ⟨out, hrun, hout⟩ := (spec_visit ClockSane False a.agent
    fun _ _ h => Or.inl h).exists_ok hclock
  rw [Cycle.step_of_ok h.cursor hrange hover hrun]
  exact h.returned hout

end Turns

/-! ## the whole plan -/

/-- The hand-off happens before an approval expires, and the clock does not
step back during the visit. -/
structure Cycle.Timely (rt : Runtime) (v : Visit) (c : Cycle) : Prop where
  handsOver : ∀ node, c.cursor = .at node → c.HandsOver v
  clockSane : c.Allows ClockSane rt v

/-- A timely visit in which the orchestrator's own calls succeed. -/
structure Cycle.Orderly (rt : Runtime) (v : Visit) (c : Cycle) : Prop extends
    Cycle.Timely rt v c where
  answered : c.cursor = .at .orchestrator →
    ∀ ev ∈ (c.agentRun rt v .orchestrator).trace, Answered ev ∧ InTime ev

/-- Nothing goes wrong during the visit. -/
structure Cycle.Undisturbed (rt : Runtime) (v : Visit) (c : Cycle) : Prop where
  handsOver : ∀ node, c.cursor = .at node → c.HandsOver v
  calm : c.Allows Calm rt v

theorem Cycle.Undisturbed.orderly {rt : Runtime} {v : Visit} {c : Cycle}
    (h : c.Undisturbed rt v) : c.Orderly rt v where
  handsOver := h.handsOver
  clockSane node hcursor ev hev := (h.calm node hcursor ev hev).clockSane
  answered hcursor ev hev :=
    ⟨(h.calm _ hcursor ev hev).answered, (h.calm _ hcursor ev hev).inTime⟩

section Runs

variable {rt : Runtime} {fresh : Fresh} {request : CycleRequest} {visits : Nat → Visit}
variable {c : Cycle} {done todo : List Specialist}

/-- The calm events of an orderly turn of the orchestrator. -/
theorem Cycle.Orderly.calm {v : Visit} (h : c.Orderly rt v)
    (hcursor : c.cursor = .at .orchestrator) :
    ∀ ev ∈ (c.agentRun rt v .orchestrator).trace, Calm ev := fun ev hev =>
  have hanswered := h.answered hcursor ev hev
  ⟨hanswered.1, hanswered.2, h.clockSane _ hcursor ev hev⟩

/-- Taking `m` steps and then `n` more. -/
theorem Cycle.after_add (m n : Nat) :
    after rt visits c (m + n) = after rt (fun i => visits (m + i)) (after rt visits c m) n := by
  induction n with
  | zero => rfl
  | succ n ih => rw [← Nat.add_assoc, after, ih, after]

/-- A cycle that is at no node stays as it is. -/
theorem Cycle.after_of_not_at {m n : Nat} (hmn : m ≤ n)
    (h : ∀ node, (after rt visits c m).cursor ≠ .at node) :
    after rt visits c n = after rt visits c m := by
  induction n, hmn using Nat.le_induction with
  | base => rfl
  | succ n hmn ih =>
      rw [after, ih, step]
      cases hcursor : (after rt visits c m).cursor with
      | «at» node => exact absurd hcursor (h node)
      | ended => rfl
      | crashed e => rfl

/-- A cycle that has ended stays as it is. -/
theorem Cycle.after_of_ended {m n : Nat} (hmn : m ≤ n)
    (h : (after rt visits c m).cursor = .ended) : after rt visits c n = after rt visits c m :=
  after_of_not_at hmn (by simp [h])

/-- A step visits at most one node more. -/
theorem Cycle.visited_step (rt : Runtime) (v : Visit) (c : Cycle) :
    (c.step rt v).visited = c.visited ∨ ∃ node, (c.step rt v).visited = c.visited ++ [node] := by
  cases hcursor : c.cursor with
  | ended => exact Or.inl (by simp [step, hcursor])
  | crashed e => exact Or.inl (by simp [step, hcursor])
  | «at» node =>
      cases hload : GestaltGraphState.modelValidate v.received c.state.modelDump with
      | error e => exact Or.inl (by simp [step, hcursor, hload])
      | ok s =>
          refine Or.inr ⟨node, ?_⟩
          simp only [step, hcursor, hload, visit]
          split <;> rfl

/-- The nodes visited stay visited. -/
theorem Cycle.visited_prefix {m n : Nat} (hmn : m ≤ n) :
    (after rt visits c m).visited <+: (after rt visits c n).visited := by
  induction n, hmn using Nat.le_induction with
  | base => exact List.prefix_rfl
  | succ n hmn ih =>
      rcases visited_step rt (visits n) (after rt visits c n) with h | ⟨node, h⟩
      · rw [after, h]
        exact ih
      · rw [after, h]
        exact ih.trans (List.prefix_append _ _)

/-- An ended cycle has visited all nodes it ever visits. -/
theorem Cycle.visited_prefix_of_ended {m : Nat} (h : (after rt visits c m).cursor = .ended)
    (n : Nat) : (after rt visits c n).visited <+: (after rt visits c m).visited := by
  rcases Nat.le_total n m with hn | hn
  · exact visited_prefix hn
  · simp [after_of_ended hn h]

/-- As many nodes are visited as steps are taken, at most. -/
theorem Cycle.length_visited_le (n : Nat) :
    (after rt visits c n).visited.length ≤ c.visited.length + n := by
  induction n with
  | zero => exact Nat.le_refl _
  | succ n ih =>
      rcases visited_step rt (visits n) (after rt visits c n) with h | ⟨node, h⟩
      · rw [after, h]
        omega
      · rw [after, h, List.length_append, List.length_singleton]
        omega

/-- The cycle a request starts is at the orchestrator, with its plan ahead. -/
theorem atOrchestrator_start {plan : List Specialist}
    (hplan : Orchestrator.plan? rt (buildGraphState fresh request) = some plan) :
    AtOrchestrator rt [] plan (Cycle.start fresh request) where
  cursor := rfl
  records := ⟨rfl, rfl, rfl⟩
  route := by simp
  plan := hplan
  summary := rfl

/-- A sound cycle has the objective of its request. -/
theorem Cycle.Sound.aligned (h : c.Sound fresh request)
    (haligned : blank request.objective.val = false) : blank c.state.objective.val = false := by
  rw [h.same.objective]
  exact haligned

/-- **The rest of the plan**: from the orchestrator's turn on, a plan of `k`
specialists is finished after `2 k + 1` orderly steps. -/
theorem AtOrchestrator.finished (h : AtOrchestrator rt done todo c)
    (hsound : c.Sound fresh request) (haligned : blank request.objective.val = false)
    (horderly : ∀ n, n < 2 * todo.length + 1 →
      (Cycle.after rt visits c n).Orderly rt (visits n)) :
    Finished (done ++ todo) (Cycle.after rt visits c (2 * todo.length + 1)) := by
  induction todo generalizing done c visits with
  | nil =>
      have hfirst : c.Orderly rt (visits 0) := horderly 0 (by simp)
      have hfinished := (h.step hsound.inRange (hsound.aligned haligned)
        (hfirst.handsOver _ h.cursor) (hfirst.calm h.cursor)).1 rfl
      rwa [List.append_nil]
  | cons a todo ih =>
      have hfirst : c.Orderly rt (visits 0) := horderly 0 (by simp)
      have hspecialist := (h.step hsound.inRange (hsound.aligned haligned)
        (hfirst.handsOver _ h.cursor) (hfirst.calm h.cursor)).2 a todo rfl
      have hsecond : (c.step rt (visits 0)).Orderly rt (visits 1) := horderly 1 (by simp)
      have hnext := hspecialist.step (hsound.step rt _).inRange
        (hsecond.handsOver _ hspecialist.cursor) (hsecond.clockSane _ hspecialist.cursor)
      have hrest : Finished (done ++ [a] ++ todo) (Cycle.after rt (fun i => visits (2 + i))
          ((c.step rt (visits 0)).step rt (visits 1)) (2 * todo.length + 1)) :=
        ih hnext ((hsound.step rt _).step rt _) fun n hn => ?_
      · have hlength : 2 * (a :: todo).length + 1 = 2 + (2 * todo.length + 1) := by
          rw [List.length_cons]
          omega
        rw [hlength, Cycle.after_add, List.append_cons]
        exact hrest
      · have horder := horderly (2 + n) (by rw [List.length_cons]; omega)
        rwa [Cycle.after_add] at horder

end Runs

end Gestalt
