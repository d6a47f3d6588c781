import Gestalt.Graph.Reference

/-!
# Gestalt.Graph.Bound

How long a cycle can be.

The first turn of the orchestrator may fail: without a route the cycle ends.
A failure at a later turn is different, because the metadata still routes to
the specialist that ran last, which then runs again.
-/

namespace Gestalt

open Effects Program

section Bound

variable {rt : Runtime} {v : Visit} {c : Cycle} {done todo : List Specialist}

/-- **A stale route**: a later turn of the orchestrator that fails leads back to
the specialist that has just run. -/
theorem AtOrchestrator.failed {allows : Event Services → Prop} {a : Specialist}
    {s' out : GestaltGraphState} (h : AtOrchestrator rt (done ++ [a]) todo c)
    (hleft : AtMostIssued allows rt c.state s') (hout : FailedAs rt .orchestrator s' out) :
    nextCursor .orchestrator out = .at a.agent := by
  have hroute : routeFromOrchestrator out = some a.name := by
    rw [hout.route, hleft.route]
    exact h.route a (by simp)
  rw [nextCursor, if_pos rfl, hroute, followRoute_name]

/-- The first turn of a timely cycle ends it, or leads to the first specialist
of the plan, or finishes the empty plan. -/
theorem atSpecialist_or_ended {fresh : Fresh} {request : CycleRequest} {plan : List Specialist}
    (hplan : Orchestrator.plan? rt (buildGraphState fresh request) = some plan)
    (hroute : request.metadata.get? "next_node" = none)
    (htimely : (Cycle.start fresh request).Timely rt v) :
    let c := (Cycle.start fresh request).step rt v
    (c.cursor = .ended ∧ c.visited = [.orchestrator]) ∨
      ∃ a rest, plan = a :: rest ∧ AtSpecialist [] a rest c := by
  have hstart := atOrchestrator_start hplan
  obtain ⟨out, hrun, hout⟩ := (spec_visit ClockSane False .orchestrator
    fun _ _ h => Or.inl h).exists_ok (htimely.clockSane .orchestrator rfl)
  rw [Cycle.step_of_ok hstart.cursor (Cycle.sound_start fresh request).inRange
    (htimely.handsOver _ rfl) hrun]
  cases hout with
  | completed specialist _ _ _ => contradiction
  | failed specialist _ => contradiction
  | routed _ routing update =>
      obtain ⟨hfinished, hdispatched⟩ := hstart.routed routing update
      cases hcases : plan with
      | nil =>
          have h := hfinished hcases
          exact Or.inl ⟨h.cursor, h.records.visited⟩
      | cons a rest => exact Or.inr ⟨a, rest, rfl, hdispatched a rest hcases⟩
  | routeFailed left update =>
      refine Or.inl ⟨?_, rfl⟩
      have hnone : routeFromOrchestrator out = some "__end__" := by
        rw [update.route, left.route]
        simp [routeFromOrchestrator, buildGraphState, Cycle.start, hroute]
      simp [nextCursor, hnone, followRoute]

end Bound

/-- **Bounded cycles.**  Let an aligned request hold no routing state.  In a
timely cycle whose orchestrator may fail at its first turn only, whatever fails
elsewhere, a plan of `k` specialists ends after at most `2 k + 1` node
executions, and no specialist is executed twice. -/
theorem Cycle.bounded (rt : Runtime) (fresh : Fresh) (request : CycleRequest)
    (visits : Nat → Visit) (haligned : blank request.objective.val = false)
    (hrouting : ∀ key ∈ ["pending_agents", "next_node", "current_node", "scheduled_agent",
      "force_audit"], request.metadata.get? key = none)
    (htimely : ∀ n, (Cycle.after rt visits (Cycle.start fresh request) n).Timely rt (visits n))
    (horderly : ∀ n, 0 < n →
      (Cycle.after rt visits (Cycle.start fresh request) n).Orderly rt (visits n)) :
    let k := (Orchestrator.determineNextAgents rt (buildGraphState fresh request)).length
    (Cycle.after rt visits (Cycle.start fresh request) (2 * k + 1)).cursor = .ended ∧
    ∀ m, (Cycle.after rt visits (Cycle.start fresh request) m).visited.length ≤ 2 * k + 1 ∧
      ∀ a : Specialist,
        (Cycle.after rt visits (Cycle.start fresh request) m).visited.count a.agent ≤ 1 := by
  have hscheduled := hrouting "scheduled_agent" (by decide)
  obtain ⟨plan, hplan, hnodup⟩ := Orchestrator.exists_determined rt
    (s := buildGraphState fresh request)
    (by simp [Orchestrator.scheduledAgent, buildGraphState, hscheduled])
  have hplan? := Orchestrator.plan?_of_determined (hrouting "pending_agents" (by decide)) hplan
  rw [hplan, List.length_map]
  -- how the cycle ends after its first turn, or after all
  have hend : ∃ n done, n ≤ 2 * plan.length + 1 ∧ done.length ≤ plan.length ∧ done.Nodup ∧
      (after rt visits (start fresh request) n).cursor = .ended ∧
      (after rt visits (start fresh request) n).visited = turns done ++ [.orchestrator] := by
    have hfirst := atSpecialist_or_ended hplan? (hrouting "next_node" (by decide)) (htimely 0)
    rcases hfirst with ⟨hended, hvisited⟩ | ⟨a, rest, rfl, hspecialist⟩
    · exact ⟨1, [], by omega, by simp, List.nodup_nil, hended, hvisited⟩
    · have hsound := Cycle.sound_after rt fresh request visits 1
      have horch := hspecialist.step (v := visits 1) hsound.inRange
        ((htimely 1).handsOver _ hspecialist.cursor) ((htimely 1).clockSane _ hspecialist.cursor)
      have hfinished : Finished (a :: rest) (after rt (fun i => visits (2 + i))
          (after rt visits (start fresh request) 2) (2 * rest.length + 1)) :=
        horch.finished (hsound.step rt (visits 1)) haligned fun n _ => by
          have horder := horderly (2 + n) (by omega)
          rwa [after_add] at horder
      refine ⟨2 + (2 * rest.length + 1), a :: rest, by rw [List.length_cons]; omega,
        Nat.le_refl _, hnodup, ?_, ?_⟩
      · rw [after_add]
        exact hfinished.cursor
      · rw [after_add]
        exact hfinished.records.visited
  obtain ⟨n, done, hn, hlength, hdone, hended, hvisited⟩ := hend
  refine ⟨by rw [after_of_ended hn hended, hended], fun m => ?_⟩
  have hinitial := visited_prefix_of_ended hended m
  rw [hvisited] at hinitial
  refine ⟨?_, fun a => ?_⟩
  · refine Nat.le_trans hinitial.length_le ?_
    rw [List.length_append, length_turns, List.length_singleton]
    omega
  · refine Nat.le_trans (hinitial.sublist.count_le _) ?_
    rw [count_turns]
    exact List.nodup_iff_count.mp hdone a

/-- A calm cycle for the monitor. -/
theorem Cycle.bounded_calm :
    let k := (Orchestrator.determineNextAgents Reference.runtime
      (buildGraphState Reference.fresh Reference.watchRequest)).length
    (Cycle.after Reference.runtime Reference.calm
      (Cycle.start Reference.fresh Reference.watchRequest) (2 * k + 1)).cursor = .ended := by
  have horderly : ∀ n, (Cycle.after Reference.runtime Reference.calm
      (Cycle.start Reference.fresh Reference.watchRequest) n).Orderly Reference.runtime
        (Reference.calm n) := fun n => (Reference.undisturbed_calm n).orderly
  exact (Cycle.bounded Reference.runtime Reference.fresh Reference.watchRequest Reference.calm
    (by decide) (by decide) (fun n => (horderly n).toTimely) fun n _ => horderly n).1

/-- The blackboard is unavailable during the third visit, the second turn of
the orchestrator. -/
def Reference.staleVisits : Nat → Visit
  | 2 => visit fun call => match call with
    | .queryMemory _ => true
    | _ => false
  | _ => visit fun _ => false

theorem Reference.still_staleVisits (n : Nat) : Still (staleVisits n) := by
  unfold staleVisits
  split <;> exact still_visit _

/-- A failed second turn of the orchestrator runs the monitor again. -/
theorem Cycle.specialist_twice :
    let c := Cycle.after Reference.runtime Reference.staleVisits
      (Cycle.start Reference.fresh Reference.watchRequest)
    blank Reference.watchRequest.objective.val = false ∧
    (∀ key ∈ ["pending_agents", "next_node", "current_node", "scheduled_agent", "force_audit"],
      Reference.watchRequest.metadata.get? key = none) ∧
    (∀ n, (c n).Timely Reference.runtime (Reference.staleVisits n)) ∧
    (Orchestrator.determineNextAgents Reference.runtime
      (buildGraphState Reference.fresh Reference.watchRequest)).length = 1 ∧
    (c 3).cursor ≠ .ended ∧ (c 4).visited = [.orchestrator, .monitor, .orchestrator, .monitor] := by
  intro c
  have hsound := Cycle.sound_after Reference.runtime Reference.fresh Reference.watchRequest
    Reference.staleVisits
  change ∀ n, (c n).Sound _ _ at hsound
  have hover : ∀ n, (c n).HandsOver (Reference.staleVisits n) :=
    Reference.handsOver_of_still Reference.still_staleVisits
  have hstart : AtOrchestrator Reference.runtime [] [.monitor] (c 0) :=
    atOrchestrator_start (by decide +kernel)
  have haligned : blank (c 0).state.objective.val = false := by decide
  have hsteps : ∀ n, c (n + 1) = (c n).step Reference.runtime (Reference.staleVisits n) :=
    fun _ => rfl
  have hsane : ∀ n node, ∀ ev ∈ ((c n).agentRun Reference.runtime (Reference.staleVisits n)
      node).trace, ClockSane ev := by
    intro n node
    unfold Reference.staleVisits
    split <;> exact Reference.clockSane_visit _ _ _ _
  refine ⟨by decide, by decide, fun n => ⟨fun _ _ => hover n, fun node _ => hsane n node⟩,
    by decide +kernel, ?_⟩
  clear_value c
  have hfirst : AtSpecialist [] .monitor [] (c 1) := by
    rw [hsteps 0]
    exact (hstart.step (hsound 0).inRange haligned (hover 0) (Reference.calm_visit _ _ _)).2 _ _ rfl
  have hsecond : AtOrchestrator Reference.runtime ([] ++ [.monitor]) [] (c 2) := by
    rw [hsteps 1]
    exact hfirst.step (hsound 1).inRange (hover 1) (hsane 1 _)
  -- the failed turn keeps the route
  have hthird : (c 3).cursor = .at .monitor ∧
      (c 3).visited = [.orchestrator, .monitor, .orchestrator] := by
    have hfails : Spec (fun ev => ∃ n, ev = ⟨ev.op, (Reference.staleVisits 2).answers n ev.op⟩)
        (RunsOnly none) (c 2).state
        (run Reference.runtime (agentAt Reference.runtime .orchestrator))
        (fun out _ => FailedAs Reference.runtime .orchestrator (c 2).state out)
        fun _ _ => False := spec_run_unavailable ?_ ?_
    · obtain ⟨out, hrun, hout⟩ := hfails.exists_ok (answer_of_mem_trace _ _ _)
      rw [hsteps 2, Cycle.step_of_ok hsecond.cursor (hsound 2).inRange (hover 2) hrun]
      exact ⟨hsecond.failed (Or.inl rfl : AtMostIssued (fun _ => True) _ _ _) hout,
        by rw [hsecond.records.visited]; rfl⟩
    · intro q r hanswer
      obtain ⟨n, hn⟩ := hanswer
      simp [Reference.staleVisits, Reference.visit, Reference.answer] at hn
    · intro startedAt now hanswer
      obtain ⟨n, hn⟩ := hanswer
      have hnow : now = startedAt := by
        simpa [Reference.staleVisits, Reference.visit, Reference.answer] using hn
      exact Int.le_of_eq hnow.symm
  refine ⟨by rw [hthird.1]; simp, ?_⟩
  obtain ⟨out, hrun, -⟩ := (spec_visit ClockSane False .monitor
    fun _ _ h => Or.inl h).exists_ok (hsane 3 .monitor)
  rw [hsteps 3, Cycle.step_of_ok hthird.1 (hsound 3).inRange (hover 3) hrun, hthird.2]
  rfl

end Gestalt
