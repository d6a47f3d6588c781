import Gestalt.Graph.Reference

/-!
# Gestalt.Graph.Finalization

Which cycles are finalized when nothing goes wrong outside the process.

A blank objective and a plan that is no list of known specialists doom a cycle:
no turn of the orchestrator can finalize it, and no visit mends the state.  A
doomed cycle that was routed anywhere goes round until the recursion limit.
-/

namespace Gestalt

open Effects Program

/-! ## doomed states -/

/-- Whether there is a plan depends on two keys of the metadata. -/
theorem Orchestrator.plan?_eq_none_congr {rt : Runtime} {s s' : GestaltGraphState}
    (hpending : s'.metadata.get? "pending_agents" = s.metadata.get? "pending_agents")
    (hscheduled : s'.metadata.get? "scheduled_agent" = s.metadata.get? "scheduled_agent")
    (h : plan? rt s = none) : plan? rt s' = none := by
  rw [plan?, pendingAgents] at h ⊢
  rw [hpending]
  cases hget : s.metadata.get? "pending_agents" with
  | some pending => simpa only [hget] using h
  | none =>
      have hsame : scheduledAgent s' = scheduledAgent s := by
        rw [scheduledAgent, scheduledAgent, hscheduled]
      rw [hget] at h
      simp only [determineNextAgents_eq, hsame] at h ⊢
      cases hname : scheduledAgent s with
      | some name => simpa only [hname] using h
      | none =>
          obtain ⟨plan, hplan, -⟩ := exists_planned rt s
          rw [hname] at h
          simp only [hplan, Option.bind_some, List.map_map, Function.comp_def,
            Specialist.mapM_ofValue?_names] at h
          contradiction

/-- A state in which no turn of the orchestrator completes the plan. -/
structure Doomed (rt : Runtime) (s : GestaltGraphState) : Prop where
  unplannable : blank s.objective.val = true ∨ Orchestrator.plan? rt s = none
  summary : s.latestSummary = none

section Doomed

variable {allows : Event Services → Prop} {rt : Runtime} {node : AgentName}
variable {s out : GestaltGraphState}

/-- What two states have to share for one to be doomed like the other. -/
theorem Doomed.congr (h : Doomed rt s) (hobjective : out.objective = s.objective)
    (hpending : out.metadata.get? "pending_agents" = s.metadata.get? "pending_agents")
    (hscheduled : out.metadata.get? "scheduled_agent" = s.metadata.get? "scheduled_agent")
    (hsummary : out.latestSummary = s.latestSummary) : Doomed rt out where
  unplannable := by
    rw [hobjective]
    exact h.unplannable.imp_right (Orchestrator.plan?_eq_none_congr hpending hscheduled)
  summary := hsummary.trans h.summary

/-- The rest of a plan that has an unknown element after a known one. -/
theorem Specialist.mapM_tail_eq_none {next : Value} {rest : List Value} {a : Specialist}
    (hknown : ofValue? next = some a) (h : (next :: rest).mapM ofValue? = none) :
    rest.mapM ofValue? = none := by
  cases hrest : rest.mapM ofValue? with
  | none => rfl
  | some plan => simp [List.mapM_cons, hknown, hrest] at h

/-- **No visit mends a doomed state.** -/
theorem VisitOutcome.doomed (hout : VisitOutcome allows rt s node out) (h : Doomed rt s) :
    Doomed rt out := by
  have hobjective : out.objective = s.objective := by
    obtain ⟨u⟩ := hout.update
    exact u.sameCycle.objective
  by_cases hnode : node = .orchestrator
  · cases hout with
    | completed specialist _ _ _ => contradiction
    | failed specialist _ => contradiction
    | routed aligned routing update =>
        obtain ⟨messages, report, -, -, rfl⟩ := update
        have hnone := h.unplannable.resolve_left (by simp [aligned])
        cases routing with
        | finalize pending _ => simp [Orchestrator.plan?, pending] at hnone
        | dispatch pending _ dispatches =>
            rw [Orchestrator.plan?, pending, Option.bind_some] at hnone
            refine ⟨Or.inr ?_, ?_⟩
            · simp [Orchestrator.plan?, Orchestrator.pendingAgents, applyStateUpdate,
                dispatches.metadata, Value.iterate?,
                Specialist.mapM_tail_eq_none dispatches.known hnone]
            · simpa [applyStateUpdate, dispatches.summary, GestaltGraphState.withApproval]
                using h.summary
    | routeFailed left update =>
        obtain ⟨e, report, -, rfl⟩ := update
        rcases left with rfl | ⟨approval, -, rfl⟩ <;>
          exact h.congr rfl (by simp [GestaltGraphState.withApproval])
            (by simp [GestaltGraphState.withApproval]) rfl
  · have hvisit := hout.specialistVisit hnode
    exact h.congr hobjective (hvisit.metadata _ (by decide)) (hvisit.metadata _ (by decide))
      hvisit.summary

/-- A visit to a doomed state leaves a route to a specialist if there was one,
and no visit ends the cycle. -/
theorem VisitOutcome.routes (hout : VisitOutcome allows rt s node out) (h : Doomed rt s)
    (hroute : ∃ a : Specialist, routeFromOrchestrator s = some a.name) :
    ∃ a : Specialist, routeFromOrchestrator out = some a.name := by
  cases hout with
  | completed specialist aligned artifacts update =>
      have hcompleted : VisitOutcome allows rt s node out :=
        .completed specialist aligned artifacts update
      have hvisit := hcompleted.specialistVisit specialist
      simpa [routeFromOrchestrator, hvisit.metadata] using hroute
  | failed specialist update => simpa [update.route] using hroute
  | routed aligned routing update =>
      obtain ⟨messages, report, -, -, rfl⟩ := update
      have hnone := h.unplannable.resolve_left (by simp [aligned])
      cases routing with
      | finalize pending _ => simp [Orchestrator.plan?, pending] at hnone
      | @dispatch next rest a approval _ pending issued dispatches =>
          have hname := Specialist.asStr?_of_ofValue? dispatches.known
          exact ⟨a, by simp [routeFromOrchestrator, applyStateUpdate, dispatches.metadata, hname]⟩
  | routeFailed left update => simpa [update.route, left.route] using hroute

end Doomed

/-! ## doomed runs -/

section Runs

variable {rt : Runtime} {fresh : Fresh} {request : CycleRequest} {visits : Nat → Visit}
variable {executions : Nat} {c : Cycle} {v : Visit}

/-- A doomed request is never finalized. -/
theorem doomed_after (visits : Nat → Visit) (h : Doomed rt (buildGraphState fresh request))
    (n : Nat) :
    Doomed rt (Cycle.after rt visits (Cycle.start fresh request) n).state := by
  induction n with
  | zero => exact h
  | succ n ih =>
      have hstep := Cycle.step_cases (Cycle.sound_after rt fresh request visits n).inRange
        (Cycle.allows_any rt (visits n) _)
      rcases hstep.state_cases with heq | ⟨node, hout⟩
      · rw [Cycle.after, heq]
        exact ih
      · exact hout.doomed ih

/-- What becomes of a doomed cycle: it has not begun, it goes round between
the orchestrator and the specialists, it crashed, or its first visit ended it. -/
inductive Fruitless (rt : Runtime) (c : Cycle) : Prop where
  | begins (cursor : c.cursor = .at .orchestrator) (visited : c.visited = [])
      (doomed : Doomed rt c.state)
  | loops (node : AgentName) (cursor : c.cursor = .at node) (doomed : Doomed rt c.state)
      (route : ∃ a : Specialist, routeFromOrchestrator c.state = some a.name)
  | crashed (e : CycleError) (cursor : c.cursor = .crashed e)
  | ended (cursor : c.cursor = .ended) (visited : c.visited = [.orchestrator])

/-- Following a route from the orchestrator. -/
theorem followRoute_cases (route : Option String) :
    followRoute route = .ended ∨ (∃ e, followRoute route = .crashed e) ∨
      ∃ a : Specialist, route = some a.name ∧ followRoute route = .at a.agent := by
  cases route with
  | none => exact Or.inr (Or.inl ⟨_, rfl⟩)
  | some name =>
      simp only [followRoute]
      split
      · exact Or.inl rfl
      · split
        · next a ha =>
            exact Or.inr (Or.inr ⟨a, by rw [Specialist.name_of_ofName? ha], rfl⟩)
        · exact Or.inr (Or.inl ⟨_, rfl⟩)

/-- A step leaves a doomed cycle fruitless. -/
theorem Fruitless.step (h : Fruitless rt c) (hrange : c.state.stats.InRange) :
    Fruitless rt (c.step rt v) := by
  have hstep := Cycle.step_cases hrange (Cycle.allows_any rt v c)
  generalize c.step rt v = next at hstep ⊢
  cases hstep with
  | stays _ => exact h
  | rejected _ => exact .crashed _ rfl
  | raised _ => exact .crashed _ rfl
  | @visited node out hcursor outcome =>
      cases h with
      | begins cursor visited doomed =>
          obtain rfl : AgentName.orchestrator = node := by simpa [cursor] using hcursor
          have hnext : nextCursor .orchestrator out = followRoute (routeFromOrchestrator out) := rfl
          rcases followRoute_cases (routeFromOrchestrator out) with hend | ⟨e, he⟩ | ⟨a, ha, hat⟩
          · exact .ended (hnext.trans hend) (by simp [visited])
          · exact .crashed e (hnext.trans he)
          · exact .loops _ (hnext.trans hat) (outcome.doomed doomed) ⟨a, ha⟩
      | loops _ _ doomed route =>
          obtain ⟨a, ha⟩ := outcome.routes doomed route
          by_cases hnode : node = .orchestrator
          · refine .loops a.agent ?_ (outcome.doomed doomed) ⟨a, ha⟩
            rw [nextCursor, if_pos hnode, ha, followRoute_name]
          · exact .loops .orchestrator (if_neg hnode) (outcome.doomed doomed) ⟨a, ha⟩
      | crashed e cursor => simp [cursor] at hcursor
      | ended cursor _ => simp [cursor] at hcursor

/-- **A doomed cycle** that ends has visited the orchestrator only. -/
theorem visited_of_doomed (h : Doomed rt (buildGraphState fresh request)) {n : Nat}
    (hended : (Cycle.after rt visits (Cycle.start fresh request) n).cursor = .ended) :
    (Cycle.after rt visits (Cycle.start fresh request) n).visited = [.orchestrator] := by
  have hfruitless : ∀ n, Fruitless rt (Cycle.after rt visits (Cycle.start fresh request) n) := by
    intro n
    induction n with
    | zero => exact .begins rfl rfl h
    | succ n ih => exact ih.step (Cycle.sound_after rt fresh request visits n).inRange
  cases hfruitless n with
  | begins cursor _ _ => simp [cursor] at hended
  | loops _ cursor _ _ => simp [cursor] at hended
  | crashed _ cursor => simp [cursor] at hended
  | ended _ visited => exact visited

/-! ## results of a cycle -/

/-- A cycle returns the state it ended in, once that is handed over. -/
theorem runCycle_ok_iff {last : LoadContext} {final : GestaltGraphState} :
    let c := Cycle.after rt visits (Cycle.start fresh request) executions
    runCycle rt executions fresh visits last request = .ok final ↔
      c.cursor = .ended ∧ final = c.state ∧ ∀ a ∈ c.state.approvals, last.now < a.expiresAt := by
  intro c
  have hload : GestaltGraphState.modelValidate last c.state.modelDump = .ok final ↔ _ :=
    modelValidate_modelDump_iff (Cycle.sound_after rt fresh request visits executions).inRange last
  rw [← hload, runCycle]
  cases hcursor : (Cycle.after rt visits (Cycle.start fresh request) executions).cursor with
  | «at» node => simp [c]
  | crashed e => simp [c]
  | ended =>
      simp only [c, true_and]
      split <;> simp_all

/-- Every hand-off of the cycle, the last one included, happens before an
approval it hands over expires. -/
structure Cycle.HandedOver (rt : Runtime) (executions : Nat) (fresh : Fresh) (visits : Nat → Visit)
    (last : LoadContext) (request : CycleRequest) : Prop where
  received : ∀ n node, (after rt visits (start fresh request) n).cursor = .at node →
    (after rt visits (start fresh request) n).HandsOver (visits n)
  returned : ∀ a ∈ (after rt visits (start fresh request) executions).state.approvals,
    last.now < a.expiresAt

/-- A cycle that ended was handed over in time all along: a state that is lost
in a hand-off ends nothing. -/
theorem Cycle.handsOver_of_ended {m n : Nat} {node : AgentName}
    (hended : (after rt visits (start fresh request) m).cursor = .ended)
    (hcursor : (after rt visits (start fresh request) n).cursor = .at node) :
    (after rt visits (start fresh request) n).HandsOver (visits n) := by
  have hlt : n < m := by
    by_contra hle
    rw [after_of_ended (Nat.le_of_not_lt hle) hended, hended] at hcursor
    contradiction
  have hrange := (sound_after rt fresh request visits n).inRange
  cases hload : GestaltGraphState.modelValidate (visits n).received
      (after rt visits (start fresh request) n).state.modelDump with
  | ok s => exact ((modelValidate_modelDump_iff hrange _).mp hload).2
  | error e =>
      have hcrashed : (after rt visits (start fresh request) (n + 1)).cursor =
          .crashed (.invalidState e) := by
        simp [after, step, hcursor, hload]
      have hlost : ∀ node', (after rt visits (start fresh request) (n + 1)).cursor ≠ .at node' := by
        simp [hcrashed]
      rw [after_of_not_at hlt hlost, hcrashed] at hended
      contradiction

/-- A cycle that returns a state was handed over in time. -/
theorem Cycle.handedOver_of_ok {last : LoadContext} {final : GestaltGraphState}
    (h : runCycle rt executions fresh visits last request = .ok final) :
    HandedOver rt executions fresh visits last request := by
  obtain ⟨hended, -, hlast⟩ := runCycle_ok_iff.mp h
  exact ⟨fun _ _ hcursor => handsOver_of_ended hended hcursor, hlast⟩

/-- A cycle with a plan ends after its last turn, and not before. -/
theorem Finished.ended_iff {plan : List Specialist}
    (h : Finished plan (Cycle.after rt visits (Cycle.start fresh request) (2 * plan.length + 1)))
    {n : Nat} :
    (Cycle.after rt visits (Cycle.start fresh request) n).cursor = .ended ↔
      2 * plan.length + 1 ≤ n := by
  constructor
  · intro hended
    by_contra hlt
    have hstays := Cycle.after_of_ended (Nat.le_of_not_le hlt) hended
    have hlength : (Cycle.after rt visits (Cycle.start fresh request) n).visited.length ≤ _ :=
      Cycle.length_visited_le n
    rw [← hstays, h.records.visited, List.length_append, length_turns] at hlength
    simp only [List.length_singleton, Cycle.start, List.length_nil] at hlength
    omega
  · intro hle
    rw [Cycle.after_of_ended hle h.cursor]
    exact h.cursor

/-- A calm cycle whose hand-offs are in time is undisturbed. -/
theorem Cycle.HandedOver.undisturbed {last : LoadContext}
    (h : HandedOver rt executions fresh visits last request)
    (hcalm : ∀ n, (after rt visits (start fresh request) n).Allows Calm rt (visits n)) (n : Nat) :
    (after rt visits (start fresh request) n).Undisturbed rt (visits n) :=
  ⟨h.received n, hcalm n⟩

/-- An undisturbed cycle goes from the orchestrator to the next in its plan. -/
theorem AtOrchestrator.after_step
    (h : ∀ n, (Cycle.after rt visits (Cycle.start fresh request) n).Undisturbed rt (visits n))
    (haligned : blank request.objective.val = false) {done rest : List Specialist}
    {a : Specialist} {n : Nat} (hat : AtOrchestrator rt done (a :: rest)
      (Cycle.after rt visits (Cycle.start fresh request) n)) :
    AtSpecialist done a rest (Cycle.after rt visits (Cycle.start fresh request) (n + 1)) := by
  have hsound := Cycle.sound_after rt fresh request visits n
  exact (hat.step hsound.inRange (hsound.aligned haligned)
    ((h n).handsOver _ hat.cursor) ((h n).calm _ hat.cursor)).2 a rest rfl

/-- An undisturbed cycle comes back from a specialist to the orchestrator. -/
theorem AtSpecialist.after_step
    (h : ∀ n, (Cycle.after rt visits (Cycle.start fresh request) n).Undisturbed rt (visits n))
    {done rest : List Specialist} {a : Specialist} {n : Nat}
    (hat : AtSpecialist done a rest (Cycle.after rt visits (Cycle.start fresh request) n)) :
    AtOrchestrator rt (done ++ [a]) rest
      (Cycle.after rt visits (Cycle.start fresh request) (n + 1)) :=
  hat.step (Cycle.sound_after rt fresh request visits n).inRange
    ((h n).handsOver _ hat.cursor) ((h n).orderly.clockSane _ hat.cursor)

/-- An undisturbed cycle with a plan finishes it. -/
theorem finished_of_undisturbed {plan : List Specialist}
    (haligned : blank request.objective.val = false)
    (hplan : Orchestrator.plan? rt (buildGraphState fresh request) = some plan)
    (h : ∀ n, (Cycle.after rt visits (Cycle.start fresh request) n).Undisturbed rt (visits n)) :
    Finished plan (Cycle.after rt visits (Cycle.start fresh request) (2 * plan.length + 1)) :=
  (atOrchestrator_start hplan).finished (Cycle.sound_start fresh request) haligned
    fun n _ => (h n).orderly

end Runs

/-- **Which cycles are finalized.**  In a run in which nothing goes wrong during
the visits, the request returns a state that was finalized last and holds a
summary exactly when its objective is not blank, its plan is a list of known
specialists, the recursion limit admits a turn for each node of the plan, and
the hand-offs are in time. -/
theorem Cycle.finalized_iff (rt : Runtime) (executions : Nat) (fresh : Fresh) (visits : Nat → Visit)
    (last : LoadContext) (request : CycleRequest)
    (hcalm : ∀ n,
      (Cycle.after rt visits (Cycle.start fresh request) n).Allows Calm rt (visits n)) :
    (∃ final, runCycle rt executions fresh visits last request = .ok final ∧
      final.decisions.getLast? = some .finalize ∧ final.latestSummary.isSome = true) ↔
    blank request.objective.val = false ∧
      (∃ plan, Orchestrator.plan? rt (buildGraphState fresh request) = some plan ∧
        2 * plan.length + 1 ≤ executions) ∧
      HandedOver rt executions fresh visits last request := by
  constructor
  · intro h
    obtain ⟨final, hrun, -, hsummary⟩ := h
    have hover := handedOver_of_ok hrun
    obtain ⟨hended, rfl, -⟩ := runCycle_ok_iff.mp hrun
    have hsound : ¬ Doomed rt (buildGraphState fresh request) := by
      intro hdoomed
      simp [(doomed_after visits hdoomed executions).summary] at hsummary
    cases hblank : blank request.objective.val with
    | true => exact absurd ⟨Or.inl hblank, rfl⟩ hsound
    | false =>
        cases hplan : Orchestrator.plan? rt (buildGraphState fresh request) with
        | none => exact absurd ⟨Or.inr hplan, rfl⟩ hsound
        | some plan =>
            have hfinished := finished_of_undisturbed hblank hplan (hover.undisturbed hcalm)
            exact ⟨rfl, ⟨plan, rfl, hfinished.ended_iff.mp hended⟩, hover⟩
  · intro h
    obtain ⟨haligned, ⟨plan, hplan, henough⟩, hover⟩ := h
    have hfinished := finished_of_undisturbed haligned hplan (hover.undisturbed hcalm)
    have hended := hfinished.ended_iff.mpr henough
    have hstays := Cycle.after_of_ended henough hfinished.cursor
    refine ⟨_, runCycle_ok_iff.mpr ⟨hended, rfl, hover.returned⟩, ?_, ?_⟩
    · rw [hstays, hfinished.records.decisions, List.getLast?_append]
      rfl
    · obtain ⟨summary, hsummary, -⟩ := hfinished.summary
      rw [hstays, hsummary]
      rfl

theorem Reference.handedOver_calm {executions : Nat} {request : CycleRequest} :
    Cycle.HandedOver runtime executions fresh calm ⟨0, 0⟩ request :=
  ⟨fun n _ _ => handsOver_calm n n, handsOver_calm executions 0⟩

/-- A calm cycle for the monitor. -/
theorem Cycle.finalized_calm :
    ∃ final, runCycle Reference.runtime 25 Reference.fresh Reference.calm ⟨0, 0⟩
        Reference.monitorRequest = .ok final ∧
      final.decisions.getLast? = some .finalize ∧ final.latestSummary.isSome = true :=
  (Cycle.finalized_iff Reference.runtime 25 Reference.fresh Reference.calm ⟨0, 0⟩
    Reference.monitorRequest fun n => (Reference.undisturbed_calm n).calm).mpr
    ⟨by decide, ⟨[.monitor], by decide, by decide⟩, Reference.handedOver_calm⟩

/-- On a calm day the request is accepted, nothing goes wrong, and no cycle is
finalized, whatever the recursion limit. -/
def Reference.NeverFinalized (request : CycleRequest) : Prop :=
  (∀ n, (Cycle.after runtime calm (Cycle.start fresh request) n).Undisturbed runtime (calm n)) ∧
  ∀ executions, ¬ ∃ final, runCycle runtime executions fresh calm ⟨0, 0⟩ request = .ok final ∧
    final.decisions.getLast? = some .finalize ∧ final.latestSummary.isSome = true

theorem Reference.neverFinalized_of_doomed {request : CycleRequest}
    (h : Doomed runtime (buildGraphState fresh request)) : NeverFinalized request := by
  refine ⟨undisturbed_calm, ?_⟩
  intro executions hfinal
  obtain ⟨final, hrun, -, hsummary⟩ := hfinal
  obtain ⟨-, rfl, -⟩ := runCycle_ok_iff.mp hrun
  simp [(doomed_after calm h executions).summary] at hsummary

/-- Neither a blank objective, nor a scheduled agent nobody knows, nor a plan
that is no list is ever finalized. -/
theorem Cycle.not_finalized :
    Reference.NeverFinalized { objective := .text "   " } ∧
    Reference.NeverFinalized
      { Reference.watchRequest with metadata := [("scheduled_agent", .str "security")] } ∧
    Reference.NeverFinalized
      { Reference.watchRequest with metadata := [("pending_agents", .int 1)] } :=
  ⟨Reference.neverFinalized_of_doomed ⟨Or.inl (by decide), rfl⟩,
    Reference.neverFinalized_of_doomed ⟨Or.inr rfl, rfl⟩,
    Reference.neverFinalized_of_doomed ⟨Or.inr rfl, rfl⟩⟩

end Gestalt
