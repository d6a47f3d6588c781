import Gestalt.Graph.Reference
import Gestalt.Library.Interleaving

/-!
# Gestalt.Graph.Interleaving

Cycles that run side by side on one blackboard and one event bus.

A turn is one node execution of one of the cycles, with whatever the shared
services answer during it.  A cycle only ever sees its own state, so the trace
of each is the one its plan prescribes.
-/

namespace Gestalt

open Effects Program Interleaving

/-- The cycles of the requests, after the turns taken so far. -/
def Cycle.interleaved {ι : Type} [DecidableEq ι] (rt : Runtime) (fresh : ι → Fresh)
    (request : ι → CycleRequest) (turns : List (ι × Visit)) : ι → Cycle :=
  interleave (fun v c => c.step rt v) (fun i => Cycle.start (fresh i) (request i)) turns

section Projection

variable {rt : Runtime}

/-- A list of visits, as the first visits of a run. -/
theorem Cycle.foldl_step_eq_after {visits : Nat → Visit} {vs : List Visit}
    (h : ∀ n v, vs[n]? = some v → visits n = v) (c : Cycle) :
    vs.foldl (fun c v => c.step rt v) c = after rt visits c vs.length := by
  induction vs generalizing c visits with
  | nil => rfl
  | cons v vs ih =>
      have hfirst : visits 0 = v := h 0 v rfl
      have hrest : ∀ n w, vs[n]? = some w → visits (1 + n) = w := by
        intro n w hw
        rw [Nat.add_comm]
        exact h (n + 1) w hw
      rw [List.foldl_cons, ih hrest, List.length_cons, Nat.add_comm, after_add, ← hfirst]
      rfl

variable {ι : Type} [DecidableEq ι] {fresh : ι → Fresh} {request : ι → CycleRequest}

/-- A cycle among others is a run of its own turns. -/
theorem Cycle.interleaved_eq_after (visits : Nat → Visit) {turns : List (ι × Visit)} {i : ι}
    (h : ∀ n v, (own i turns)[n]? = some v → visits n = v) :
    interleaved rt fresh request turns i =
      after rt visits (start (fresh i) (request i)) (own i turns).length := by
  rw [interleaved, interleave_apply]
  exact foldl_step_eq_after h _

end Projection

/-- **The exact trace of a cycle**, among any number of other cycles.  For an
aligned request without routing state, whose scheduled agent, if it has one, is
known, let every turn of the cycle be orderly.  Then its plan is a list of
specialists, and once it has had a turn for each of its nodes it has ended
after visiting exactly the orchestrator and the planned specialists in turn,
with the decisions and the reports in that order and a summary of them. -/
theorem Cycle.exact_trace {ι : Type} [DecidableEq ι] (rt : Runtime) (fresh : ι → Fresh)
    (request : ι → CycleRequest) (turns : List (ι × Visit)) (i : ι)
    (haligned : blank (request i).objective.val = false)
    (hrouting : ∀ key ∈ ["pending_agents", "next_node", "current_node"],
      (request i).metadata.get? key = none)
    (hscheduled : ∀ v, (request i).metadata.get? "scheduled_agent" = some v →
      ∃ a : Specialist, v = .str a.name)
    (horderly : ∀ before v rest, turns = before ++ (i, v) :: rest →
      (Cycle.interleaved rt fresh request before i).Orderly rt v) :
    ∃ plan : List Specialist,
      Orchestrator.determineNextAgents rt (buildGraphState (fresh i) (request i)) =
        plan.map Specialist.name ∧
      (2 * plan.length + 1 ≤ (own i turns).length →
        let c := Cycle.interleaved rt fresh request turns i
        c.cursor = .ended ∧
        c.visited = plan.flatMap (fun a => [.orchestrator, a.agent]) ++ [.orchestrator] ∧
        c.state.decisions = plan.map Specialist.decision ++ [.finalize] ∧
        c.state.executionReports.map (fun r => r.agentName.val) = c.visited.map AgentName.name ∧
        (∃ summary, c.state.latestSummary = some summary ∧
          summary.decisions = c.state.decisions) ∧
        ∀ ctx : LoadContext, (∀ a ∈ c.state.approvals, ctx.now < a.expiresAt) →
          GestaltGraphState.modelValidate ctx c.state.modelDump = .ok c.state) := by
  obtain ⟨plan, hplan, -⟩ := Orchestrator.exists_determined rt
    (Orchestrator.scheduledAgent_known (s := buildGraphState (fresh i) (request i)) hscheduled)
  refine ⟨plan, hplan, fun hlength => ?_⟩
  obtain ⟨v₀, hv₀⟩ : ∃ v₀, (own i turns)[0]? = some v₀ := by
    cases hown : own i turns with
    | nil => simp [hown] at hlength
    | cons v₀ _ => exact ⟨v₀, rfl⟩
  have hvisits : ∀ (n : Nat) (v : Visit), (own i turns)[n]? = some v →
      ((own i turns)[n]?).getD v₀ = v := by
    intro n v h
    rw [h, Option.getD_some]
  rw [Cycle.interleaved_eq_after _ hvisits]
  -- every step of the run is the turn of the cycle in its place between the others
  have hsteps : ∀ n, n < 2 * plan.length + 1 →
      (Cycle.after rt (fun n => ((own i turns)[n]?).getD v₀)
        (Cycle.start (fresh i) (request i)) n).Orderly rt (((own i turns)[n]?).getD v₀) := by
    intro n hn
    have hlt : n < (own i turns).length := Nat.lt_of_lt_of_le hn hlength
    obtain ⟨before, rest, hturns, hbefore⟩ := own_split (List.getElem?_eq_getElem hlt)
    have horder := horderly before _ rest hturns
    rw [Cycle.interleaved_eq_after fun n => ((own i turns)[n]?).getD v₀] at horder
    · rw [hbefore, List.length_take, Nat.min_eq_left (Nat.le_of_lt hlt)] at horder
      rwa [List.getElem?_eq_getElem hlt, Option.getD_some]
    · intro m v hm
      have hmn : m < n := by
        have hm' := (List.getElem?_eq_some_iff.mp hm).1
        rw [hbefore, List.length_take] at hm'
        omega
      rw [hbefore, List.getElem?_take_of_lt hmn] at hm
      rw [hm, Option.getD_some]
  have hpending := hrouting "pending_agents" (by decide)
  have hstart := atOrchestrator_start (Orchestrator.plan?_of_determined hpending hplan)
  have hfinished := hstart.finished (Cycle.sound_start _ _) haligned hsteps
  rw [Cycle.after_of_ended hlength hfinished.cursor]
  refine ⟨hfinished.cursor, hfinished.records.visited, hfinished.records.decisions, ?_,
    hfinished.summary, fun ctx hctx => ?_⟩
  · rw [hfinished.records.visited]
    exact hfinished.records.reports
  · exact (modelValidate_modelDump_iff (Cycle.sound_after _ _ _ _ _).inRange ctx).mpr ⟨rfl, hctx⟩

/-- Two cycles for the monitor that take turns on a calm day. -/
theorem Cycle.exact_trace_calm :
    let v := Reference.visit fun _ => false
    let c := Cycle.interleaved Reference.runtime (fun _ : Bool => Reference.fresh)
      (fun _ => Reference.monitorRequest)
      [(true, v), (false, v), (false, v), (true, v), (true, v), (false, v)] true
    c.cursor = .ended ∧
    ∃ a : Specialist, c.visited = [.orchestrator, a.agent, .orchestrator] := by
  intro v
  have htrace := Cycle.exact_trace Reference.runtime
    (fun _ : Bool => Reference.fresh) (fun _ => Reference.monitorRequest)
    [(true, v), (false, v), (false, v), (true, v), (true, v), (false, v)] true (by decide)
    (by decide) ?_ ?_
  · obtain ⟨plan, hplan, htrace⟩ := htrace
    have hlength : plan.length = 1 := by
      rw [← List.length_map (f := Specialist.name), ← hplan]
      decide
    obtain ⟨a, rfl⟩ := List.length_eq_one_iff.mp hlength
    have h := htrace (by simp [own])
    exact ⟨h.1, a, h.2.1⟩
  · intro _ hget
    cases hget
    exact ⟨.monitor, rfl⟩
  · intro before w rest hturns
    have hmem : ∀ t ∈ before ++ (true, w) :: rest, t.2 = v := by
      rw [← hturns]
      simp
    obtain rfl : w = v := hmem (true, w) (by simp)
    rw [Cycle.interleaved_eq_after Reference.calm]
    · exact (Reference.undisturbed_calm _).orderly
    · intro n w' hw'
      have hown := mem_of_mem_own (List.mem_of_getElem? hw')
      exact (hmem _ (List.mem_append_left _ hown)).symm

/-- The clock steps back during the second visit. -/
def Reference.steppedBackVisits : Nat → Visit
  | 1 => steppedBack
  | _ => visit fun _ => false

theorem Reference.still_steppedBackVisits (n : Nat) : Still (steppedBackVisits n) := by
  unfold steppedBackVisits
  split
  · exact still_steppedBack
  · exact still_visit _

/-- A sane clock is needed.  In this cycle, which runs alone, every hand-off is
in time and nothing goes wrong at any turn of the orchestrator, but the clock
steps back while the monitor runs: its failure report is rejected as well, the
visit raises, and the cycle never ends. -/
theorem Cycle.trace_cut_short :
    let c := Cycle.after Reference.runtime Reference.steppedBackVisits
      (Cycle.start Reference.fresh Reference.monitorRequest)
    blank Reference.monitorRequest.objective.val = false ∧
    (∀ key ∈ ["pending_agents", "next_node", "current_node"],
      Reference.monitorRequest.metadata.get? key = none) ∧
    Reference.monitorRequest.metadata.get? "scheduled_agent" =
      some (.str Specialist.monitor.name) ∧
    Orchestrator.determineNextAgents Reference.runtime
      (buildGraphState Reference.fresh Reference.monitorRequest) = [Specialist.monitor.name] ∧
    (∀ n, (c n).HandsOver (Reference.steppedBackVisits n)) ∧
    (∀ n, (c n).cursor = .at .orchestrator → ∀ ev ∈ ((c n).agentRun Reference.runtime
      (Reference.steppedBackVisits n) .orchestrator).trace, Calm ev) ∧
    ∀ n, (c n).cursor ≠ .ended := by
  intro c
  have hsound := Cycle.sound_after Reference.runtime Reference.fresh Reference.monitorRequest
    Reference.steppedBackVisits
  have hover : ∀ n, (c n).HandsOver (Reference.steppedBackVisits n) :=
    Reference.handsOver_of_still Reference.still_steppedBackVisits
  have hstart : AtOrchestrator Reference.runtime [] [.monitor] (c 0) :=
    atOrchestrator_start (by decide)
  have haligned : blank (c 0).state.objective.val = false := by decide
  have hfirst : c 1 = (c 0).step Reference.runtime (Reference.visit fun _ => false) := rfl
  have hsecond : c 2 = (c 1).step Reference.runtime Reference.steppedBack := rfl
  have hstays : ∀ n, 2 ≤ n → (∀ node, (c 2).cursor ≠ .at node) → c n = c 2 :=
    fun n hn => Cycle.after_of_not_at hn
  change ∀ n, (c n).Sound _ _ at hsound
  refine ⟨by decide, by decide, rfl, by decide, hover, ?_⟩
  clear_value c
  have hmonitor : AtSpecialist [] .monitor [] (c 1) := by
    rw [hfirst]
    exact (hstart.step (hsound 0).inRange haligned (hover 0) (Reference.calm_visit _ _ _)).2 _ _ rfl
  have hcrashed : ∃ e, (c 2).cursor = .crashed e := by
    have hraises : Spec (fun ev => ∃ n, ev = ⟨ev.op, Reference.steppedBack.answers n ev.op⟩)
        (RunsOnly none) (c 1).state (run Reference.runtime (agentAt Reference.runtime .monitor))
        (fun _ _ => False) fun _ _ => True := spec_visit_steppedBack (by decide) ?_
    · rw [hsecond]
      cases hrun : ((c 1).agentRun Reference.runtime Reference.steppedBack .monitor).result with
      | ok out => exact (hraises.of_ok (answer_of_mem_trace _ _ _) hrun).elim
      | error e => exact ⟨_, Cycle.step_of_error hmonitor.cursor (hsound 1).inRange (hover 1) hrun⟩
    · intro startedAt now hanswer
      obtain ⟨n, hn⟩ := hanswer
      obtain rfl : now = startedAt - 1 := by simpa [Reference.steppedBack] using hn
      exact Int.sub_lt_self startedAt Int.one_pos
  obtain ⟨e, he⟩ := hcrashed
  have hafter : ∀ n, (c (n + 2)).cursor = .crashed e := by
    intro n
    rw [hstays _ (Nat.le_add_left 2 n) (by simp [he]), he]
  refine ⟨fun n hn => ?_, fun n hn => ?_⟩
  · match n with
    | 0 => exact Reference.calm_visit _ _ _
    | 1 => exact absurd (hmonitor.cursor.symm.trans hn) (by simp [Specialist.agent])
    | n + 2 => exact Reference.calm_visit _ _ _
  · match n with
    | 0 => exact absurd (hstart.cursor.symm.trans hn) (by simp)
    | 1 => exact absurd (hmonitor.cursor.symm.trans hn) (by simp [Specialist.agent])
    | n + 2 => exact absurd ((hafter n).symm.trans hn) (by simp)

end Gestalt
