import Gestalt.Graph.Dispatch
import Gestalt.Graph.Risk

/-!
# Gestalt.Graph.Closing

The turn of the orchestrator that closes a cycle.

With nothing left of the plan the orchestrator asks the blackboard for evidence,
draws an identifier and writes the summary.  Scores in range are all it takes for
the summary to be valid, and every reachable state has them.
-/

namespace Gestalt

open Effects Program

/-! ## the summary -/

namespace Orchestrator

/-- The cohesion score of the state, given the evidence. -/
def cohesion (rt : Runtime) (s : GestaltGraphState) (inputs : CohesionInputs) : Score :=
  let penalty : Int :=
    inputs.failedCommands * rt.settings.stats.cohesionPenalties.failedCommand +
      max 0 (truncate (inputs.recentAverageAuditRisk / 10))
  let base := if s.stats.gestaltCohesionScore = 0 then 100 else s.stats.gestaltCohesionScore
  Score.clamp (base - penalty)

/-- The summary of the state under the identifier drawn for it. -/
def closingSummary (s : GestaltGraphState) (cohesionScore securityRiskScore : Score)
    (cycleId : Uuid) (producedAt : Int) : GestaltSummary where
  cycleId := cycleId
  traceId := s.traceId
  objective := s.objective
  completedActions := s.executionReports.map fun report => report.summary.val
  decisions := s.decisions ++ [.finalize]
  cohesionScore := cohesionScore
  securityRiskScore := securityRiskScore
  producedAt := producedAt

theorem length_closing : 8 ≤ "Orchestrator finalized the cycle.".length := by decide

/-- The artifacts that close a cycle. -/
def closingArtifacts (summary : GestaltSummary) : AgentArtifacts where
  summary := .text "Orchestrator finalized the cycle." length_closing
  decisions := [.finalize]
  latestSummary := some summary
  metadataUpdates := [("current_node", .str AgentName.orchestrator.name),
    ("next_node", .str "__end__"), ("pending_agents", .list [])]

section Runs

variable {rt : Runtime} {s : GestaltGraphState} {w : Surroundings Services}
variable {inputs : CohesionInputs}

/-- The evidence decides the score. -/
theorem run_evaluateCohesion (hinputs : w 0 (.call .computeCohesionInputs) = .ok inputs) :
    (evaluateCohesion rt).run w s =
      ⟨.ok (cohesion rt s inputs), s, [⟨.call .computeCohesionInputs, .ok inputs⟩]⟩ := by
  have hsend : (send .computeCohesionInputs).run w s =
      ⟨.ok inputs, s, [⟨.call .computeCohesionInputs, .ok inputs⟩]⟩ := by
    rw [run_send, hinputs]
  rw [evaluateCohesion, run_bind, run_read]
  simp only [List.length_nil, drop_zero, List.nil_append]
  rw [run_bind, hsend]
  rfl

/-- Without evidence there is no score. -/
theorem inputs_of_evaluateCohesion {score : Score}
    (h : ((evaluateCohesion rt).run w s).result = .ok score) :
    ∃ inputs, w 0 (.call .computeCohesionInputs) = .ok inputs := by
  obtain ⟨state, -, h⟩ := exists_of_run_bind h
  obtain ⟨inputs, hsend, -⟩ := exists_of_run_bind h
  rw [run_send] at hsend
  exact ⟨inputs, hsend⟩

/-- Where the evidence is there and the risk score is in range the cycle is closed: the
identifier of the summary is the first one drawn after that. -/
theorem run_finalize (hinputs : w 0 (.call .computeCohesionInputs) = .ok inputs)
    (hrange : s.stats.InRange) : ∃ risk trace, risk.val = s.stats.securityRiskScore ∧
      (finalize rt).run w s = ⟨.ok (closingArtifacts (closingSummary s (cohesion rt s inputs) risk
        (w 1 .uuid4) (w 2 (.utcNow .stamp)))), s, trace⟩ := by
  have hcheck := Score.check?_of_mem hrange.risk.1 hrange.risk.2
  refine ⟨⟨_, hrange.risk.1, hrange.risk.2⟩, [⟨.call .computeCohesionInputs, .ok inputs⟩,
    ⟨.uuid4, w 1 .uuid4⟩, ⟨.utcNow .stamp, w 2 (.utcNow .stamp)⟩], rfl, ?_⟩
  rw [finalize, run_bind, run_read]
  simp only [List.length_nil, drop_zero, List.nil_append]
  rw [run_bind, run_evaluateCohesion hinputs]
  simp only [hcheck, validate]
  rfl

/-- With nothing left of the plan, the builder returns what closes the cycle. -/
theorem run_produceArtifacts (hpending : pendingAgents rt s = some [])
    (hinputs : w 0 (.call .computeCohesionInputs) = .ok inputs) (hrange : s.stats.InRange)
    (context : AgentContextEnvelope) : ∃ risk trace, risk.val = s.stats.securityRiskScore ∧
      (produceArtifacts rt context).run w s = ⟨.ok (closingArtifacts (closingSummary s
        (cohesion rt s inputs) risk (w 1 .uuid4) (w 2 (.utcNow .stamp)))), s, trace⟩ := by
  obtain ⟨risk, trace, hrisk, hrun⟩ : ∃ risk trace, risk.val = s.stats.securityRiskScore ∧
      (finalize rt).run w s = ⟨.ok (closingArtifacts (closingSummary s (cohesion rt s inputs) risk
        (w 1 .uuid4) (w 2 (.utcNow .stamp)))), s, trace⟩ :=
    run_finalize hinputs hrange
  refine ⟨risk, trace, hrisk, ?_⟩
  rw [produceArtifacts, run_bind, run_read]
  simp only [List.length_nil, drop_zero, List.nil_append, hpending, hrun]

/-- With nothing left of the plan, the builder raises only when a call fails. -/
theorem steady_produceArtifacts {allows emits : Event Services → Prop} [Permissive emits]
    {mayRaise : Prop} (hcovers : Covers allows mayRaise)
    (hpending : pendingAgents rt s = some []) (hrange : s.stats.InRange)
    (context : AgentContextEnvelope) :
    Steady allows emits mayRaise s (produceArtifacts rt context)
      fun art => Finalizes s art ∧ Summarizes s art := by
  refine steady_read_bind ?_
  rw [hpending]
  exact steady_finalize hcovers (Or.inl hrange)

end Runs

end Orchestrator

/-! ## closing a cycle -/

/-- **Statistics change** only by the report of a completed visit to the
monitor. -/
theorem VisitEffect.stats {allows : Event Services → Prop} {rt : Runtime}
    {s out : GestaltGraphState} {node : AgentName} (h : VisitEffect allows rt s node out) :
    out.stats = s.stats ∨
      (node = .monitor ∧ ∃ report, out.stats = applyStatsReport s.stats report) := by
  rcases h.risk with ⟨rfl, -, -⟩ | ⟨hkept, -⟩
  · cases h with
    | @completed _ art _ _ _ _ _ update =>
        obtain ⟨messages, report, -, -, rfl⟩ := update
        cases hstats : art.statsReport with
        | none => exact Or.inl (by simp [applyStateUpdate, hstats])
        | some statsReport => exact Or.inr ⟨rfl, statsReport, by simp [applyStateUpdate, hstats]⟩
    | failed _ update =>
        obtain ⟨e, report, -, rfl⟩ := update
        exact Or.inl rfl
  · exact Or.inl hkept

theorem Cycle.stats_step (rt : Runtime) (v : Visit) {c : Cycle} (hrange : c.state.stats.InRange) :
    (c.step rt v).state.stats = c.state.stats ∨
      (c.cursor = .at .monitor ∧
        ∃ report, (c.step rt v).state.stats = applyStatsReport c.state.stats report) := by
  obtain hkept | ⟨node, hcursor, -, hrun⟩ := (moves hrange rt v).state_cases
  · rw [hkept]
    exact Or.inl rfl
  · refine (visitEffect_of_ok hrun).1.stats.imp_right fun h => ?_
    obtain ⟨rfl, report, hstats⟩ := h
    exact ⟨hcursor, report, hstats⟩

/-- **The last turn.**  With nothing left of the plan, a visit to the
orchestrator whose calls succeed ends the cycle with a summary. -/
theorem Cycle.ended_of_answered {rt : Runtime} {v : Visit} {c : Cycle}
    (hcursor : c.cursor = .at .orchestrator) (hover : c.HandsOver v)
    (hpending : Orchestrator.pendingAgents rt c.state = some [])
    (haligned : blank c.state.objective.val = false) (hrange : c.state.stats.InRange)
    (hanswered : ∀ ev ∈ (c.agentRun rt v .orchestrator).trace, Answered ev ∧ ClockSane ev) :
    (c.step rt v).cursor = .ended ∧
      ∃ summary, (c.step rt v).state.latestSummary = some summary := by
  have hcovers : Covers (fun ev => Answered ev ∧ ClockSane ev) False :=
    covers_of_answered fun _ h => h.1
  have hbuilder : ∀ context, ContextOf .orchestrator c.state context →
      Steady (fun ev => Answered ev ∧ ClockSane ev) (fun _ => True) False c.state
        ((agentAt rt .orchestrator).produceArtifacts context)
        fun art => Finalizes c.state art ∧ Summarizes c.state art :=
    fun context _ => Orchestrator.steady_produceArtifacts hcovers hpending hrange context
  obtain ⟨out, hrun, art, ⟨hfinal, -⟩, hout⟩ :=
    (spec_run_completed (fun _ h => h.1) (fun _ h => h.2) haligned hbuilder
      fun _ h => AgentArtifacts.issuesPending_of_nil h.2.commands).exists_ok hanswered
  rw [step_of_ok hcursor hrange hover hrun]
  refine ⟨?_, ?_⟩
  · simp [nextCursor, hout.route_of_finalizes hfinal, followRoute]
  · obtain ⟨summary, hsummary, -⟩ := hfinal.summary
    obtain ⟨messages, report, -, -, rfl⟩ := hout
    exact ⟨summary, by simp [applyStateUpdate, hsummary]⟩

/-- **Finalization is valid.**  In every reachable state of every cycle the
three scores are in range, and the next step keeps the statistics or, at the
monitor, merges a report.  If nothing is left of the plan and the objective is
not blank, then, given any evidence, the cohesion score is in range and the
orchestrator builds the artifacts with the summary; a visit to it whose calls
succeed ends the cycle. -/
theorem Cycle.finalization_valid (rt : Runtime) (fresh : Fresh) (request : CycleRequest)
    (visits : Nat → Visit) (n : Nat) :
    let c := after rt visits (start fresh request) n
    c.state.stats.InRange ∧
    (∀ v, (c.step rt v).state.stats = c.state.stats ∨
      (c.cursor = .at .monitor ∧
        ∃ report, (c.step rt v).state.stats = applyStatsReport c.state.stats report)) ∧
    (Orchestrator.pendingAgents rt c.state = some [] → blank c.state.objective.val = false →
      (∀ context (w : Surroundings Services) inputs,
        w 0 (.call .computeCohesionInputs) = .ok inputs →
        let score := Orchestrator.cohesion rt c.state inputs
        ((Orchestrator.evaluateCohesion rt).run w c.state).result = .ok score ∧
        (0 ≤ score.val ∧ score.val ≤ 100) ∧
        ∃ risk trace, risk.val = c.state.stats.securityRiskScore ∧
          (Orchestrator.produceArtifacts rt context).run w c.state =
            ⟨.ok (Orchestrator.closingArtifacts (Orchestrator.closingSummary c.state score risk
              (w 1 .uuid4) (w 2 (.utcNow .stamp)))), c.state, trace⟩) ∧
      ∀ v, c.cursor = .at .orchestrator → c.HandsOver v →
        (∀ ev ∈ (c.agentRun rt v .orchestrator).trace, Answered ev ∧ ClockSane ev) →
        (c.step rt v).cursor = .ended ∧
          ∃ summary, (c.step rt v).state.latestSummary = some summary) := by
  intro c
  have hrange := (sound_after rt fresh request visits n).inRange
  refine ⟨hrange, fun v => stats_step rt v hrange, fun hpending haligned => ⟨?_, ?_⟩⟩
  · intro context w inputs hinputs score
    have hscore : ((Orchestrator.evaluateCohesion rt).run w c.state).result = .ok score := by
      rw [Orchestrator.run_evaluateCohesion hinputs]
    exact ⟨hscore, ⟨score.nonneg, score.le_hundred⟩,
      Orchestrator.run_produceArtifacts hpending hinputs hrange context⟩
  · intro v hcursor hover hanswered
    exact ended_of_answered hcursor hover hpending haligned hrange hanswered

/-- On a calm day the cycle for the monitor is finalized after two visits, with a score in
range. -/
theorem Cycle.finalization_valid_monitor :
    let c := after Reference.runtime Reference.calm
      (start Reference.fresh Reference.monitorRequest) 2
    (∃ score, ((Orchestrator.evaluateCohesion Reference.runtime).run (Reference.calm 2).answers
        c.state).result = .ok score ∧ 0 ≤ score.val ∧ score.val ≤ 100) ∧
      (c.step Reference.runtime (Reference.calm 2)).cursor = .ended ∧
      ∃ summary, (c.step Reference.runtime (Reference.calm 2)).state.latestSummary =
        some summary := by
  intro c
  obtain ⟨-, -, hvalid⟩ := finalization_valid Reference.runtime Reference.fresh
    Reference.monitorRequest Reference.calm 2
  have hempty : (Orchestrator.pendingAgents Reference.runtime c.state).map List.isEmpty =
      some true := by decide +kernel
  obtain ⟨pending, hpending, hnone⟩ := Option.map_eq_some_iff.mp hempty
  obtain rfl := List.isEmpty_iff.mp hnone
  have haligned : blank c.state.objective.val = false := by decide +kernel
  have hfirst : AtOrchestrator Reference.runtime [] [.monitor] (after Reference.runtime
      Reference.calm (start Reference.fresh Reference.monitorRequest) 0) :=
    atOrchestrator_start (by decide)
  have hmonitor := hfirst.after_step Reference.undisturbed_calm (by decide)
  have hcursor : c.cursor = .at .orchestrator :=
    (hmonitor.after_step Reference.undisturbed_calm).cursor
  obtain ⟨hbuilt, hends⟩ := hvalid hpending haligned
  have context : AgentContextEnvelope := {
    traceId := 1, cycleId := 2, source := .api, objective := c.state.objective
    latestStats := c.state.stats, blackboardContext := [], inboundCommands := []
    approvals := [], metadata := [] }
  obtain ⟨hscore, hrange, -⟩ := hbuilt context (Reference.calm 2).answers ⟨0, 0⟩ rfl
  refine ⟨⟨_, hscore, hrange⟩, hends (Reference.calm 2) hcursor (Reference.handsOver_calm 2 2) ?_⟩
  exact fun ev hev => ⟨(Reference.calm_visit _ _ _ ev hev).answered,
    (Reference.calm_visit _ _ _ ev hev).clockSane⟩

end Gestalt
