import Gestalt.Graph.Closing
import Gestalt.Graph.Ledger

/-!
# Gestalt.Graph.Summary

What a summary says about its cycle.

The summary is written in one visit, from the state of the cycle and from two
answers given during the visit: the identifier its default factory draws and
the time.  Trace, objective and decisions are those of the cycle.  The cycle id
is the identifier drawn, and the actions are all the reports, failed ones
included.
-/

namespace Gestalt

open Effects Program

/-! ## the visit that closes a cycle -/

/-- The step is a visit to the orchestrator that writes the summary. -/
structure Cycle.Closes (rt : Runtime) (v : Visit) (c : Cycle) (summary : GestaltSummary) :
    Prop where
  cursor : c.cursor = .at .orchestrator
  open_before : c.state.latestSummary = none
  closed_after : (c.step rt v).state.latestSummary = some summary

/-- Among the visits only one that finalizes changes the summary. -/
theorem VisitEffect.summary {allows : Event Services → Prop} {rt : Runtime}
    {s out : GestaltGraphState} {node : AgentName} (h : VisitEffect allows rt s node out) :
    out.latestSummary = s.latestSummary ∨
      (node = .orchestrator ∧ Orchestrator.pendingAgents rt s = some [] ∧
        ∃ report, out.executionReports.getLast? = some report ∧ report.status = .completed) := by
  cases h with
  | completed specialist aligned artifacts emitted update =>
      exact Or.inl ((VisitEffect.completed specialist aligned artifacts emitted
        update).outcome.specialistVisit specialist).summary
  | failed specialist update =>
      obtain ⟨e, report, -, rfl⟩ := update
      exact Or.inl (by simp [applyStateUpdate, failureArtifacts])
  | routed _ routing _ _ update =>
      obtain ⟨messages, report, -, hreport, rfl⟩ := update
      cases routing with
      | dispatch _ _ dispatches =>
          exact Or.inl
            (by simp [applyStateUpdate, dispatches.summary, GestaltGraphState.withApproval])
      | finalize pending _ =>
          exact Or.inr ⟨rfl, pending, report, by simp [applyStateUpdate], hreport.status_eq⟩
  | routeFailed left _ _ update =>
      obtain ⟨e, report, -, rfl⟩ := update
      rcases left with rfl | ⟨approval, -, rfl⟩ <;>
        exact Or.inl (by simp [applyStateUpdate, failureArtifacts, GestaltGraphState.withApproval])

/-- A completed builder with nothing left of the plan had its evidence. -/
theorem Orchestrator.inputs_of_produceArtifacts {rt : Runtime} {s : GestaltGraphState}
    {w : Surroundings Services} {context : AgentContextEnvelope} {art : AgentArtifacts}
    (hpending : pendingAgents rt s = some [])
    (h : ((produceArtifacts rt context).run w s).result = .ok art) :
    ∃ inputs, w 0 (.call .computeCohesionInputs) = .ok inputs := by
  rw [produceArtifacts, run_bind, run_read] at h
  simp only [List.length_nil, drop_zero, hpending] at h
  obtain ⟨state, -, h⟩ := exists_of_run_bind h
  rw [run_read, List.length_nil, drop_zero] at h
  obtain ⟨score, hscore, -⟩ := exists_of_run_bind h
  exact inputs_of_evaluateCohesion hscore

section Steps

variable {rt : Runtime} {v : Visit} {c : Cycle} {summary : GestaltSummary}

/-- **The summary of a visit** is that of the state, under the seventh answer of
the visit, and its decisions are those of the state it leads to. -/
theorem Cycle.Closes.eq_closingSummary (h : c.Closes rt v summary)
    (hrange : c.state.stats.InRange) :
    (∃ score risk producedAt, summary =
      Orchestrator.closingSummary c.state score risk (v.answers 7 .uuid4) producedAt) ∧
    (c.step rt v).state.decisions = c.state.decisions ++ [.finalize] := by
  have hafter := h.closed_after
  obtain hkept | ⟨node, hcursor, -, hrun⟩ := (moves hrange rt v).state_cases
  · rw [hkept, h.open_before] at hafter
    contradiction
  generalize (c.step rt v).state = out at hafter hrun ⊢
  obtain ⟨heffect, -⟩ := visitEffect_of_ok hrun
  obtain hkept | ⟨rfl, hpending, report, hreport, hcompleted⟩ := heffect.summary
  · rw [hkept, h.open_before] at hafter
    contradiction
  · -- the invocation is its body, and the body its builder
    have hbuilder : ∀ context art,
        ((Orchestrator.produceArtifacts rt context).run (v.answers.drop 6) c.state).result =
          .ok art →
        ((Orchestrator.produceArtifacts rt context).run (v.answers.drop 6) c.state).state =
          c.state ∧ ∃ score risk producedAt, art = Orchestrator.closingArtifacts
            (Orchestrator.closingSummary c.state score risk (v.answers 7 .uuid4) producedAt) := by
      intro context art hart
      obtain ⟨inputs, hinputs⟩ := Orchestrator.inputs_of_produceArtifacts hpending hart
      obtain ⟨risk, trace, -, hbuilt⟩ :=
        Orchestrator.run_produceArtifacts hpending hinputs hrange context
      rw [hbuilt] at hart ⊢
      exact ⟨rfl, _, risk, _, (Except.ok.inj hart).symm⟩
    obtain ⟨context, art, -, hart, messages, report', -, -, rfl⟩ :=
      completedAs_of_bodyRun (bodyRun_of_completed hrun hreport hcompleted) fun context art h => by
        obtain ⟨hkept, score, risk, producedAt, rfl⟩ := hbuilder context art h
        exact ⟨hkept, AgentArtifacts.issuesPending_of_nil rfl⟩
    obtain ⟨-, score, risk, producedAt, rfl⟩ := hbuilder context art hart
    exact ⟨⟨score, risk, producedAt, (Option.some.inj hafter).symm⟩, rfl⟩

end Steps

/-! ## runs -/

section Runs

variable {rt : Runtime} {fresh : Fresh} {request : CycleRequest} {visits : Nat → Visit}

/-- A summary was written by one of the visits, after which nothing changed. -/
theorem Cycle.exists_closes {n : Nat} {summary : GestaltSummary}
    (h : (after rt visits (start fresh request) n).state.latestSummary = some summary) :
    ∃ m, m < n ∧ (after rt visits (start fresh request) m).Closes rt (visits m) summary ∧
      (after rt visits (start fresh request) n).state =
        (after rt visits (start fresh request) (m + 1)).state := by
  induction n with
  | zero => simp [after, start, buildGraphState] at h
  | succ n ih =>
      cases hbefore : (after rt visits (start fresh request) n).state.latestSummary with
      | some earlier =>
          have hclosed := (summary_after n hbefore).cursor
          have hkept : after rt visits (start fresh request) (n + 1) =
              after rt visits (start fresh request) n := after_of_ended (Nat.le_succ n) hclosed
          rw [hkept] at h ⊢
          obtain ⟨m, hm, hcloses, hstate⟩ := ih h
          exact ⟨m, Nat.lt_succ_of_lt hm, hcloses, hstate⟩
      | none =>
          refine ⟨n, Nat.lt_succ_self n, ⟨?_, hbefore, h⟩, rfl⟩
          have hrange := (sound_after rt fresh request visits n).inRange
          rw [after] at h
          obtain hkept | ⟨node, hcursor, -, hrun⟩ := (moves hrange rt (visits n)).state_cases
          · rw [hkept, hbefore] at h
            contradiction
          · obtain hkept | ⟨rfl, -, -⟩ := (visitEffect_of_ok hrun).1.summary
            · rw [hkept, hbefore] at h
              contradiction
            · exact hcursor

/-- Every report is one of a completed or of a failed invocation. -/
theorem Cycle.settled_after (n : Nat) :
    ∀ report ∈ (after rt visits (start fresh request) n).state.executionReports,
      report.status = .completed ∨ report.status = .failed := by
  let settled (s : GestaltGraphState) : Prop :=
    ∀ report ∈ s.executionReports, report.status = .completed ∨ report.status = .failed
  have hstart : settled (buildGraphState fresh request) := by simp [settled, buildGraphState]
  refine of_entered hstart ?_ rt visits n
  intro s out entry hs hentered report hmem
  rw [hentered.reports, List.mem_append, List.mem_singleton] at hmem
  rcases hmem with hmem | rfl
  · exact hs report hmem
  · exact hentered.marker.imp And.left And.left

/-- The summary says of the cycle what happened: whose it is, what was decided,
and what was completed among the reports. -/
structure GestaltSummary.Faithful (summary : GestaltSummary) (fresh : Fresh)
    (request : CycleRequest) (reports : List AgentExecutionReport)
    (decisions : List AgentDecision) : Prop where
  traceId : summary.traceId = fresh.traceId
  cycleId : summary.cycleId = fresh.cycleId
  objective : summary.objective = request.objective
  decisions : summary.decisions = decisions
  completedActions : summary.completedActions =
    (reports.filter fun report => report.status = .completed).map fun report => report.summary.val

/-- The summaries of all reports are those of the completed ones exactly if
none failed. -/
theorem completedActions_eq_iff {reports : List AgentExecutionReport}
    (hsettled : ∀ report ∈ reports, report.status = .completed ∨ report.status = .failed) :
    (reports.map fun report => report.summary.val) =
      (reports.filter fun report => report.status = .completed).map
        (fun report => report.summary.val) ↔
    ∀ report ∈ reports, report.status ≠ .failed := by
  constructor
  · intro h report hmem hfailed
    have hlength := congrArg List.length h
    rw [List.length_map, List.length_map] at hlength
    have hall := List.length_filter_eq_length_iff.mp hlength.symm report hmem
    simp [hfailed] at hall
  · intro h
    have hall : ∀ report ∈ reports, decide (report.status = .completed) = true := by
      intro report hmem
      simpa using (hsettled report hmem).resolve_right (h report hmem)
    rw [List.filter_eq_self.mpr hall]

/-- **What a summary says** of its cycle: its trace id, objective and decisions
always are right. -/
theorem Cycle.Closes.faithful_iff {m : Nat} {summary : GestaltSummary}
    (h : (after rt visits (start fresh request) m).Closes rt (visits m) summary) :
    (summary.traceId = fresh.traceId ∧ summary.objective = request.objective ∧
      summary.decisions = (after rt visits (start fresh request) (m + 1)).state.decisions) ∧
    (summary.Faithful fresh request
        (after rt visits (start fresh request) m).state.executionReports
        (after rt visits (start fresh request) (m + 1)).state.decisions ↔
      (visits m).answers 7 .uuid4 = fresh.cycleId ∧
      ∀ report ∈ (after rt visits (start fresh request) m).state.executionReports,
        report.status ≠ .failed) := by
  have hsound := sound_after rt fresh request visits m
  obtain ⟨⟨score, risk, producedAt, hsummary⟩, hdecisions⟩ := h.eq_closingSummary hsound.inRange
  have htrace : summary.traceId = fresh.traceId := by
    rw [hsummary]
    exact hsound.same.traceId
  have hobjective : summary.objective = request.objective := by
    rw [hsummary]
    exact hsound.same.objective
  have hmade : summary.decisions =
      (after rt visits (start fresh request) (m + 1)).state.decisions := by
    rw [after, hdecisions, hsummary]
    rfl
  have hcycle : summary.cycleId = (visits m).answers 7 .uuid4 := by
    rw [hsummary]
    rfl
  have hactions : summary.completedActions =
      (after rt visits (start fresh request) m).state.executionReports.map
        fun report => report.summary.val := by
    rw [hsummary]
    rfl
  refine ⟨⟨htrace, hobjective, hmade⟩, ?_⟩
  rw [← completedActions_eq_iff (settled_after m)]
  constructor
  · intro hfaithful
    exact ⟨hcycle.symm.trans hfaithful.cycleId, hactions.symm.trans hfaithful.completedActions⟩
  · intro hcondition
    obtain ⟨hdrawn, hall⟩ := hcondition
    exact ⟨htrace, hcycle.trans hdrawn, hobjective, hmade, hactions.trans hall⟩

/-- **Which summaries are faithful.**  A summary of a cycle was written by one
visit to the orchestrator, after which the cycle stays as it is.  It has the
trace id, the objective and the decisions of the cycle; and it is faithful
exactly if the identifier drawn for it is the cycle id and no invocation before
it failed. -/
theorem Cycle.summary_faithful_iff (rt : Runtime) (fresh : Fresh) (request : CycleRequest)
    (visits : Nat → Visit) (n : Nat) {summary : GestaltSummary}
    (h : (after rt visits (start fresh request) n).state.latestSummary = some summary) :
    let c := after rt visits (start fresh request)
    ∃ m, m < n ∧ (c m).Closes rt (visits m) summary ∧
      (summary.traceId = fresh.traceId ∧ summary.objective = request.objective ∧
        summary.decisions = (c n).state.decisions) ∧
      (summary.Faithful fresh request (c m).state.executionReports (c n).state.decisions ↔
        (visits m).answers 7 .uuid4 = fresh.cycleId ∧
        ∀ report ∈ (c m).state.executionReports, report.status ≠ .failed) := by
  intro c
  obtain ⟨m, hm, hcloses, hstate⟩ := exists_closes h
  rw [hstate]
  exact ⟨m, hm, hcloses, hcloses.faithful_iff⟩

/-- The visit closes the cycle with a summary that is not faithful. -/
def Cycle.Misreports (rt : Runtime) (fresh : Fresh) (request : CycleRequest)
    (visits : Nat → Visit) (n : Nat) : Prop :=
  ∃ summary, (after rt visits (start fresh request) n).Closes rt (visits n) summary ∧
    ¬ summary.Faithful fresh request
      (after rt visits (start fresh request) n).state.executionReports
      (after rt visits (start fresh request) (n + 1)).state.decisions

/-- A calm last turn misreports where an identifier other than the cycle id is
drawn or something failed. -/
theorem AtOrchestrator.misreports {n : Nat} {done : List Specialist}
    (h : AtOrchestrator rt done [] (Cycle.after rt visits (Cycle.start fresh request) n))
    (haligned : blank request.objective.val = false)
    (hover : (Cycle.after rt visits (Cycle.start fresh request) n).HandsOver (visits n))
    (hcalm : ∀ ev ∈ ((Cycle.after rt visits (Cycle.start fresh request) n).agentRun rt (visits n)
      .orchestrator).trace, Calm ev)
    (hcondition : ¬ ((visits n).answers 7 .uuid4 = fresh.cycleId ∧
      ∀ report ∈ (Cycle.after rt visits (Cycle.start fresh request) n).state.executionReports,
        report.status ≠ .failed)) :
    Cycle.Misreports rt fresh request visits n := by
  have hsound := Cycle.sound_after rt fresh request visits n
  obtain ⟨summary, hsummary, -⟩ :=
    ((h.step hsound.inRange (hsound.aligned haligned) hover hcalm).1 rfl).summary
  have hcloses : (Cycle.after rt visits (Cycle.start fresh request) n).Closes rt (visits n)
      summary := ⟨h.cursor, h.summary, hsummary⟩
  exact ⟨summary, hcloses, mt hcloses.faithful_iff.2.mp hcondition⟩

/-- On the day of the outage the first specialist of the plan fails, and its
failure has no text. -/
theorem Reference.atOrchestrator_outage (rt : Runtime)
    (haligned : blank request.objective.val = false) {a : Specialist} {todo : List Specialist}
    (hplan : Orchestrator.plan? rt (buildGraphState fresh request) = some (a :: todo)) :
    AtOrchestrator rt [a] todo (Cycle.after rt outage (Cycle.start fresh request) 2) ∧
      (Cycle.after rt outage (Cycle.start fresh request) 2).state.metadata.get? "last_error" =
        some (.str "") ∧
      ∃ report ∈ (Cycle.after rt outage (Cycle.start fresh request) 2).state.executionReports,
        report.status = .failed := by
  have hsound := Cycle.sound_after rt fresh request outage
  have hover : ∀ n, (Cycle.after rt outage (Cycle.start fresh request) n).HandsOver (outage n) :=
    handsOver_of_still still_outage
  have hfirst : AtOrchestrator rt [] (a :: todo)
      (Cycle.after rt outage (Cycle.start fresh request) 0) := atOrchestrator_start hplan
  have hsecond : AtSpecialist [] a todo (Cycle.after rt outage (Cycle.start fresh request) 1) :=
    (hfirst.step (hsound 0).inRange ((hsound 0).aligned haligned) (hover 0)
      (calm_outage rt _ _ (by decide))).2 a todo rfl
  refine ⟨hsecond.step (hsound 1).inRange (hover 1) (clockSane_outage rt _ _), ?_⟩
  obtain ⟨out, hrun, report, hreport, hout⟩ :
      ∃ out, ((Cycle.after rt outage (Cycle.start fresh request) 1).agentRun rt (outage 1)
        a.agent).result = .ok out ∧ FailedWith rt a.agent (.external "") _ out :=
    failedWith_of_unavailable (fun _ => rfl) (clockSane_outage rt _ _)
  have hstep : Cycle.after rt outage (Cycle.start fresh request) 2 = _ :=
    Cycle.step_of_ok hsecond.cursor (hsound 1).inRange (hover 1) hrun
  rw [hstep, hout]
  exact ⟨Table.get?_set_self _ _ _, report, by simp [applyStateUpdate], hreport.status_eq⟩

end Runs

/-- A calm cycle for the monitor. -/
theorem Cycle.summary_faithful_iff_calm :
    ∃ summary m, m < 3 ∧
      (after Reference.runtime Reference.calm
        (start Reference.fresh Reference.monitorRequest) m).Closes Reference.runtime
          (Reference.calm m) summary ∧
      summary.traceId = Reference.fresh.traceId ∧
      summary.objective = Reference.monitorRequest.objective := by
  have hfinished : Finished [.monitor] (after Reference.runtime Reference.calm
      (start Reference.fresh Reference.monitorRequest) 3) :=
    finished_of_undisturbed (by decide) (by decide) Reference.undisturbed_calm
  obtain ⟨summary, hsummary, -⟩ := hfinished.summary
  obtain ⟨m, hm, hcloses, ⟨htrace, hobjective, -⟩, -⟩ := summary_faithful_iff Reference.runtime
    Reference.fresh Reference.monitorRequest Reference.calm 3 hsummary
  exact ⟨summary, m, hm, hcloses, htrace, hobjective⟩

/-- Even on a calm day the summary names another cycle; and after an outage it
presents the failed step as completed, even under the right identifier. -/
theorem Cycle.summary_misreports :
    Misreports Reference.runtime Reference.fresh Reference.monitorRequest Reference.calm 2 ∧
    Misreports Reference.runtime { Reference.fresh with cycleId := 0 } Reference.monitorRequest
      Reference.outage 2 := by
  have haligned : blank Reference.monitorRequest.objective.val = false := by decide
  have hplan : ∀ fresh, Orchestrator.plan? Reference.runtime
      (buildGraphState fresh Reference.monitorRequest) = some [.monitor] := fun _ => rfl
  constructor
  · have hat : AtOrchestrator Reference.runtime [.monitor] []
        (after Reference.runtime Reference.calm
          (start Reference.fresh Reference.monitorRequest) 2) := by
      have hsound := sound_after Reference.runtime Reference.fresh Reference.monitorRequest
        Reference.calm
      have hfirst : AtOrchestrator Reference.runtime [] [.monitor]
          (after Reference.runtime Reference.calm
            (start Reference.fresh Reference.monitorRequest) 0) :=
        atOrchestrator_start (hplan Reference.fresh)
      exact ((hfirst.step (hsound 0).inRange haligned (Reference.handsOver_calm 0 0)
        (Reference.calm_visit _ _ _)).2 .monitor [] rfl).step (hsound 1).inRange
          (Reference.handsOver_calm 1 1) (Reference.clockSane_visit _ _ _ _)
    exact hat.misreports haligned (Reference.handsOver_calm 2 2) (Reference.calm_visit _ _ _)
      fun h => absurd h.1 (by decide)
  · obtain ⟨hat, -, report, hmem, hfailed⟩ := Reference.atOrchestrator_outage Reference.runtime
      haligned (hplan { Reference.fresh with cycleId := 0 })
    exact hat.misreports haligned
      (Reference.handsOver_of_still Reference.still_outage 2)
      (Reference.calm_outage _ _ _ (by decide)) fun h => h.2 report hmem hfailed

end Gestalt
