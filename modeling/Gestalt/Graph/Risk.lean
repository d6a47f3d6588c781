import Gestalt.Graph.Audit

/-!
# Gestalt.Graph.Risk

Where the risk score of a summary comes from.

The statistics hold the only risk score a summary takes over, and only the
monitor writes it.  The monitor counts the findings of the audit reports it
finds in the state; an audit report that comes after it leaves the score as it
is, whatever risk it reports itself.
-/

namespace Gestalt

open Effects Program

/-! ## the score of the monitor -/

/-- The risk score the monitor derives: ten points for each finding, sixty at
most, and one for each percent of failures, twenty at most. -/
def Monitor.riskScore (findings : Nat) (errorRate : Rat) : Int :=
  max 0 (min 100 (min ((findings : Int) * 10) 60 + min (truncate (errorRate * 100)) 20))

/-- The findings of the audit reports the state holds. -/
def GestaltGraphState.openFindings (s : GestaltGraphState) : Nat :=
  (s.auditReports.map fun report => report.findings.length).sum

/-- A ratio has no negative percentage. -/
theorem truncate_percent_nonneg (errorRate : Ratio) : 0 ≤ truncate (errorRate.val * 100) := by
  have hnonneg : 0 ≤ errorRate.val * 100 := Rat.mul_nonneg errorRate.nonneg (by decide)
  exact Int.tdiv_nonneg (Rat.num_nonneg.mpr hnonneg) (Int.natCast_nonneg _)

/-- Findings are never talked down by telemetry. -/
theorem Monitor.findings_le_riskScore (findings : Nat) (errorRate : Ratio) :
    min 60 (10 * (findings : Int)) ≤ riskScore findings errorRate.val := by
  have hpercent := truncate_percent_nonneg errorRate
  unfold riskScore
  omega

theorem Monitor.Observed.risk {allows : Event Services → Prop} {rt : Runtime}
    {s : GestaltGraphState} {snapshot : MonitorSnapshot} {stats : GestaltStats}
    (h : Observed allows rt s snapshot stats) :
    ∃ errorRate : Ratio, Sampled allows "error_ratio" errorRate.val ∧
      stats.securityRiskScore = riskScore s.openFindings errorRate.val := by
  obtain ⟨⟨queue, latency, errorRatio, -, -, hsampled, hsnapshot⟩, updatedAt, rfl⟩ := h
  unfold Monitor.snapshot at hsnapshot
  obtain ⟨errorRate, hvalid, hsnapshot⟩ := Codec.exists_of_bind_eq_ok hsnapshot
  obtain rfl := Except.ok.inj hsnapshot
  have hvalue : errorRate.val = errorRatio := Ratio.val_of_check? (eq_some_of_validate hvalid)
  refine ⟨errorRate, by rwa [hvalue], ?_⟩
  -- the monitor takes the blackboard to be consistent
  have hconsistent : truncate 20 = 20 := by decide +kernel
  simp [GestaltStats.applyMonitorSnapshot, GestaltStats.refreshCohesion,
    GestaltStats.refreshSecurityRisk, GestaltStats.refreshCostEfficiency, riskScore,
    GestaltGraphState.openFindings, hconsistent]

/-! ## steps -/

/-- Only the monitor brings a stats report. -/
theorem Emits.statsReport_eq_none {allows : Event Services → Prop} {rt : Runtime}
    {s : GestaltGraphState} {objective : MinStr 3} {node : AgentName} {art : AgentArtifacts}
    (h : Emits allows rt s objective node art) (hnode : node ≠ .monitor) :
    art.statsReport = none := by
  cases h with
  | monitor _ _ _ _ _ _ => contradiction
  | analyzer _ _ _ statsReport => exact statsReport
  | plannerExecutor _ _ _ statsReport => exact statsReport
  | optimizer _ _ _ _ statsReport => exact statsReport
  | knowledge _ statsReport => exact statsReport
  | securityAudit _ _ _ _ _ _ _ statsReport => exact statsReport

/-- Merging a stats report takes over its risk score. -/
theorem risk_applyStatsReport (stats : GestaltStats) (report : GestaltStatsReport) :
    (applyStatsReport stats report).securityRiskScore = report.securityRiskScore.val := by
  have hfold : ∀ (snapshots : List AgentHealthSnapshot) (stats : GestaltStats),
      (snapshots.foldl (fun stats snapshot =>
        stats.setAgentHealth snapshot.agentName.val snapshot.status) stats).securityRiskScore =
          stats.securityRiskScore := by
    intro snapshots
    induction snapshots with
    | nil => exact fun _ => rfl
    | cons snapshot snapshots ih => exact fun stats => ih _
  exact hfold _ _

/-- **Statistics change** with a completed visit to the monitor, and otherwise
not at all. -/
theorem VisitEffect.risk {allows : Event Services → Prop} {rt : Runtime}
    {s out : GestaltGraphState} {node : AgentName} (h : VisitEffect allows rt s node out) :
    (node = .monitor ∧
      (∃ report, out.executionReports = s.executionReports ++ [report] ∧
        report.status = .completed) ∧
      ∃ errorRate : Ratio, out.stats.securityRiskScore =
        Monitor.riskScore s.openFindings errorRate.val) ∨
    (out.stats = s.stats ∧ (node = .monitor → ∃ report,
      out.executionReports = s.executionReports ++ [report] ∧ report.status = .failed)) := by
  cases h with
  | @completed node art out specialist _ _ emitted update =>
      obtain ⟨messages, report, -, hreport, rfl⟩ := update
      by_cases hnode : node = .monitor
      · subst hnode
        cases emitted with
        | monitor observed _ _ _ statsReport risk =>
            obtain ⟨errorRate, -, hrisk⟩ := observed.risk
            refine Or.inl ⟨rfl, ⟨report, rfl, hreport.status_eq⟩, errorRate, ?_⟩
            simp [applyStateUpdate, statsReport, risk_applyStatsReport, risk, hrisk]
      · right
        have hnone := emitted.statsReport_eq_none hnode
        exact ⟨by simp [applyStateUpdate, hnone], fun h => absurd h hnode⟩
  | failed _ update =>
      obtain ⟨e, report, hreport, rfl⟩ := update
      exact Or.inr ⟨rfl, fun _ => ⟨report, rfl, hreport.status_eq⟩⟩
  | routed _ routing _ _ update =>
      obtain ⟨messages, report, -, -, rfl⟩ := update
      refine Or.inr ⟨?_, fun h => by cases h⟩
      cases routing with
      | dispatch _ _ dispatches =>
          simp [applyStateUpdate, dispatches.stats, GestaltGraphState.withApproval]
      | finalize _ finalizes => simp [applyStateUpdate, finalizes.stats]
  | routeFailed left _ _ update =>
      obtain ⟨e, report, -, rfl⟩ := update
      refine Or.inr ⟨?_, fun h => by cases h⟩
      rcases left with rfl | ⟨approval, -, rfl⟩ <;> rfl

/-- The step is a visit to the monitor that completes. -/
def Cycle.MonitorCompletes (rt : Runtime) (v : Visit) (c : Cycle) : Prop :=
  c.cursor = .at .monitor ∧ ∃ report,
    (c.step rt v).state.executionReports = c.state.executionReports ++ [report] ∧
    report.status = .completed

/-- One step, seen by the statistics. -/
theorem Cycle.risk_step (rt : Runtime) (v : Visit) {c : Cycle} (hrange : c.state.stats.InRange) :
    (c.MonitorCompletes rt v ∧ ∃ errorRate : Ratio,
      (c.step rt v).state.stats.securityRiskScore =
        Monitor.riskScore c.state.openFindings errorRate.val) ∨
    (¬ c.MonitorCompletes rt v ∧ (c.step rt v).state.stats = c.state.stats) := by
  obtain hkept | ⟨node, hcursor, -, hrun⟩ := (moves hrange rt v).state_cases
  · -- without a report there is no completed visit
    refine Or.inr ⟨fun hcompletes => ?_, by rw [hkept]⟩
    obtain ⟨-, report, hreports, -⟩ := hcompletes
    simp [hkept] at hreports
  · obtain ⟨rfl, hreport, hrisk⟩ | ⟨hkept, hfailed⟩ := (visitEffect_of_ok hrun).1.risk
    · exact Or.inl ⟨⟨hcursor, hreport⟩, hrisk⟩
    · refine Or.inr ⟨fun hcompletes => ?_, hkept⟩
      obtain ⟨hat, report, hreports, hcompleted⟩ := hcompletes
      obtain ⟨report', hreports', hfailed⟩ := hfailed (Cursor.at.inj (hcursor.symm.trans hat))
      obtain rfl : report' = report := by simpa [hreports'] using hreports
      rw [hfailed] at hcompleted
      contradiction

/-! ## runs -/

section Runs

variable {rt : Runtime} {fresh : Fresh} {request : CycleRequest} {visits : Nat → Visit}

/-- **The score of a run** is that of the last completed visit to the monitor,
and zero before the first. -/
theorem Cycle.risk_after (n : Nat) :
    ((∀ m, m < n → ¬ (after rt visits (start fresh request) m).MonitorCompletes rt (visits m)) ∧
      (after rt visits (start fresh request) n).state.stats.securityRiskScore = 0) ∨
    ∃ m, m < n ∧ (after rt visits (start fresh request) m).MonitorCompletes rt (visits m) ∧
      (∀ k, m < k → k < n →
        ¬ (after rt visits (start fresh request) k).MonitorCompletes rt (visits k)) ∧
      ∃ errorRate : Ratio,
        (after rt visits (start fresh request) n).state.stats.securityRiskScore =
          Monitor.riskScore (after rt visits (start fresh request) m).state.openFindings
            errorRate.val := by
  induction n with
  | zero => exact Or.inl ⟨fun m hm => absurd hm (Nat.not_lt_zero m), rfl⟩
  | succ n ih =>
      obtain ⟨hcompletes, hrisk⟩ | ⟨hnot, hkept⟩ :=
        risk_step rt (visits n) (sound_after rt fresh request visits n).inRange
      · exact Or.inr ⟨n, Nat.lt_succ_self n, hcompletes, fun k hn hk => by omega, hrisk⟩
      · have hrisk : (after rt visits (start fresh request) (n + 1)).state.stats.securityRiskScore =
            (after rt visits (start fresh request) n).state.stats.securityRiskScore := by
          rw [after, hkept]
        rw [hrisk]
        rcases ih with ⟨hnone, hzero⟩ | ⟨m, hm, hcompletes, hlast, hscore⟩
        · refine Or.inl ⟨fun m hm => ?_, hzero⟩
          rcases Nat.lt_succ_iff_lt_or_eq.mp hm with hm | rfl
          · exact hnone m hm
          · exact hnot
        · refine Or.inr ⟨m, Nat.lt_succ_of_lt hm, hcompletes, fun k hmk hk => ?_, hscore⟩
          rcases Nat.lt_succ_iff_lt_or_eq.mp hk with hk | rfl
          · exact hlast k hmk hk
          · exact hnot

/-- **Where the risk in a summary comes from.**  In every reachable state of
every cycle: a summary has the risk score of the statistics; a step of the
security audit leaves the statistics as they are; and audit reports reach the
score through the monitor, which has put at least ten points for each of their
findings, sixty at most, into it with its last completed visit.  Before the
first completed visit to the monitor the score is zero. -/
theorem Cycle.risk_reported (rt : Runtime) (fresh : Fresh) (request : CycleRequest)
    (visits : Nat → Visit) (n : Nat) :
    let c := after rt visits (start fresh request)
    (∀ summary, (c n).state.latestSummary = some summary →
      summary.securityRiskScore.val = (c n).state.stats.securityRiskScore) ∧
    ((c n).cursor = .at .securityAudit → (c (n + 1)).state.stats = (c n).state.stats) ∧
    (((∀ m, m < n → ¬ (c m).MonitorCompletes rt (visits m)) ∧
        (c n).state.stats.securityRiskScore = 0) ∨
      ∃ m, m < n ∧ (c m).MonitorCompletes rt (visits m) ∧
        (∀ k, m < k → k < n → ¬ (c k).MonitorCompletes rt (visits k)) ∧
        min 60 (10 * ((c m).state.openFindings : Int)) ≤ (c n).state.stats.securityRiskScore) := by
  intro c
  refine ⟨fun summary h => (summary_after n h).summary.risk, fun hcursor => ?_, ?_⟩
  · obtain ⟨hcompletes, -⟩ | ⟨-, hkept⟩ :=
      risk_step rt (visits n) (sound_after rt fresh request visits n).inRange
    · have hat := Cursor.at.inj (hcursor.symm.trans hcompletes.1)
      contradiction
    · exact hkept
  · refine (risk_after n).imp_right ?_
    intro h
    obtain ⟨m, hm, hcompletes, hlast, errorRate, hscore⟩ := h
    refine ⟨m, hm, hcompletes, hlast, ?_⟩
    rw [hscore]
    exact Monitor.findings_le_riskScore _ errorRate

end Runs

/-! ## audits of evidence -/

section Evidence

variable {rt : Runtime} {c : Cycle} {v : Visit}

/-- A turn of the orchestrator that completes keeps all but its own keys. -/
theorem Routing.get?_metadata {allows : Event Services → Prop} {s s' out : GestaltGraphState}
    {art : AgentArtifacts} (h : Routing allows rt s art s')
    (hout : CompletedAs .orchestrator s' art out) {key : String}
    (hkey : key ∉ ["current_node", "pending_agents", "next_node"]) :
    out.metadata.get? key = s.metadata.get? key := by
  simp only [List.mem_cons, List.not_mem_nil, or_false, not_or] at hkey
  obtain ⟨hcurrent, hpending, hnext⟩ := hkey
  obtain ⟨messages, report, -, -, rfl⟩ := hout
  cases h with
  | dispatch _ _ dispatches =>
      simp [applyStateUpdate, dispatches.metadata, GestaltGraphState.withApproval,
        Ne.symm hcurrent, Ne.symm hpending, Ne.symm hnext]
  | finalize _ finalizes =>
      simp [applyStateUpdate, finalizes.metadata, Ne.symm hcurrent, Ne.symm hpending,
        Ne.symm hnext]

/-- The orchestrator reports no audit. -/
theorem Routing.auditReports {allows : Event Services → Prop} {s s' out : GestaltGraphState}
    {art : AgentArtifacts} (h : Routing allows rt s art s')
    (hout : CompletedAs .orchestrator s' art out) : out.auditReports = s.auditReports := by
  obtain ⟨messages, report, -, -, rfl⟩ := hout
  cases h with
  | dispatch _ _ dispatches =>
      simp [applyStateUpdate, dispatches.audit, GestaltGraphState.withApproval]
  | finalize _ finalizes => simp [applyStateUpdate, finalizes.audit]

/-- A calm dispatch leads to the head of the plan, and brings neither audit
reports nor keys but its own. -/
theorem AtOrchestrator.dispatched {done todo : List Specialist} {a : Specialist}
    (h : AtOrchestrator rt done (a :: todo) c) (hrange : c.state.stats.InRange)
    (haligned : blank c.state.objective.val = false) (hover : c.HandsOver v)
    (hcalm : ∀ ev ∈ (c.agentRun rt v .orchestrator).trace, Calm ev) :
    AtSpecialist done a todo (c.step rt v) ∧
      (c.step rt v).state.auditReports = c.state.auditReports ∧
      ∀ key, key ∉ ["current_node", "pending_agents", "next_node"] →
        (c.step rt v).state.metadata.get? key = c.state.metadata.get? key := by
  obtain ⟨out, hrun, art, s', hrouting, hout⟩ :=
    (spec_run_orchestrator_calm (fun _ h => h) haligned h.plan hrange).exists_ok hcalm
  rw [Cycle.step_of_ok h.cursor hrange hover hrun]
  exact ⟨(h.routed hrouting hout).2 a todo rfl, hrouting.auditReports hout,
    fun key hkey => hrouting.get?_metadata hout hkey⟩

/-- Under the mock gateway an undisturbed audit after a failure reports a risk
of at least twenty, and leaves a command for the orchestrator. -/
theorem Cycle.audit_of_lastError (h : c.Undisturbed rt v) (hrange : c.state.stats.InRange)
    (hcursor : c.cursor = .at .securityAudit) (haligned : blank c.state.objective.val = false)
    (htools : rt.AllowsAudit) (hmocks : rt.mocks .securityAudit c.state.stats = true)
    {lastError : String} (hnonempty : lastError ≠ "")
    (herror : c.state.metadata.get? "last_error" = some (.str lastError))
    (hnone : c.state.auditReports = []) :
    (∃ report ∈ (c.step rt v).state.auditReports, 20 ≤ report.overallRiskScore.val) ∧
      ∃ command ∈ (c.step rt v).state.commands,
        command.targetAgent = AgentName.orchestrator.field := by
  obtain ⟨out, hrun, -, hstep⟩ := step_of_undisturbed h hrange hcursor
  rw [hstep]
  have hreported : out.auditReports ≠ [] :=
    reports_of_calm haligned htools (h.calm _ hcursor) hrun
  cases (visitEffect_of_ok hrun).1 with
  | failed _ update =>
      obtain ⟨e, report, -, rfl⟩ := update
      exact absurd (by simp [applyStateUpdate, failureArtifacts, hnone]) hreported
  | completed _ _ _ emitted update =>
      obtain ⟨messages, execution, -, -, rfl⟩ := update
      cases emitted with
      | @securityAudit errorRatio mock reply report _ _ replied assessed auditReport found risk
          remediates _ =>
          have hfound : 1 ≤ SecurityAudit.findingCount rt c.state errorRatio := by
            simp only [SecurityAudit.findingCount, herror, Option.bind_some, Value.asStr?,
              Option.getD_some, hnonempty, ne_eq, not_false_eq_true, if_true]
            omega
          constructor
          · refine ⟨report, by simp [applyStateUpdate, auditReport], ?_⟩
            obtain ⟨-, hmock⟩ | ⟨hmocks', -⟩ := replied
            · rw [risk, ← Except.ok.inj hmock, assessed]
              simp only [SecurityAudit.overallRisk]
              omega
            · rw [hmocks] at hmocks'
              contradiction
          · have hsome : (!report.findings.isEmpty) = true := by
              rw [← found] at hfound
              cases hfindings : report.findings with
              | nil => simp [hfindings] at hfound
              | cons finding findings => rfl
            obtain ⟨command, hcommands, hcommand⟩ := remediates.exists_eq hsome
            exact ⟨command, by simp [applyStateUpdate, hcommands], hcommand.target_eq⟩

end Evidence

section AfterFailure

variable {rt : Runtime} {fresh : Fresh} {request : CycleRequest} {visits : Nat → Visit}

/-- Under the mock gateway an undisturbed cycle that is planned for the security
audit alone, and starts with the text of a failure, comes back from it with an
audit report of at least twenty and a command for the orchestrator. -/
theorem Cycle.audited_of_lastError
    (hundisturbed : ∀ n, (after rt visits (start fresh request) n).Undisturbed rt (visits n))
    (haligned : blank request.objective.val = false)
    (hplan : Orchestrator.plan? rt (buildGraphState fresh request) = some [.securityAudit])
    (htools : rt.AllowsAudit) (hmocks : rt.settings.models.enableMockLlm = true)
    {lastError : String} (hnonempty : lastError ≠ "")
    (herror : request.metadata.get? "last_error" = some (.str lastError)) :
    AtSpecialist [] .securityAudit [] (after rt visits (start fresh request) 1) ∧
    AtOrchestrator rt [.securityAudit] [] (after rt visits (start fresh request) 2) ∧
    (∃ report ∈ (after rt visits (start fresh request) 2).state.auditReports,
      20 ≤ report.overallRiskScore.val) ∧
    ∃ command ∈ (after rt visits (start fresh request) 2).state.commands,
      command.targetAgent = AgentName.orchestrator.field := by
  have hsound := sound_after rt fresh request visits
  have hfirst : AtOrchestrator rt [] [.securityAudit] (after rt visits (start fresh request) 0) :=
    atOrchestrator_start hplan
  -- the orchestrator dispatches the audit
  obtain ⟨hsecond, hreports, hkept⟩ := hfirst.dispatched (hsound 0).inRange
    ((hsound 0).aligned haligned) ((hundisturbed 0).handsOver _ rfl) ((hundisturbed 0).calm _ rfl)
  -- the audit finds the failure
  obtain ⟨hreport, hcommand⟩ := audit_of_lastError (hundisturbed 1) (hsound 1).inRange
    hsecond.cursor ((hsound 1).aligned haligned) htools
    (by simp [Runtime.mocks, ModelsConfig.mocks, hmocks]) hnonempty
    ((hkept _ (by decide)).trans herror) hreports
  have hthird := hsecond.step (hsound 1).inRange ((hundisturbed 1).handsOver _ hsecond.cursor)
    ((hundisturbed 1).orderly.clockSane _ hsecond.cursor)
  exact ⟨hsecond, hthird, hreport, hcommand⟩

/-- **An unreported risk.**  Such a cycle finalizes with an audit report of at
least twenty and a summary of zero. -/
theorem Cycle.unreported_of_lastError
    (hundisturbed : ∀ n, (after rt visits (start fresh request) n).Undisturbed rt (visits n))
    (haligned : blank request.objective.val = false)
    (hplan : Orchestrator.plan? rt (buildGraphState fresh request) = some [.securityAudit])
    (htools : rt.AllowsAudit) (hmocks : rt.settings.models.enableMockLlm = true)
    {lastError : String} (hnonempty : lastError ≠ "")
    (herror : request.metadata.get? "last_error" = some (.str lastError)) :
    ∃ summary report,
      (after rt visits (start fresh request) 3).state.latestSummary = some summary ∧
      report ∈ (after rt visits (start fresh request) 3).state.auditReports ∧
      summary.securityRiskScore.val = 0 ∧ 20 ≤ report.overallRiskScore.val := by
  obtain ⟨hsecond, hthird, ⟨report, hreport, hrisk⟩, -⟩ :=
    audited_of_lastError hundisturbed haligned hplan htools hmocks hnonempty herror
  have hfinished : Finished [.securityAudit] (after rt visits (start fresh request) 3) :=
    finished_of_undisturbed haligned hplan hundisturbed
  obtain ⟨summary, hsummary, -⟩ := hfinished.summary
  have hkept := (appendsTo_step (sound_after rt fresh request visits 2).inRange rt
    (visits 2)).auditReports
  refine ⟨summary, report, hsummary, hkept.subset hreport, ?_, hrisk⟩
  rw [(summary_after 3 hsummary).summary.risk]
  obtain ⟨-, hzero⟩ | ⟨m, hm, ⟨hmonitor, -⟩, -⟩ := risk_after 3
  · exact hzero
  · match m, hm with
    | 0, _ => exact absurd (Cursor.at.inj hmonitor) (by decide)
    | 1, _ => exact absurd (Cursor.at.inj (hsecond.cursor.symm.trans hmonitor)) (by decide)
    | 2, _ => exact absurd (Cursor.at.inj (hthird.cursor.symm.trans hmonitor)) (by decide)

end AfterFailure

/-- A trigger after an agent failed. -/
def Reference.afterFailure : TriggerAuditRequest :=
  { metadata := [("last_error", .str "boom")] }

/-- On a calm day the audit after a failure reports a risk that the summary does
not have. -/
theorem Cycle.risk_unreported :
    ∃ summary report,
      (after Reference.runtime Reference.calm
        (start Reference.fresh (triggerAudit Reference.afterFailure)) 3).state.latestSummary =
          some summary ∧
      report ∈ (after Reference.runtime Reference.calm
        (start Reference.fresh (triggerAudit Reference.afterFailure)) 3).state.auditReports ∧
      ¬ report.overallRiskScore.val ≤ summary.securityRiskScore.val := by
  have hundisturbed : ∀ n, (after Reference.runtime Reference.calm
      (start Reference.fresh (triggerAudit Reference.afterFailure)) n).Undisturbed
        Reference.runtime (Reference.calm n) := Reference.undisturbed_calm
  obtain ⟨summary, report, hsummary, hreport, hzero, hrisk⟩ :=
    unreported_of_lastError hundisturbed
      (aligned_triggerAudit Reference.afterFailure)
      ((plan?_triggerAudit Reference.runtime Reference.fresh Reference.afterFailure).trans
        (by decide)) (by decide) rfl (by decide : "boom" ≠ "") rfl
  exact ⟨summary, report, hsummary, hreport, by omega⟩

end Gestalt
