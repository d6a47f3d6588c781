import Gestalt.Graph.Failures
import Gestalt.Graph.Reference
import Gestalt.Library.Register

/-!
# Gestalt.Graph.Repetition

Audits of the state that an audit returned.

An audit leaves a report in the state, and the next one finds it there: from then
on there is a finding about the history of audits.  It is purely informational, but
the risk and the remediation are made from the number of findings.
-/

namespace Gestalt

open Effects Program

namespace SecurityAudit

/-! ## findings -/

/-- The findings that are not purely informational. -/
def serious (findings : List AuditFinding) : List AuditFinding :=
  findings.filter fun finding => finding.severity ≠ .info

/-- How many findings are about something that went wrong. -/
def seriousCount (rt : Runtime) (s : GestaltGraphState) (errorRatio : Rat) : Nat :=
  (if lastError s ≠ "" then 1 else 0) +
  (if errorRatio ≥ rt.settings.stats.errorRateThresholds.critical then 1 else 0)

theorem seriousCount_le (rt : Runtime) (s : GestaltGraphState) (errorRatio : Rat) :
    seriousCount rt s errorRatio ≤ 2 := by
  unfold seriousCount
  split <;> split <;> omega

/-- How many findings there are about earlier audits. -/
def historyCount (earlier : List GestaltAuditReport) : Nat :=
  if earlier.isEmpty then 0 else 1

theorem historyCount_of_nil : historyCount [] = 0 := rfl

theorem historyCount_of_ne_nil {earlier : List GestaltAuditReport} (h : earlier ≠ []) :
    historyCount earlier = 1 := by
  rw [historyCount, if_neg (by simp [h])]

/-- What an audit in mock mode makes of `grave` serious findings and of the earlier
audits, where the statistics have the score. -/
structure Finds (score : Int) (grave : Nat) (earlier : List GestaltAuditReport)
    (report : GestaltAuditReport) : Prop where
  serious : (serious report.findings).length = grave
  length : report.findings.length = grave + historyCount earlier
  risk : report.overallRiskScore = overallRisk score report.findings.length
  remediates : report.remediationCommands = [] ↔ report.findings = []

section Findings

variable {allows emits : Event Services → Prop} [Permissive emits] {mayRaise : Prop}
variable {rt : Runtime} {s : GestaltGraphState} {errorRatio : Rat}

/-- The evidence decides how many findings of each kind there are. -/
theorem steady_serious :
    Steady allows emits mayRaise s (auditFindings rt s errorRatio)
      fun findings => (serious findings).length = seriousCount rt s errorRatio ∧
        findings.length = seriousCount rt s errorRatio + historyCount s.auditReports := by
  refine steady_gathered.mono fun findings h => ?_
  obtain ⟨failures, errors, history, rfl, hgathered⟩ := h
  have hgrave : (failures ++ errors).length = seriousCount rt s errorRatio := by
    rw [List.length_append, hgathered.failures.length_eq, hgathered.errors.length_eq,
      seriousCount, lastError]
    simp
  have hprior : history.length = historyCount s.auditReports := by
    rw [hgathered.history.length_eq, historyCount]
    simp
  have hserious : ∀ finding ∈ failures ++ errors, finding.severity ≠ .info := by
    intro finding hmem
    rcases List.mem_append.mp hmem with hmem | hmem
    · obtain ⟨_, _, rfl⟩ := hgathered.failures.ok_of_mem finding hmem
      simp [failureFinding]
    · obtain ⟨_, rfl⟩ := hgathered.errors.ok_of_mem finding hmem
      simp [errorRatioFinding]
  have hinfo : ∀ finding ∈ history, finding.severity = .info := by
    intro finding hmem
    obtain ⟨_, rfl⟩ := hgathered.history.ok_of_mem finding hmem
    rfl
  constructor
  · rw [serious, List.filter_append, List.filter_eq_self.mpr (by simpa using hserious),
      List.filter_eq_nil_iff.mpr (by simpa using hinfo), List.append_nil, hgrave]
  · rw [List.length_append, hgrave, hprior]

/-- The artifacts of an audit in mock mode. -/
theorem steady_finds {context : AgentContextEnvelope}
    (hmocks : rt.mocks .securityAudit s.stats = true) :
    Steady allows emits True s (produceArtifacts rt context)
      fun art => ∃ report errorRatio, art.auditReport = some report ∧
        art.commands = report.remediationCommands ∧ art.statsReport = none ∧
        art.metadataUpdates = [] ∧ Sampled allows "error_ratio" errorRatio ∧
        Finds s.stats.securityRiskScore (seriousCount rt s errorRatio) s.auditReports report := by
  have hcovers := covers_true allows
  refine steady_read_bind ?_
  refine steady_bind (steady_queryBlackboard hcovers fun _ => trivial) fun result _ => ?_
  refine steady_bind (steady_inspectRedisStream hcovers fun _ => trivial) fun entries _ => ?_
  refine steady_bind (steady_queryPrometheus hcovers fun _ => trivial)
    fun errorRatio hsampled => ?_
  refine steady_bind steady_serious fun findings hfindings => ?_
  refine steady_bind (steady_completeStructured hcovers.completions (by simp))
    fun reasoning hreasoning => ?_
  refine steady_bind (steady_appendIf steady_newCommand) fun commands hcommands => ?_
  refine steady_bind steady_uuid4 fun reportId _ => ?_
  refine steady_bind (steady_utcNow _) fun reportedAt _ => ?_
  refine steady_bind steady_newMemory fun memory _ => ?_
  refine steady_pure ⟨_, errorRatio, rfl, rfl, rfl, rfl, hsampled.1, hfindings.1, hfindings.2,
    ?_, ?_⟩
  · -- the reasoning is the payload
    obtain ⟨-, hmock⟩ | ⟨hprovider, -⟩ := hreasoning
    · rw [← Except.ok.inj hmock]
    · rw [hmocks] at hprovider
      contradiction
  · rw [← List.length_eq_zero_iff, hcommands.length_eq]
    cases findings <;> simp

end Findings

/-! ## repetitions -/

/-- Where Prometheus answers, it answers with the telemetry. -/
def Shows (telemetry : String → Rat) (w : Surroundings Services) : Prop :=
  ∀ n query value, w n (.call (.prometheusQuery query)) = .ok value →
    value = telemetry query.val

/-- A successful invocation of the agent with the state `s` returns `out`, which has
the report. -/
structure Audited (rt : Runtime) (telemetry : String → Rat) (s out : GestaltGraphState)
    (report : GestaltAuditReport) : Prop where
  invoked : ∃ w execution, Shows telemetry w ∧
    ((run rt (agentAt rt .securityAudit)).run w s).result = .ok out ∧
    out.executionReports.getLast? = some execution ∧ execution.status = .completed
  reported : out.auditReports = s.auditReports ++ [report]

/-- Successful invocations in a row under the same telemetry, the first one with the
state `s` and every other one with the state that the one before returned. -/
inductive Repeated (rt : Runtime) (telemetry : String → Rat) (s : GestaltGraphState) :
    List GestaltAuditReport → GestaltGraphState → Prop where
  | nil : Repeated rt telemetry s [] s
  | snoc {reports : List GestaltAuditReport} {out next : GestaltGraphState}
      {report : GestaltAuditReport} (before : Repeated rt telemetry s reports out)
      (audit : Audited rt telemetry out next report) :
      Repeated rt telemetry s (reports ++ [report]) next

section Repetitions

variable {rt : Runtime} {telemetry : String → Rat} {s out : GestaltGraphState}
variable {report : GestaltAuditReport} {reports : List GestaltAuditReport}

/-- One audit keeps the statistics and the marker, and adds the commands of its report. -/
theorem Audited.finds (h : Audited rt telemetry s out report)
    (hmocks : rt.mocks .securityAudit s.stats = true) :
    Finds s.stats.securityRiskScore (seriousCount rt s (telemetry "error_ratio"))
        s.auditReports report ∧
      out.stats = s.stats ∧ out.metadata = s.metadata ∧
      out.commands = s.commands ++ report.remediationCommands := by
  obtain ⟨w, execution, hshows, hrun, hlast, hcompleted⟩ := h.invoked
  obtain ⟨context, art, -, hart, messages, entry, -, -, rfl⟩ :=
    completedAs_of_bodyRun (bodyRun_of_completed hrun hlast hcompleted)
      fun _ _ => kept_of_produceArtifacts
  have hsteady : Steady
      (· ∈ ((produceArtifacts rt context).run (w.drop 6) s).trace) (fun _ => True) True s
      (produceArtifacts rt context) _ := steady_finds hmocks
  obtain ⟨-, report', errorRatio, hreport, hcommands, hstats, hupdates, hsampled, hfinds⟩ :=
    Spec.of_ok hsteady (fun _ hev => hev) hart
  obtain ⟨query, hquery, hmem⟩ := hsampled
  -- the sample is the telemetry
  obtain ⟨n, hn⟩ := answer_of_mem_trace _ _ _ _ hmem
  obtain rfl : errorRatio = telemetry "error_ratio" := by
    rw [← hquery]
    exact hshows _ query errorRatio (eq_of_heq (Event.mk.inj hn).2).symm
  obtain rfl : report' = report := by
    simpa [applyStateUpdate, hreport] using h.reported
  exact ⟨hfinds, by simp [applyStateUpdate, hstats],
    by simp [applyStateUpdate, hupdates], by simp [applyStateUpdate, hcommands]⟩

/-- Audits in a row keep the statistics and the marker, and each of them finds the
reports that those before it left. -/
theorem Repeated.finds (h : Repeated rt telemetry s reports out)
    (hmocks : rt.mocks .securityAudit s.stats = true) :
    out.stats = s.stats ∧ out.metadata = s.metadata ∧
      out.auditReports = s.auditReports ++ reports ∧
      out.commands = s.commands ++ reports.flatMap (·.remediationCommands) ∧
      ∀ before report after, reports = before ++ report :: after →
        Finds s.stats.securityRiskScore (seriousCount rt s (telemetry "error_ratio"))
          (s.auditReports ++ before) report := by
  induction h with
  | nil => exact ⟨rfl, rfl, by simp, by simp, by simp⟩
  | @snoc reports out next report before audit ih =>
      obtain ⟨hstats, hmetadata, hreports, hcommands, hfinds⟩ := ih
      obtain ⟨hlast, hstats', hmetadata', hcommands'⟩ := audit.finds (by rw [hstats, hmocks])
      have hserious : seriousCount rt out (telemetry "error_ratio") =
          seriousCount rt s (telemetry "error_ratio") := by
        rw [seriousCount, seriousCount, lastError, lastError, hmetadata]
      rw [hstats, hserious, hreports] at hlast
      refine ⟨by rw [hstats', hstats], by rw [hmetadata', hmetadata],
        by rw [audit.reported, hreports, List.append_assoc],
        by simp [hcommands', hcommands], fun earlier found after hsplit => ?_⟩
      obtain ⟨-, rfl, rfl⟩ | ⟨rest, -, hreports⟩ := Register.place_of_snoc hsplit
      · exact hlast
      · exact hfinds earlier found rest hreports

end Repetitions

/-! ## what a repetition is meant to keep -/

/-- Informational findings do not count towards the risk, and they alone demand no
remediation. -/
structure Fair (score : Int) (report : GestaltAuditReport) : Prop where
  unraised : report.overallRiskScore = overallRisk score (serious report.findings).length
  uncommanded : (∀ finding ∈ report.findings, finding.severity = .info) →
    report.remediationCommands = []

/-- The risk stays, and every report is fair. -/
structure Repeatable (s : GestaltGraphState) (reports : List GestaltAuditReport) : Prop where
  same : ∀ report ∈ reports, ∀ report' ∈ reports,
    report.overallRiskScore = report'.overallRiskScore
  fair : ∀ report ∈ reports, Fair s.stats.securityRiskScore report

/-- Some audit in a row finds an earlier one. -/
def FindsEarlier (s : GestaltGraphState) (reports : List GestaltAuditReport) : Prop :=
  s.auditReports ≠ [] ∧ reports ≠ [] ∨ 2 ≤ reports.length

/-- Something went wrong, and the score of the statistics outweighs one finding more. -/
def Outweighs (score : Int) (grave : Nat) : Prop :=
  1 ≤ grave ∧ 20 * ((grave : Int) + 1) ≤ score

section Laws

variable {rt : Runtime} {telemetry : String → Rat} {s out : GestaltGraphState}
variable {report : GestaltAuditReport} {reports earlier : List GestaltAuditReport}
variable {score : Int} {grave : Nat}

/-- One finding more leaves the risk exactly if the score outweighs it. -/
theorem overallRisk_succ_eq_iff (hgrave : grave ≤ 2) :
    overallRisk score (grave + 1) = overallRisk score grave ↔
      20 * ((grave : Int) + 1) ≤ score := by
  simp only [overallRisk, Score.mk.injEq]
  omega

theorem serious_eq_nil_iff (findings : List AuditFinding) :
    serious findings = [] ↔ ∀ finding ∈ findings, finding.severity = .info := by
  simp [serious]

/-- A report is fair exactly if there was no earlier one, or the score outweighs the
finding about it. -/
theorem Finds.fair_iff (h : Finds score grave earlier report) (hgrave : grave ≤ 2) :
    Fair score report ↔ (earlier ≠ [] → Outweighs score grave) := by
  have hfair : Fair score report ↔
      overallRisk score (grave + historyCount earlier) = overallRisk score grave ∧
        (grave = 0 → grave + historyCount earlier = 0) := by
    have hinfo : (∀ finding ∈ report.findings, finding.severity = .info) ↔ grave = 0 := by
      rw [← serious_eq_nil_iff, ← List.length_eq_zero_iff, h.serious]
    have hnone : report.remediationCommands = [] ↔ grave + historyCount earlier = 0 := by
      rw [h.remediates, ← List.length_eq_zero_iff, h.length]
    rw [← hinfo, ← hnone, ← h.length, ← h.risk, ← h.serious]
    exact ⟨fun hfair => ⟨hfair.unraised, hfair.uncommanded⟩, fun hfair => ⟨hfair.1, hfair.2⟩⟩
  rw [hfair]
  by_cases hearlier : earlier = []
  · simp [hearlier, historyCount_of_nil]
  · rw [historyCount_of_ne_nil hearlier, overallRisk_succ_eq_iff hgrave, Outweighs]
    simp only [ne_eq, hearlier, not_false_eq_true, true_implies]
    omega

/-- What is asked of every audit that finds an earlier one is asked of them all. -/
theorem findsEarlier_iff {p : Prop} :
    (∀ before report after, reports = before ++ report :: after →
      s.auditReports ++ before ≠ [] → p) ↔ (FindsEarlier s reports → p) := by
  constructor
  · rintro h (⟨haudits, hreports⟩ | hlength)
    · obtain ⟨first, rest, rfl⟩ := List.exists_cons_of_ne_nil hreports
      exact h [] first rest rfl (by simpa using haudits)
    · match reports, hlength with
      | first :: second :: rest, _ => exact h [first] second rest rfl (by simp)
  · intro h before report after hsplit hearlier
    refine h ?_
    by_cases hbefore : before = []
    · exact Or.inl ⟨by simpa [hbefore] using hearlier, by simp [hsplit]⟩
    · have hpos := List.length_pos_iff.mpr hbefore
      refine Or.inr ?_
      rw [hsplit, List.length_append, List.length_cons]
      omega

end Laws

/-! ## calm repetitions -/

section Calm

variable {rt : Runtime} {s : GestaltGraphState}

/-- In a calm world an audit succeeds, where its tools are allowed and the objective is
not blank. -/
theorem exists_audited (haligned : blank s.objective.val = false) (htools : rt.AllowsAudit) :
    ∃ out report, Audited rt Reference.prometheusValue s out report ∧
      out.objective = s.objective := by
  have hspec : Spec Calm (fun _ => True) s (run rt (agentAt rt .securityAudit)) _ _ :=
    spec_run_audit_completed (fun _ h => h.answered) (fun _ h => h.clockSane) haligned htools
  obtain ⟨out, hrun, art, ⟨hart, -⟩, messages, execution, -, hexecution, rfl⟩ :=
    hspec.exists_ok (Reference.calm_visit rt ⟨.at .securityAudit, s, []⟩ .securityAudit)
  obtain ⟨report, hreport⟩ := Option.isSome_iff_exists.mp (hart.audit.mpr rfl)
  refine ⟨_, report, ⟨⟨_, execution, fun n query value hanswer => ?_, hrun, ?_, ?_⟩, ?_⟩, rfl⟩
  · exact (Except.ok.inj hanswer).symm
  · simp [applyStateUpdate]
  · exact hexecution.status_eq
  · simp [applyStateUpdate, hreport]

variable (rt s) in
/-- It can be repeated any number of times. -/
theorem exists_repeated (haligned : blank s.objective.val = false) (htools : rt.AllowsAudit)
    (n : Nat) : ∃ reports out, Repeated rt Reference.prometheusValue s reports out ∧
      reports.length = n ∧ out.objective = s.objective := by
  induction n with
  | zero => exact ⟨[], s, .nil, rfl, rfl⟩
  | succ n ih =>
      obtain ⟨reports, out, hruns, hlength, hobjective⟩ := ih
      obtain ⟨next, report, haudit, hkept⟩ :=
        exists_audited (by rw [hobjective, haligned]) htools
      exact ⟨reports ++ [report], next, .snoc hruns haudit, by simp [hlength],
        hkept.trans hobjective⟩

end Calm

/-- **When an audit can be repeated.**  For every state and telemetry, and any number
of successful audits in mock mode, each of the state the last one returned: the risk
stays and informational findings change nothing exactly when no audit finds an earlier
one, or something went wrong and the score outweighs one finding more. -/
theorem repeatable_iff {rt : Runtime} {telemetry : String → Rat} {s out : GestaltGraphState}
    {reports : List GestaltAuditReport} (hruns : Repeated rt telemetry s reports out)
    (hmocks : rt.mocks .securityAudit s.stats = true) :
    Repeatable s reports ↔ (FindsEarlier s reports →
      Outweighs s.stats.securityRiskScore (seriousCount rt s (telemetry "error_ratio"))) := by
  obtain ⟨-, -, -, -, hfinds⟩ := hruns.finds hmocks
  have hgrave := seriousCount_le rt s (telemetry "error_ratio")
  rw [← findsEarlier_iff]
  constructor
  · intro hrepeatable before report after hsplit
    have hmem : report ∈ reports := by simp [hsplit]
    exact ((hfinds before report after hsplit).fair_iff hgrave).mp (hrepeatable.fair report hmem)
  · intro hcondition
    have hserious : ∀ report ∈ reports, (serious report.findings).length =
        seriousCount rt s (telemetry "error_ratio") := by
      intro report hmem
      obtain ⟨before, after, hsplit⟩ := List.append_of_mem hmem
      exact (hfinds before report after hsplit).serious
    have hfair : ∀ report ∈ reports, Fair s.stats.securityRiskScore report := by
      intro report hmem
      obtain ⟨before, after, hsplit⟩ := List.append_of_mem hmem
      exact ((hfinds before report after hsplit).fair_iff hgrave).mpr
        (hcondition before report after hsplit)
    refine ⟨fun report hmem report' hmem' => ?_, hfair⟩
    rw [(hfair report hmem).unraised, (hfair report' hmem').unraised, hserious report hmem,
      hserious report' hmem']

end SecurityAudit

namespace Reference

/-- A state that an agent failed in, with a score of forty. -/
def troubled : GestaltGraphState :=
  { buildGraphState fresh watchRequest with
    stats := { securityRiskScore := 40, lastUpdated := 0 }
    metadata := [("last_error", .str "boom")] }

end Reference

namespace SecurityAudit

/-- Three audits of that state are repeatable. -/
theorem repeatable_iff_troubled :
    ∃ reports out, Repeated Reference.runtime Reference.prometheusValue Reference.troubled
      reports out ∧ reports.length = 3 ∧ Repeatable Reference.troubled reports := by
  obtain ⟨reports, out, hruns, hlength, -⟩ :=
    exists_repeated Reference.runtime Reference.troubled (by decide) (by decide) 3
  refine ⟨reports, out, hruns, hlength, ?_⟩
  have hgrave : seriousCount Reference.runtime Reference.troubled
      (Reference.prometheusValue "error_ratio") = 1 := by decide +kernel
  refine (repeatable_iff hruns (by decide)).mpr fun _ => ?_
  rw [hgrave]
  exact ⟨Nat.le_refl 1, by decide⟩

/-- Where nothing went wrong, the first audit sees no risk.  The second one finds the
report of the first and nothing else, sees a risk of twenty and wants it remediated. -/
theorem repetition_raises :
    ∃ first second out, Repeated Reference.runtime Reference.prometheusValue
        (buildGraphState Reference.fresh Reference.watchRequest) [first, second] out ∧
      Reference.runtime.mocks .securityAudit
        (buildGraphState Reference.fresh Reference.watchRequest).stats = true ∧
      first.overallRiskScore.val = 0 ∧ second.overallRiskScore.val = 20 ∧
      (∀ finding ∈ second.findings, finding.severity = .info) ∧
      second.remediationCommands ≠ [] := by
  obtain ⟨reports, out, hruns, hlength, -⟩ :=
    exists_repeated Reference.runtime (buildGraphState Reference.fresh Reference.watchRequest)
      (by decide) (by decide) 2
  obtain ⟨first, second, rfl⟩ := List.length_eq_two.mp hlength
  obtain ⟨-, -, -, -, hfinds⟩ := hruns.finds (by decide)
  have hgrave : seriousCount Reference.runtime
      (buildGraphState Reference.fresh Reference.watchRequest)
      (Reference.prometheusValue "error_ratio") = 0 := by decide +kernel
  rw [hgrave] at hfinds
  have hfirst := hfinds [] first [second] rfl
  have hsecond := hfinds [first] second [] rfl
  have hnone : first.findings.length = 0 := hfirst.length
  have hone : second.findings.length = 1 := hsecond.length
  refine ⟨first, second, out, hruns, by decide, ?_, ?_, ?_, ?_⟩
  · rw [hfirst.risk, hnone]
    rfl
  · rw [hsecond.risk, hone]
    rfl
  · exact (serious_eq_nil_iff _).mp (List.length_eq_zero_iff.mp hsecond.serious)
  · rw [ne_eq, hsecond.remediates]
    exact List.ne_nil_of_length_eq_add_one hone

end SecurityAudit

end Gestalt
