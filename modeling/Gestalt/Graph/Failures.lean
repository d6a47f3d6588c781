import Gestalt.Graph.Summary

/-!
# Gestalt.Graph.Failures

What the security audit makes of an earlier failure.

A failure reaches the audit as the `last_error` marker, which belongs to the
last failure and holds the text of its exception.  The audit takes an empty
text for no failure; and with a provider behind the gateway the risk score is
the provider's, whatever the findings.
-/

namespace Gestalt

open Effects Program

/-! ## the run of the builder -/

/-- A tool with one call asks that and nothing else. -/
theorem run_executeAllowed_send {rt : Runtime} {a : AgentName} {toolName : String} {c : Call}
    {w : Surroundings Services} {s : GestaltGraphState} {reply : c.Reply}
    (h : ((executeAllowed rt a toolName (send c)).run w s).result = .ok reply) :
    w 0 (.call c) = .ok reply ∧
      ((executeAllowed rt a toolName (send c)).run w s).state = s ∧
      ((executeAllowed rt a toolName (send c)).run w s).trace.length = 1 := by
  unfold executeAllowed at h ⊢
  split at h
  · next hallowed =>
      rw [if_pos hallowed, run_send]
      rw [run_send] at h
      exact ⟨h, rfl, rfl⟩
  · contradiction

/-- A structured completion keeps the state. -/
theorem state_of_completeStructured {rt : Runtime} {a : AgentName} {userPrompt : String}
    {responseModel : ResponseModel} {stats : GestaltStats}
    {mock : Except Exc responseModel.Reply} {w : Surroundings Services} {s : GestaltGraphState}
    {reply : responseModel.Reply}
    (h : ((completeStructured rt a userPrompt responseModel stats mock).run w s).result =
      .ok reply) :
    ((completeStructured rt a userPrompt responseModel stats mock).run w s).state = s :=
  (Steady.of_run (steady_completeStructured (covers_true _).completions fun _ _ _ => trivial) h).1

/-- A structured completion is the mock reply, or the first answer. -/
theorem reply_of_completeStructured {rt : Runtime} {a : AgentName} {userPrompt : String}
    {responseModel : ResponseModel} {stats : GestaltStats}
    {mock : Except Exc responseModel.Reply} {w : Surroundings Services} {s : GestaltGraphState}
    {reply : responseModel.Reply}
    (h : ((completeStructured rt a userPrompt responseModel stats mock).run w s).result =
      .ok reply) :
    (rt.mocks a stats = true ∧ mock = .ok reply) ∨
      (rt.mocks a stats = false ∧ w 0 (.call (.acompletion
        { model := rt.settings.models.selectModel stats
            (some (rt.settings.policy a).modelPreference.value)
          temperature := rt.settings.models.temperature
          maxTokens := rt.settings.models.maxTokens
          systemPrompt := rt.systemPrompt a, userPrompt := userPrompt } responseModel)) =
        .ok (some reply)) := by
  unfold completeStructured at h
  dsimp only at h
  split at h
  · next hmocks =>
      refine Or.inl ⟨hmocks, ?_⟩
      cases mock with
      | ok _ => exact h
      | error e => contradiction
  · next hmocks =>
      refine Or.inr ⟨eq_false_of_ne_true hmocks, ?_⟩
      obtain ⟨parsed, hsend, h⟩ := exists_of_run_bind h
      rw [run_send] at hsend
      cases parsed with
      | none => contradiction
      | some _ =>
          obtain rfl := Except.ok.inj h
          exact hsend

/-- The program returns from the state `s`, which it keeps, after `k` questions. -/
def Takes {α : Type} (s : GestaltGraphState) (k : Nat) (p : Action α) : Prop :=
  ∀ w, ∃ a, (p.run w s).result = .ok a ∧ (p.run w s).state = s ∧ (p.run w s).trace.length = k

section Takes

variable {α β : Type} {s : GestaltGraphState} {k l : Nat}

theorem takes_pure (a : α) : Takes s 0 (pure a : Action α) := fun _ => ⟨a, rfl, rfl, rfl⟩

theorem takes_uuid4 : Takes s 1 uuid4 := fun _ => ⟨_, rfl, rfl, rfl⟩

theorem takes_bind {p : Action α} {f : α → Action β} (hp : Takes s k p)
    (hf : ∀ a, Takes s l (f a)) : Takes s (k + l) (p >>= f) := by
  intro w
  obtain ⟨a, hresult, hstate, hlength⟩ := hp w
  obtain ⟨b, hresult', hstate', hlength'⟩ := hf a (w.drop k)
  rw [run_bind]
  simp only [hresult, hstate, hlength, List.length_append]
  exact ⟨b, hresult', hstate', by rw [hlength']⟩

theorem takes_appendIf {condition : Bool} {build : Action α} (h : Takes s k build) :
    Takes s (if condition then k else 0) (appendIf condition build) := by
  cases condition with
  | true => exact takes_bind h fun _ => takes_pure _
  | false => exact takes_pure _

end Takes

namespace SecurityAudit

/-- The text of the marker, where there is one. -/
def lastError (s : GestaltGraphState) : String :=
  ((s.metadata.get? "last_error").bind Value.asStr?).getD ""

/-- How many identifiers are drawn for the findings. -/
def identifiers (rt : Runtime) (s : GestaltGraphState) (errorRatio : Rat) : Nat :=
  (if lastError s = "" then 0 else 2) +
  (if errorRatio ≥ rt.settings.stats.errorRateThresholds.critical then 1 else 0) +
  (if s.auditReports.isEmpty then 0 else 1)

/-- What a provider is asked. -/
def request (rt : Runtime) (s : GestaltGraphState) : CompletionRequest where
  model := rt.settings.models.selectModel s.stats
    (some (rt.settings.policy .securityAudit).modelPreference.value)
  temperature := rt.settings.models.temperature
  maxTokens := rt.settings.models.maxTokens
  systemPrompt := rt.systemPrompt .securityAudit
  userPrompt := s!"Audit objective: {s.objective.val}"

theorem length_errorRatio : 1 ≤ "error_ratio".length := by decide

/-- What a provider replies in a visit: it is asked after the last of the three
tools, which samples the error ratio, and after the identifiers of the findings
are drawn. -/
def assessment? (rt : Runtime) (s : GestaltGraphState) (w : Surroundings Services) :
    Option SecurityAuditReasoning :=
  let sampled : Except Exc Rat :=
    w 8 (.call (.prometheusQuery (.text "error_ratio" length_errorRatio)))
  sampled.toOption.bind fun errorRatio =>
    let answer : Except Exc (Option SecurityAuditReasoning) :=
      w (9 + identifiers rt s errorRatio)
        (.call (.acompletion (request rt s) .securityAuditReasoning))
    answer.toOption.join

/-- A finding about a failed invocation. -/
def AboutFailure (finding : AuditFinding) : Prop :=
  finding.severity = .high ∧ finding.category = .tooling

section Runs

variable {rt : Runtime} {s : GestaltGraphState} {w : Surroundings Services}

theorem takes_auditFindings (errorRatio : Rat) :
    Takes s (identifiers rt s errorRatio) (auditFindings rt s errorRatio) := by
  have hid : ∀ {β : Type} (finding : Uuid → β),
      Takes s 1 (uuid4 >>= fun findingId => pure (finding findingId)) :=
    fun _ => takes_bind takes_uuid4 fun _ => takes_pure _
  have htakes : Takes s _ (auditFindings rt s errorRatio) :=
    takes_bind (takes_appendIf (takes_bind takes_uuid4 fun _ => hid _)) fun _ =>
      takes_bind (takes_appendIf (hid _)) fun _ =>
        takes_bind (takes_appendIf (hid _)) fun _ => takes_pure _
  have hcount : identifiers rt s errorRatio =
      (if decide (lastError s ≠ "") = true then 2 else 0) +
        ((if decide (errorRatio ≥ rt.settings.stats.errorRateThresholds.critical) = true then 1
          else 0) + if (!s.auditReports.isEmpty) = true then 1 else 0) := by
    simp only [identifiers, Nat.add_assoc, decide_eq_true_eq, ne_eq, ite_not, Bool.not_eq_true']
    congr 1
    cases s.auditReports.isEmpty <;> rfl
  rw [hcount]
  exact htakes

/-- Among the findings one is about a failure exactly if the marker has a text. -/
theorem steady_failureFinding {allows emits : Event Services → Prop} [Permissive emits]
    {mayRaise : Prop} (errorRatio : Rat) :
    Steady allows emits mayRaise s (auditFindings rt s errorRatio)
      fun findings => (∃ finding ∈ findings, AboutFailure finding) ↔ lastError s ≠ "" := by
  refine steady_gathered.mono fun findings h => ?_
  obtain ⟨failures, errors, history, rfl, hgathered⟩ := h
  constructor
  · intro habout
    obtain ⟨finding, hmem, hsevere, -⟩ := habout
    simp only [List.mem_append] at hmem
    rcases hmem with (hmem | hmem) | hmem
    · exact of_decide_eq_true (hgathered.failures.condition_of_mem hmem)
    · obtain ⟨_, rfl⟩ := hgathered.errors.ok_of_mem finding hmem
      contradiction
    · obtain ⟨_, rfl⟩ := hgathered.history.ok_of_mem finding hmem
      contradiction
  · intro hfailed
    obtain ⟨finding, rfl, hbuilt⟩ := hgathered.failures.exists_eq (decide_eq_true hfailed)
    obtain ⟨findingId, instructionId, rfl⟩ := hbuilt
    exact ⟨failureFinding findingId instructionId _, List.mem_cons_self, rfl, rfl⟩

/-- The artifacts of an audit with the findings and the reasoning. -/
structure Assembles (s : GestaltGraphState) (findings : List AuditFinding)
    (reasoning : SecurityAuditReasoning) (art : AgentArtifacts) : Prop where
  report : ∃ report, art.auditReport = some report ∧ report.findings = findings ∧
    report.overallRiskScore = reasoning.overallRiskScore
  commands : Appended (!findings.isEmpty)
    (CommandOf s.traceId .remediate AgentName.orchestrator.field) art.commands

/-- **The run of the audit**: the findings, and then the mock reasoning or the
reply of the provider, make the artifacts. -/
theorem assembles_of_produceArtifacts {context : AgentContextEnvelope} {art : AgentArtifacts}
    (hobjective : context.objective = s.objective) (w : Surroundings Services)
    (h : ((produceArtifacts rt context).run (w.drop 6) s).result = .ok art) :
    ∃ findings reasoning, Assembles s findings reasoning art ∧
      ((∃ finding ∈ findings, AboutFailure finding) ↔ lastError s ≠ "") ∧
      ((rt.mocks .securityAudit s.stats = true ∧
          reasoning.overallRiskScore = overallRisk s.stats.securityRiskScore findings.length) ∨
        (rt.mocks .securityAudit s.stats = false ∧ assessment? rt s w = some reasoning)) := by
  rw [produceArtifacts, run_bind, run_read] at h
  simp only [List.length_nil, drop_zero] at h
  -- the three tools
  obtain ⟨result, hresult, h⟩ := exists_of_run_bind h
  obtain ⟨-, hstate, hlength⟩ := run_executeAllowed_send hresult
  rw [queryBlackboard, hstate, hlength, drop_drop] at h
  obtain ⟨entries, hentries, h⟩ := exists_of_run_bind h
  obtain ⟨-, hstate, hlength⟩ := run_executeAllowed_send hentries
  rw [inspectRedisStream, hstate, hlength, drop_drop] at h
  obtain ⟨errorRatio, hratio, h⟩ := exists_of_run_bind h
  obtain ⟨hsampled, hstate, hlength⟩ := run_executeAllowed_send hratio
  rw [queryPrometheus, hstate, hlength, drop_drop] at h
  -- the findings
  obtain ⟨findings, hfindings, h⟩ := exists_of_run_bind h
  have htakes : Takes s (identifiers rt s errorRatio) (auditFindings rt s errorRatio) :=
    takes_auditFindings errorRatio
  obtain ⟨-, -, hstate, hlength⟩ := htakes (w.drop 9)
  obtain ⟨-, habout⟩ := Steady.of_run (steady_failureFinding errorRatio) hfindings
  rw [hstate, hlength, drop_drop] at h
  -- the reasoning
  obtain ⟨reasoning, hreasoning, h⟩ := exists_of_run_bind h
  rw [state_of_completeStructured hreasoning] at h
  have hreply := reply_of_completeStructured hreasoning
  refine ⟨findings, reasoning, ?_, habout, hreply.imp ?_ ?_⟩
  · -- what is left only puts things together
    refine (Steady.of_run ?_ h).2
    refine steady_bind (steady_appendIf steady_newCommand) fun commands hcommands => ?_
    refine steady_bind steady_uuid4 fun _ _ => ?_
    refine steady_bind (steady_utcNow _) fun _ _ => ?_
    refine steady_bind steady_newMemory fun _ _ => ?_
    exact steady_pure ⟨⟨_, rfl, rfl, rfl⟩, hcommands⟩
  · intro hmocked
    obtain ⟨hmocks, hmock⟩ := hmocked
    rw [← Except.ok.inj hmock]
    exact ⟨hmocks, rfl⟩
  · intro hprovided
    obtain ⟨hmocks, hanswer⟩ := hprovided
    refine ⟨hmocks, ?_⟩
    change w 8 (.call (.prometheusQuery (.text "error_ratio"))) = .ok errorRatio at hsampled
    rw [hobjective] at hanswer
    change w (9 + identifiers rt s errorRatio) (.call (.acompletion (request rt s)
      .securityAuditReasoning)) = .ok (some reasoning) at hanswer
    simp only [assessment?, hsampled, Except.toOption, Option.bind_some, hanswer]
    rfl

/-- The audit keeps the state, and issues pending commands. -/
theorem kept_of_produceArtifacts {context : AgentContextEnvelope} {art : AgentArtifacts}
    (h : ((produceArtifacts rt context).run w s).result = .ok art) :
    ((produceArtifacts rt context).run w s).state = s ∧ art.IssuesPending := by
  obtain ⟨hstate, -, hemitted⟩ :=
    Steady.of_run (steady_securityAudit (covers_true _) (Or.inr trivial)) h
  exact ⟨hstate, hemitted.issuesPending⟩

end Runs

end SecurityAudit

/-! ## steps -/

/-- The step is a visit to the security audit that leaves the report. -/
structure Cycle.Audits (rt : Runtime) (v : Visit) (c : Cycle) (report : GestaltAuditReport) :
    Prop where
  cursor : c.cursor = .at .securityAudit
  reported : (c.step rt v).state.auditReports = c.state.auditReports ++ [report]

/-- The audit makes something of a failure: it has a finding about it, it sees a
risk of at least twenty and it asks the orchestrator for remediation. -/
structure Cycle.Detects (rt : Runtime) (v : Visit) (c : Cycle) (report : GestaltAuditReport) :
    Prop where
  finding : ∃ finding ∈ report.findings, SecurityAudit.AboutFailure finding
  risk : 20 ≤ report.overallRiskScore.val
  remediates : ∃ command ∈ (c.step rt v).state.commands.drop c.state.commands.length,
    command.commandType = .remediate ∧ command.targetAgent = AgentName.orchestrator.field

section Steps

variable {rt : Runtime} {v : Visit} {c : Cycle}

/-- A visit to the security audit that leaves a report has run its builder. -/
theorem Cycle.Audits.assembles {report : GestaltAuditReport} (h : c.Audits rt v report)
    (hrange : c.state.stats.InRange) :
    ∃ findings reasoning art, SecurityAudit.Assembles c.state findings reasoning art ∧
      art.auditReport = some report ∧
      (c.step rt v).state.commands = c.state.commands ++ art.commands ∧
      ((∃ finding ∈ findings, SecurityAudit.AboutFailure finding) ↔
        SecurityAudit.lastError c.state ≠ "") ∧
      ((rt.mocks .securityAudit c.state.stats = true ∧ reasoning.overallRiskScore =
          SecurityAudit.overallRisk c.state.stats.securityRiskScore findings.length) ∨
        (rt.mocks .securityAudit c.state.stats = false ∧
          SecurityAudit.assessment? rt c.state v.answers = some reasoning)) := by
  have hreported := h.reported
  obtain hkept | ⟨node, hcursor, -, hrun⟩ := (moves hrange rt v).state_cases
  · simp [hkept] at hreported
  generalize (c.step rt v).state = out at hreported hrun ⊢
  obtain rfl := Cursor.at.inj (hcursor.symm.trans h.cursor)
  obtain ⟨entry, hentry, hcompleted⟩ : ∃ entry, out.executionReports.getLast? = some entry ∧
      entry.status = .completed := by
    cases (visitEffect_of_ok hrun).1 with
    | completed _ _ _ _ update =>
        obtain ⟨messages, entry, -, hentry, rfl⟩ := update
        exact ⟨entry, by simp [applyStateUpdate], hentry.status_eq⟩
    | failed _ update =>
        obtain ⟨e, entry, -, rfl⟩ := update
        simp [applyStateUpdate, failureArtifacts] at hreported
  obtain ⟨context, art, hcontext, hart, messages, entry', -, -, rfl⟩ :=
    completedAs_of_bodyRun (bodyRun_of_completed hrun hentry hcompleted)
      fun _ _ => SecurityAudit.kept_of_produceArtifacts
  obtain ⟨findings, reasoning, hassembles, habout, hreply⟩ :=
    SecurityAudit.assembles_of_produceArtifacts hcontext.objective v.answers hart
  refine ⟨findings, reasoning, art, hassembles, ?_, rfl, habout, hreply⟩
  obtain ⟨report', hreport', -⟩ := hassembles.report
  simpa [applyStateUpdate, hreport'] using hreported

/-- **What becomes of a failure** in an audit: it is seen exactly if the marker
has a text and a provider, where there is one, sees the risk. -/
theorem Cycle.Audits.detects_iff {report : GestaltAuditReport} (h : c.Audits rt v report)
    (hrange : c.state.stats.InRange) :
    c.Detects rt v report ↔ SecurityAudit.lastError c.state ≠ "" ∧
      (rt.mocks .securityAudit c.state.stats = false →
        ∀ reply, SecurityAudit.assessment? rt c.state v.answers = some reply →
          20 ≤ reply.overallRiskScore.val) := by
  obtain ⟨findings, reasoning, art, hassembles, hreport, hcommands, habout, hreply⟩ :=
    h.assembles hrange
  obtain ⟨report', hreport', hfindings, hrisk⟩ := hassembles.report
  obtain rfl : report = report' := Option.some.inj (hreport.symm.trans hreport')
  constructor
  · intro hdetects
    refine ⟨habout.mp (hfindings ▸ hdetects.finding), fun hprovider reply hassessed => ?_⟩
    obtain ⟨hmocks, -⟩ | ⟨-, hassessed'⟩ := hreply
    · rw [hprovider] at hmocks
      contradiction
    · obtain rfl := Option.some.inj (hassessed.symm.trans hassessed')
      rw [← hrisk]
      exact hdetects.risk
  · intro hcondition
    obtain ⟨hnonempty, hassessment⟩ := hcondition
    obtain ⟨finding, hmem, hfailure⟩ := habout.mpr hnonempty
    have hsome : 1 ≤ findings.length := List.length_pos_of_mem hmem
    refine ⟨⟨finding, hfindings ▸ hmem, hfailure⟩, ?_, ?_⟩
    · rw [hrisk]
      obtain ⟨-, hscore⟩ | ⟨hprovider, hassessed⟩ := hreply
      · rw [hscore]
        simp only [SecurityAudit.overallRisk]
        omega
      · exact hassessment hprovider reasoning hassessed
    · have hsome : (!findings.isEmpty) = true := by simp [List.ne_nil_of_mem hmem]
      obtain ⟨command, hcommand, hbuilt⟩ := hassembles.commands.exists_eq hsome
      rw [hcommands, hcommand]
      exact ⟨command, by simp, hbuilt.type_eq, hbuilt.target_eq⟩

/-- An audit whose tools are allowed and whose calls succeed leaves a report. -/
theorem Cycle.exists_audits (hcursor : c.cursor = .at .securityAudit) (hover : c.HandsOver v)
    (hrange : c.state.stats.InRange) (haligned : blank c.state.objective.val = false)
    (htools : rt.AllowsAudit)
    (hanswered : ∀ ev ∈ (c.agentRun rt v .securityAudit).trace, Answered ev ∧ ClockSane ev) :
    ∃ report, c.Audits rt v report := by
  have hspec : Spec (fun ev => Answered ev ∧ ClockSane ev) (fun _ => True) c.state
      (run rt (agentAt rt .securityAudit))
      (fun out _ => ∃ report, out.auditReports = c.state.auditReports ++ [report])
      fun _ _ => False :=
    spec_run_audit (fun _ h => h.1) (fun _ h => h.2) haligned htools
  obtain ⟨out, hrun, report, hreport⟩ := hspec.exists_ok hanswered
  refine ⟨report, hcursor, ?_⟩
  rw [step_of_ok hcursor hrange hover hrun]
  exact hreport

end Steps

/-! ## runs -/

/-- The marker has a text exactly if the exception of the last failure had one. -/
theorem GestaltGraphState.Marked.lastError_ne_iff {s : GestaltGraphState} (h : s.Marked)
    {failure : AgentExecutionReport} (hfailure : lastFailure? s.executionReports = some failure) :
    SecurityAudit.lastError s ≠ "" ↔
      failure.summary.val ≠ failure.agentName.val ++ " failed: " := by
  obtain ⟨text, hmarker, hsummary⟩ := h failure hfailure
  have hlast : SecurityAudit.lastError s = text := by
    simp [SecurityAudit.lastError, hmarker, Value.asStr?]
  have happend : ∀ shown : String, shown ++ text = shown ↔ text = "" := by
    intro shown
    rw [← String.toList_inj, String.toList_append, List.append_right_eq_self,
      String.toList_eq_nil_iff]
  rw [hlast, hsummary, ne_eq, ne_eq, happend]

/-- **Which failures an audit sees.**  In every run of every cycle: a visit to
the security audit whose calls succeed leaves a report, where its tools are
allowed and the objective is not blank.  If a failure was reported before it,
the audit has a finding about it, a risk of at least twenty and a command for
the orchestrator, exactly if the exception of the last failure had a text and a
provider, where there is one, replies with such a risk. -/
theorem Cycle.failure_detected_iff (rt : Runtime) (fresh : Fresh) (request : CycleRequest)
    (visits : Nat → Visit) (n : Nat) :
    let c := after rt visits (start fresh request) n
    (c.cursor = .at .securityAudit → c.HandsOver (visits n) →
      blank request.objective.val = false → rt.AllowsAudit →
      (∀ ev ∈ (c.agentRun rt (visits n) .securityAudit).trace, Answered ev ∧ ClockSane ev) →
      ∃ report, c.Audits rt (visits n) report) ∧
    ∀ report failure, c.Audits rt (visits n) report →
      lastFailure? c.state.executionReports = some failure →
      (c.Detects rt (visits n) report ↔
        failure.summary.val ≠ failure.agentName.val ++ " failed: " ∧
        (rt.mocks .securityAudit c.state.stats = false →
          ∀ reply, SecurityAudit.assessment? rt c.state (visits n).answers = some reply →
            20 ≤ reply.overallRiskScore.val)) := by
  intro c
  have hsound := sound_after rt fresh request visits n
  refine ⟨fun hcursor hover haligned htools hanswered => ?_, fun report failure haudits hlast => ?_⟩
  · exact exists_audits hcursor hover hsound.inRange (hsound.aligned haligned) htools hanswered
  · rw [haudits.detects_iff hsound.inRange,
      (marked_after rt fresh request visits n).lastError_ne_iff hlast]

/-- A request for an audit. -/
def Reference.auditRequest : CycleRequest where
  objective := .text "Audit the cluster"

/-- On the day of the outage the monitor fails without a text; the calls of the
audit after it succeed, and it sees nothing. -/
theorem Cycle.failure_undetected :
    (∀ ev ∈ ((after Reference.runtime Reference.outage
      (start Reference.fresh Reference.auditRequest) 3).agentRun Reference.runtime
        (Reference.outage 3) .securityAudit).trace, Answered ev) ∧
    (∃ failure ∈ (after Reference.runtime Reference.outage
      (start Reference.fresh Reference.auditRequest) 3).state.executionReports,
        failure.status = .failed) ∧
    ∃ report,
      (after Reference.runtime Reference.outage
        (start Reference.fresh Reference.auditRequest) 3).Audits Reference.runtime
          (Reference.outage 3) report ∧
      ¬ (after Reference.runtime Reference.outage
        (start Reference.fresh Reference.auditRequest) 3).Detects Reference.runtime
          (Reference.outage 3) report := by
  have haligned : blank Reference.auditRequest.objective.val = false := by decide
  have hplan : Orchestrator.plan? Reference.runtime
      (buildGraphState Reference.fresh Reference.auditRequest) =
        some [.monitor, .securityAudit] := by decide
  have hsound := sound_after Reference.runtime Reference.fresh Reference.auditRequest
    Reference.outage
  have hover : ∀ n, (after Reference.runtime Reference.outage
      (start Reference.fresh Reference.auditRequest) n).HandsOver (Reference.outage n) :=
    Reference.handsOver_of_still Reference.still_outage
  have hcalm : ∀ (c : Cycle) node, ∀ ev ∈ (c.agentRun Reference.runtime (Reference.outage 3)
      node).trace, Calm ev := fun c node => Reference.calm_outage _ c node (by decide)
  obtain ⟨hat, hmarker, failure, hmem, hfailed⟩ :=
    Reference.atOrchestrator_outage Reference.runtime haligned hplan
  obtain ⟨haudit, -, hkept⟩ := hat.dispatched (hsound 2).inRange
    ((hsound 2).aligned haligned) (hover 2) (Reference.calm_outage _ _ _ (by decide))
  have hgrown := appendsTo_step (hsound 2).inRange Reference.runtime (Reference.outage 2)
  have hstep : after Reference.runtime Reference.outage
      (start Reference.fresh Reference.auditRequest) 3 =
        (after Reference.runtime Reference.outage
          (start Reference.fresh Reference.auditRequest) 2).step Reference.runtime
            (Reference.outage 2) := rfl
  rw [← hstep] at haudit hkept hgrown
  refine ⟨fun ev hev => (hcalm _ _ ev hev).answered,
    ⟨failure, hgrown.executionReports.subset hmem, hfailed⟩, ?_⟩
  obtain ⟨report, haudits⟩ := exists_audits haudit.cursor (hover 3) (hsound 3).inRange
    ((hsound 3).aligned haligned) (by decide)
    fun ev hev => ⟨(hcalm _ _ ev hev).answered, (hcalm _ _ ev hev).clockSane⟩
  refine ⟨report, haudits, fun hdetects => ((haudits.detects_iff (hsound 3).inRange).mp
    hdetects).1 ?_⟩
  rw [SecurityAudit.lastError, hkept "last_error" (by decide), hmarker]
  rfl

end Gestalt
