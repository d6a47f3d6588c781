import Gestalt.Graph.Finalization

/-!
# Gestalt.Graph.Audit

Forced audits.

`trigger_audit` adds its keys to the metadata of the caller, in which the
orchestrator also looks for its plan and for a scheduled agent.  The audit runs
when the plan that results names the security audit, and it leaves a report
when its tools are allowed.
-/

namespace Gestalt

open Effects Program

/-! ## reports and the tools they need -/

section Visits

variable {allows : Event Services → Prop} {rt : Runtime} {node : AgentName}
variable {s out : GestaltGraphState} {c : Cycle} {v : Visit}

/-- Only an audit whose tools are allowed reports. -/
theorem VisitOutcome.allowsAudit (hout : VisitOutcome allows rt s node out)
    (h : out.auditReports ≠ []) : s.auditReports ≠ [] ∨ rt.AllowsAudit := by
  refine or_iff_not_imp_left.mpr fun hnone => ?_
  have hempty : s.auditReports = [] := not_not.mp hnone
  cases hout with
  | @completed _ art _ specialist aligned artifacts update =>
      obtain ⟨messages, report, -, -, rfl⟩ := update
      cases hreport : art.auditReport with
      | none => simp [applyStateUpdate, hempty, hreport] at h
      | some audit => exact artifacts.tools (artifacts.audit.mp (by rw [hreport]; rfl))
  | failed specialist update =>
      obtain ⟨e, report, -, rfl⟩ := update
      simp [applyStateUpdate, hempty, failureArtifacts] at h
  | routed aligned routing update =>
      obtain ⟨messages, report, -, -, rfl⟩ := update
      cases routing with
      | finalize _ finalizes => simp [applyStateUpdate, hempty, finalizes.audit] at h
      | dispatch _ _ dispatches =>
          simp [applyStateUpdate, GestaltGraphState.withApproval, hempty, dispatches.audit] at h
  | routeFailed left update =>
      obtain ⟨e, report, -, rfl⟩ := update
      rcases left with rfl | ⟨approval, -, rfl⟩ <;>
        simp [applyStateUpdate, GestaltGraphState.withApproval, hempty, failureArtifacts] at h

/-- An audit whose tools are allowed and whose calls succeed completes. -/
theorem spec_run_audit_completed {emits : Event Services → Prop} [Permissive emits]
    (hanswered : ∀ ev, allows ev → Answered ev) (hclock : ∀ ev, allows ev → ClockSane ev)
    (haligned : blank s.objective.val = false) (htools : rt.AllowsAudit) :
    Spec allows emits s (run rt (agentAt rt .securityAudit))
      (fun out _ => ∃ art, (SpecialistArtifacts rt .securityAudit s art ∧ art.IssuesPending) ∧
        CompletedAs .securityAudit s art out)
      fun _ _ => False := by
  have hcovers : Covers allows False := covers_of_answered hanswered
  have hbuilder : ∀ context, ContextOf .securityAudit s context →
      Steady allows emits False s ((agentAt rt .securityAudit).produceArtifacts context)
        fun art => SpecialistArtifacts rt .securityAudit s art ∧ art.IssuesPending :=
    fun _ _ => (steady_securityAudit hcovers (Or.inl htools)).mono
      fun _ h => ⟨h.1, h.2.issuesPending⟩
  exact spec_run_completed hanswered hclock haligned hbuilder fun _ h => h.2

/-- It leaves a report. -/
theorem spec_run_audit {emits : Event Services → Prop} [Permissive emits]
    (hanswered : ∀ ev, allows ev → Answered ev) (hclock : ∀ ev, allows ev → ClockSane ev)
    (haligned : blank s.objective.val = false) (htools : rt.AllowsAudit) :
    Spec allows emits s (run rt (agentAt rt .securityAudit))
      (fun out _ => ∃ report, out.auditReports = s.auditReports ++ [report])
      fun _ _ => False := by
  refine Spec.mono (spec_run_audit_completed hanswered hclock haligned htools) ?_ fun _ _ h => h
  intro out _ hpost
  obtain ⟨art, ⟨hart, -⟩, messages, report, -, -, rfl⟩ := hpost
  obtain ⟨audit, haudit⟩ := Option.isSome_iff_exists.mp (hart.audit.mpr rfl)
  exact ⟨audit, by simp [applyStateUpdate, haudit]⟩

/-- On a calm visit such an audit leaves a report. -/
theorem reports_of_calm {w : Surroundings Services} (haligned : blank s.objective.val = false)
    (htools : rt.AllowsAudit)
    (hcalm : ∀ ev ∈ ((run rt (agentAt rt .securityAudit)).run w s).trace, Calm ev)
    (hrun : ((run rt (agentAt rt .securityAudit)).run w s).result = .ok out) :
    out.auditReports ≠ [] := by
  have hspec : Spec Calm (fun _ => True) s (run rt (agentAt rt .securityAudit))
      (fun out _ => ∃ report, out.auditReports = s.auditReports ++ [report])
      fun _ _ => False :=
    spec_run_audit (fun _ h => h.answered) (fun _ h => h.clockSane) haligned htools
  obtain ⟨report, hreport⟩ := hspec.of_ok hcalm hrun
  simp [hreport]

end Visits

/-! ## runs -/

section Runs

variable {rt : Runtime} {fresh : Fresh} {request : CycleRequest} {visits : Nat → Visit}

/-- An undisturbed visit returns. -/
theorem Cycle.step_of_undisturbed {c : Cycle} {v : Visit} {node : AgentName}
    (h : c.Undisturbed rt v) (hrange : c.state.stats.InRange) (hcursor : c.cursor = .at node) :
    ∃ out, (c.agentRun rt v node).result = .ok out ∧
      VisitOutcome Calm rt c.state node out ∧
      c.step rt v =
        { cursor := nextCursor node out, state := out, visited := c.visited ++ [node] } := by
  obtain ⟨out, hrun, hout⟩ := (spec_visit Calm False node
    fun _ _ hev => Or.inl hev.clockSane).exists_ok (h.calm node hcursor)
  exact ⟨out, hrun, hout, step_of_ok hcursor hrange (h.handsOver node hcursor) hrun⟩

/-- A cycle with an audit report has allowed the audit its tools. -/
theorem allowsAudit_after {n : Nat}
    (h : (Cycle.after rt visits (Cycle.start fresh request) n).state.auditReports ≠ []) :
    rt.AllowsAudit := by
  induction n with
  | zero => exact absurd rfl h
  | succ n ih =>
      have hstep := Cycle.step_cases (Cycle.sound_after rt fresh request visits n).inRange
        (Cycle.allows_any rt (visits n) _)
      rcases hstep.state_cases with heq | ⟨node, hout⟩
      · rw [Cycle.after, heq] at h
        exact ih h
      · exact (hout.allowsAudit h).elim ih id

/-- **Every undisturbed visit to the security audit leaves a report**, where
its tools are allowed. -/
theorem audited_after (haligned : blank request.objective.val = false) (htools : rt.AllowsAudit)
    (hundisturbed : ∀ n,
      (Cycle.after rt visits (Cycle.start fresh request) n).Undisturbed rt (visits n)) {n : Nat}
    (hvisited : .securityAudit ∈ (Cycle.after rt visits (Cycle.start fresh request) n).visited) :
    (Cycle.after rt visits (Cycle.start fresh request) n).state.auditReports ≠ [] := by
  induction n with
  | zero => simp [Cycle.after, Cycle.start] at hvisited
  | succ n ih =>
      have hsound := Cycle.sound_after rt fresh request visits n
      rw [Cycle.after] at hvisited ⊢
      cases hcursor : (Cycle.after rt visits (Cycle.start fresh request) n).cursor with
      | ended =>
          simp only [Cycle.step, hcursor] at hvisited ⊢
          exact ih hvisited
      | crashed e =>
          simp only [Cycle.step, hcursor] at hvisited ⊢
          exact ih hvisited
      | «at» node =>
          obtain ⟨out, hrun, hout, hstep⟩ :=
            Cycle.step_of_undisturbed (hundisturbed n) hsound.inRange hcursor
          rw [hstep] at hvisited ⊢
          rcases List.mem_append.mp hvisited with hbefore | hnow
          · obtain ⟨u⟩ := hout.update
            exact fun hnone => ih hbefore (List.prefix_nil.mp (hnone ▸ u.appendsTo.auditReports))
          · obtain rfl := List.mem_singleton.mp hnow
            exact reports_of_calm (hsound.aligned haligned) htools
              ((hundisturbed n).calm _ hcursor) hrun

end Runs

/-! ## audit triggers -/

/-- The plan of an audit trigger, read off the metadata of the caller. -/
def auditPlan? (metadata : Dict Value) : Option (List Specialist) :=
  match metadata.get? "pending_agents" with
  | some pending => pending.iterate?.bind fun items => items.mapM Specialist.ofValue?
  | none =>
      match (metadata.get? "scheduled_agent").bind Value.asStr? with
      | some name =>
          if name ≠ "" then (Specialist.ofName? name).map fun a => [a] else some [.securityAudit]
      | none => some [.securityAudit]

theorem plan?_triggerAudit (rt : Runtime) (fresh : Fresh) (payload : TriggerAuditRequest) :
    Orchestrator.plan? rt (buildGraphState fresh (triggerAudit payload)) =
      auditPlan? payload.metadata := by
  have hkept : ∀ key, key ≠ "force_audit" → key ≠ "audit_scope" →
      (triggerAudit payload).metadata.get? key = payload.metadata.get? key := by
    intro key hforce hscope
    simp [triggerAudit, Ne.symm hforce, Ne.symm hscope]
  have hforce : (triggerAudit payload).metadata.get? "force_audit" = some (.bool true) := by
    simp [triggerAudit]
  have hpending := hkept "pending_agents" (by decide) (by decide)
  have hscheduled := hkept "scheduled_agent" (by decide) (by decide)
  simp only [Orchestrator.plan?, Orchestrator.pendingAgents, auditPlan?, buildGraphState, hpending]
  cases payload.metadata.get? "pending_agents" with
  | some pending => rfl
  | none =>
      simp only [Orchestrator.determineNextAgents, Orchestrator.determineNextAgents.planned,
        hscheduled, hforce]
      cases (payload.metadata.get? "scheduled_agent").bind Value.asStr? with
      | none => rfl
      | some name =>
          by_cases hname : name = ""
          · simp only [hname]
            rfl
          · simp only [hname, ne_eq, not_false_eq_true, if_true]
            cases hknown : Specialist.ofName? name <;>
              simp [Specialist.ofValue?, Value.asStr?, hknown]

theorem aligned_triggerAudit (payload : TriggerAuditRequest) :
    blank (triggerAudit payload).objective.val = false := by
  change blank "Manual security audit trigger" = false
  decide

/-- **Which triggers audit.**  In a run in which nothing goes wrong during the
visits, the trigger returns a state that holds an audit report, after a visit
to the security audit, exactly when the security audit may use its tools, the
plan that follows from the caller's metadata names it among known specialists,
the recursion limit admits a turn for each node of that plan, and the hand-offs
are in time. -/
theorem Cycle.audited_iff (rt : Runtime) (executions : Nat) (fresh : Fresh) (visits : Nat → Visit)
    (last : LoadContext) (payload : TriggerAuditRequest)
    (hcalm : ∀ n, (Cycle.after rt visits (Cycle.start fresh (triggerAudit payload)) n).Allows
      Calm rt (visits n)) :
    (∃ final, runCycle rt executions fresh visits last (triggerAudit payload) = .ok final ∧
      .securityAudit ∈
        (Cycle.after rt visits (Cycle.start fresh (triggerAudit payload)) executions).visited ∧
      final.auditReports ≠ []) ↔
    rt.AllowsAudit ∧
      (∃ plan, auditPlan? payload.metadata = some plan ∧ Specialist.securityAudit ∈ plan ∧
        2 * plan.length + 1 ≤ executions) ∧
      HandedOver rt executions fresh visits last (triggerAudit payload) := by
  have haligned : blank (triggerAudit payload).objective.val = false := aligned_triggerAudit payload
  have hmem : ∀ plan : List Specialist, AgentName.securityAudit ∈ turns plan ++ [.orchestrator] ↔
      Specialist.securityAudit ∈ plan := by
    intro plan
    have hcount := count_turns plan .securityAudit
    rw [← List.count_pos_iff, ← List.count_pos_iff, ← hcount]
    rfl
  rw [← plan?_triggerAudit rt fresh payload]
  constructor
  · intro h
    obtain ⟨final, hrun, hvisited, haudits⟩ := h
    have hover := handedOver_of_ok hrun
    obtain ⟨hended, rfl, -⟩ := runCycle_ok_iff.mp hrun
    refine ⟨allowsAudit_after haudits, ?_, hover⟩
    cases hplan : Orchestrator.plan? rt (buildGraphState fresh (triggerAudit payload)) with
    | none =>
        rw [visited_of_doomed ⟨Or.inr hplan, rfl⟩ hended] at hvisited
        simp at hvisited
    | some plan =>
        have hfinished := finished_of_undisturbed haligned hplan (hover.undisturbed hcalm)
        have henough := hfinished.ended_iff.mp hended
        rw [Cycle.after_of_ended henough hfinished.cursor, hfinished.records.visited,
          hmem] at hvisited
        exact ⟨plan, rfl, hvisited, henough⟩
  · intro h
    obtain ⟨htools, ⟨plan, hplan, hmember, henough⟩, hover⟩ := h
    have hfinished := finished_of_undisturbed haligned hplan (hover.undisturbed hcalm)
    have hended := hfinished.ended_iff.mpr henough
    have hvisited : .securityAudit ∈
        (Cycle.after rt visits (Cycle.start fresh (triggerAudit payload)) executions).visited := by
      rw [Cycle.after_of_ended henough hfinished.cursor, hfinished.records.visited, hmem]
      exact hmember
    exact ⟨_, runCycle_ok_iff.mpr ⟨hended, rfl, hover.returned⟩, hvisited,
      audited_after haligned htools (hover.undisturbed hcalm) hvisited⟩

/-- A calm trigger without metadata. -/
theorem Cycle.audited_calm :
    ∃ final, runCycle Reference.runtime 25 Reference.fresh Reference.calm ⟨0, 0⟩
        (triggerAudit {}) = .ok final ∧
      .securityAudit ∈ (Cycle.after Reference.runtime Reference.calm
        (Cycle.start Reference.fresh (triggerAudit {})) 25).visited ∧
      final.auditReports ≠ [] :=
  (Cycle.audited_iff Reference.runtime 25 Reference.fresh Reference.calm ⟨0, 0⟩ {}
    fun n => (Reference.undisturbed_calm n).calm).mpr
    ⟨by decide, ⟨[.securityAudit], by decide, by decide, by decide⟩, Reference.handedOver_calm⟩

/-- Metadata of the caller that names a plan or a scheduled agent. -/
def Reference.skippingPayloads : List TriggerAuditRequest :=
  [{ metadata := [("scheduled_agent", .str "monitor")] },
   { metadata := [("pending_agents", .list [])] },
   { metadata := [("pending_agents", .list [.str "monitor", .str "knowledge"])] }]

/-- On a calm day, with all tools allowed, none of these triggers ever visits
the security audit. -/
theorem Cycle.audit_skipped :
    Reference.runtime.AllowsAudit ∧ ∀ payload ∈ Reference.skippingPayloads,
      (∀ n, (Cycle.after Reference.runtime Reference.calm
        (Cycle.start Reference.fresh (triggerAudit payload)) n).Undisturbed Reference.runtime
          (Reference.calm n)) ∧
      ∀ n, .securityAudit ∉ (Cycle.after Reference.runtime Reference.calm
        (Cycle.start Reference.fresh (triggerAudit payload)) n).visited := by
  refine ⟨by decide, fun payload hpayload => ⟨Reference.undisturbed_calm, fun n hvisited => ?_⟩⟩
  have hplan : ∃ plan, auditPlan? payload.metadata = some plan ∧
      AgentName.securityAudit ∉ turns plan ++ [.orchestrator] := by
    simp only [Reference.skippingPayloads, List.mem_cons, List.not_mem_nil, or_false] at hpayload
    rcases hpayload with rfl | rfl | rfl
    · exact ⟨[.monitor], by decide, by decide⟩
    · exact ⟨[], by decide, by decide⟩
    · exact ⟨[.monitor, .knowledge], by decide, by decide⟩
  obtain ⟨plan, hplan, hskipped⟩ := hplan
  rw [← plan?_triggerAudit Reference.runtime Reference.fresh payload] at hplan
  have hfinished : Finished plan (Cycle.after Reference.runtime Reference.calm
      (Cycle.start Reference.fresh (triggerAudit payload)) (2 * plan.length + 1)) :=
    finished_of_undisturbed (aligned_triggerAudit payload) hplan Reference.undisturbed_calm
  have hinitial := Cycle.visited_prefix_of_ended hfinished.cursor n
  rw [hfinished.records.visited] at hinitial
  exact hskipped (hinitial.subset hvisited)

end Gestalt
