import Mathlib.Algebra.Order.BigOperators.Group.List
import Gestalt.Graph.Scores

/-!
# Gestalt.Graph.Alarms

When the monitor asks for an audit.

It does so for a risk of 70 or for five open findings, and findings are those of
the audits the cycle has had.  Errors alone make 20 points and an audit finds three
things at most, so the monitor asks for an audit only where two were made before.
A plan that is not the caller's own begins with the monitor, where it has one.
-/

namespace Gestalt

open Effects Program

/-- The monitor has asked for an audit. -/
def GestaltGraphState.Alarmed (s : GestaltGraphState) : Prop :=
  ∃ command ∈ s.commands, command.issuedBy = AgentName.monitor.field ∧
    command.commandType = .audit

/-! ## one visit -/

/-- An audit finds three things at most. -/
theorem SecurityAudit.findingCount_le (rt : Runtime) (s : GestaltGraphState) (errorRatio : Rat) :
    findingCount rt s errorRatio ≤ 3 := by
  unfold findingCount
  split <;> split <;> split <;> omega

/-- Five findings are open where the monitor asks for an audit. -/
theorem Monitor.Observed.findings_of_intervention {allows : Event Services → Prop} {rt : Runtime}
    {s : GestaltGraphState} {snapshot : MonitorSnapshot} {stats : GestaltStats}
    (h : Observed allows rt s snapshot stats)
    (hintervenes : stats.shouldTriggerSecurityIntervention = true) :
    5 ≤ totalFindings s.auditReports := by
  have hrisk := h.risk
  obtain ⟨errorRate, -, hscore⟩ := hrisk
  obtain ⟨⟨queue, latency, errorRatio, -, -, -, hsnapshot⟩, updatedAt, rfl⟩ := h
  obtain ⟨errorRate', consistency, collaboration, -, -, rfl⟩ :=
    exists_errorRate_of_snapshot hsnapshot
  have hpoints := errorPoints_le errorRate
  rw [GestaltStats.shouldTriggerSecurityIntervention, decide_eq_true_iff, hscore] at hintervenes
  rcases hintervenes with hrisk | hfindings
  · change 5 ≤ s.openFindings
    unfold riskScore at hrisk
    unfold errorPoints at hpoints
    omega
  · change (5 : Int) ≤ (totalFindings s.auditReports : Nat) at hfindings
    omega

/-- **Who sounds the alarm.**  It is the monitor, with five findings open. -/
theorem Cycle.findings_of_alarmed {rt : Runtime} {v : Visit} {c : Cycle} {node : AgentName}
    {out : GestaltGraphState} (hrun : (c.agentRun rt v node).result = .ok out)
    (h : out.Alarmed) :
    c.state.Alarmed ∨ (node = .monitor ∧ 5 ≤ totalFindings c.state.auditReports) := by
  obtain ⟨command, hmem, hissued, haudit⟩ := h
  by_cases hnode : node = .monitor
  · subst hnode
    cases (visitEffect_of_ok hrun).1 with
    | failed _ update =>
        obtain ⟨e, report, -, rfl⟩ := update
        refine Or.inl ⟨command, ?_, hissued, haudit⟩
        simpa [applyStateUpdate, failureArtifacts] using hmem
    | completed _ _ _ emitted update =>
        obtain ⟨messages, report, -, -, rfl⟩ := update
        cases emitted with
        | monitor observed optimizes audits commands _ _ =>
            simp only [applyStateUpdate, commands, List.mem_append] at hmem
            rcases hmem with hmem | hmem | hmem
            · exact Or.inl ⟨command, hmem, hissued, haudit⟩
            · have htype := (optimizes.ok_of_mem command hmem).type_eq
              rw [haudit] at htype
              contradiction
            · exact Or.inr ⟨rfl, observed.findings_of_intervention (audits.condition_of_mem hmem)⟩
  · obtain ⟨entry, rfl, hproduces⟩ :=
      (spec_produces rt node c.state).of_ok (fun _ _ => trivial) hrun
    obtain ⟨commands, hcommands, hfrom⟩ := hproduces.commands
    rw [hcommands, List.mem_append] at hmem
    rcases hmem with hmem | hmem
    · exact Or.inl ⟨command, hmem, hissued, haudit⟩
    · rw [(hfrom command hmem).issuedBy] at hissued
      have hname : entry.agent.name = AgentName.monitor.name := congrArg MinStr.val hissued
      exact absurd (AgentName.name_injective hname) hnode

/-- Audit reports have three findings at most. -/
def GestaltGraphState.FindsFew (s : GestaltGraphState) : Prop :=
  ∀ report ∈ s.auditReports, report.findings.length ≤ 3

theorem VisitEffect.findsFew {allows : Event Services → Prop} {rt : Runtime}
    {s out : GestaltGraphState} {node : AgentName} (h : VisitEffect allows rt s node out)
    (hfew : s.FindsFew) : out.FindsFew := by
  cases h with
  | completed specialist _ artifacts emitted update =>
      obtain ⟨messages, report, -, -, rfl⟩ := update
      intro audit hmem
      rcases List.mem_append.mp hmem with hmem | hmem
      · exact hfew audit hmem
      · have haudit := artifacts.audit.mp (by simp [Option.mem_toList.mp hmem])
        subst haudit
        cases emitted with
        | securityAudit _ _ _ auditReport found _ _ _ =>
            rw [auditReport] at hmem
            obtain rfl := List.mem_singleton.mp hmem
            rw [found]
            exact SecurityAudit.findingCount_le rt s _
  | failed _ update =>
      obtain ⟨e, report, -, rfl⟩ := update
      simpa [GestaltGraphState.FindsFew, applyStateUpdate, failureArtifacts] using hfew
  | routed _ routing _ _ update =>
      rw [GestaltGraphState.FindsFew, routing.auditReports update]
      exact hfew
  | routeFailed left _ _ update =>
      obtain ⟨e, report, -, rfl⟩ := update
      rcases left with rfl | ⟨approval, -, rfl⟩ <;>
        simpa [GestaltGraphState.FindsFew, applyStateUpdate, failureArtifacts,
          GestaltGraphState.withApproval] using hfew

theorem GestaltGraphState.FindsFew.totalFindings_le {s : GestaltGraphState} (h : s.FindsFew) :
    totalFindings s.auditReports ≤ s.auditReports.length * 3 := by
  have hall : ∀ count ∈ s.auditReports.map fun report => report.findings.length, count ≤ 3 := by
    intro count hmem
    obtain ⟨report, hreport, rfl⟩ := List.mem_map.mp hmem
    exact h report hreport
  have hsum := List.sum_le_card_nsmul _ 3 hall
  rw [List.length_map] at hsum
  exact hsum

/-! ## plans that begin with the monitor -/

/-- On a desk whose plan has no `a` behind its head, no one but `a` has worked when
`a` was dispatched last. -/
structure Desk.Opens (a : Specialist) (todo : List (Option Specialist)) (journal : List Entry)
    (d : Desk) : Prop where
  turn : ∀ b : Specialist, d.turn = some b.agent → d.last = some b
  first : d.last = none → d.todo = todo ∧ ∀ b, .worked b ∉ journal
  behind : d.last.isSome → some a ∉ d.todo
  alone : d.last = some a → ∀ b, .worked b ∈ journal → b = a

section Desks

variable {a : Specialist} {todo : List (Option Specialist)} {journal : List Entry} {d d' : Desk}
variable {entry : Entry}

/-- An entry that is no work, on a desk that keeps its plan and its last dispatch. -/
theorem Desk.Opens.idle (h : d.Opens a todo journal) (hlast : d'.last = d.last)
    (htodo : d'.todo = d.todo) (hentry : ∀ b, .worked b ≠ entry)
    (hturn : ∀ b : Specialist, d'.turn = some b.agent → d.last = some b) :
    d'.Opens a todo (journal ++ [entry]) where
  turn := hlast ▸ hturn
  first hnone := by
    obtain ⟨hplan, hworked⟩ := h.first (hlast ▸ hnone)
    exact ⟨htodo.trans hplan, fun b => by simp [hworked b, hentry b]⟩
  behind hsome := by
    rw [htodo]
    exact h.behind (hlast ▸ hsome)
  alone hlast' b hmem := by
    have hmem' : .worked b ∈ journal := by simpa [hentry b] using hmem
    exact h.alone (hlast ▸ hlast') b hmem'

theorem Desk.Opens.enter (h : d.Opens a todo journal) (hbehind : some a ∉ todo.tail)
    (henter : d.enter entry = some d') : d'.Opens a todo (journal ++ [entry]) := by
  cases entry with
  | failed node =>
      obtain ⟨-, hd⟩ : d.turn = some node ∧ some _ = some d' := by simpa [Desk.enter] using henter
      obtain rfl := Option.some.inj hd
      refine h.idle rfl rfl (fun b => by simp) fun b hturn => ?_
      by_cases hnode : node = .orchestrator
      · simp only [hnode, if_true] at hturn
        obtain ⟨b', hlast, hagent⟩ := Option.map_eq_some_iff.mp hturn
        rw [hlast, Specialist.agent_injective hagent]
      · simp only [hnode, if_false] at hturn
        exact absurd (Option.some.inj hturn).symm b.agent_ne_orchestrator
  | worked b =>
      obtain ⟨hturn, hd⟩ : d.turn = some b.agent ∧ some _ = some d' := by
        simpa [Desk.enter] using henter
      obtain rfl := Option.some.inj hd
      have hlast := h.turn b hturn
      refine ⟨fun b' hturn' => ?_, fun hnone => ?_, h.behind, fun hlast' b' hmem => ?_⟩
      · exact absurd (Option.some.inj hturn').symm b'.agent_ne_orchestrator
      · simp [hlast] at hnone
      · rcases List.mem_append.mp hmem with hmem | hmem
        · exact h.alone hlast' b' hmem
        · obtain rfl : b' = b := by simpa using hmem
          exact Option.some.inj (hlast.symm.trans hlast')
  | dispatched b =>
      obtain ⟨⟨-, hhead⟩, hd⟩ :
          (d.turn = some .orchestrator ∧ d.todo.head? = some (some b)) ∧ some _ = some d' := by
        simpa [Desk.enter] using henter
      obtain rfl := Option.some.inj hd
      refine ⟨fun b' hturn => ?_, fun hnone => by simp at hnone, fun _ hmem => ?_,
        fun hlast b' hmem => ?_⟩
      · rw [Specialist.agent_injective (Option.some.inj hturn)]
      · cases hlast : d.last with
        | none => exact hbehind ((h.first hlast).1 ▸ hmem)
        | some c => exact h.behind (by simp [hlast]) (List.mem_of_mem_tail hmem)
      · obtain rfl : b = a := Option.some.inj hlast
        have hmem' : .worked b' ∈ journal := by simpa using hmem
        cases hlast : d.last with
        | none => exact absurd hmem' ((h.first hlast).2 b')
        | some c =>
            exact absurd (List.mem_of_mem_head? hhead) (h.behind (by simp [hlast]))
  | finalized =>
      obtain ⟨-, hd⟩ : (d.turn = some .orchestrator ∧ d.todo = []) ∧ some _ = some d' := by
        simpa [Desk.enter] using henter
      obtain rfl := Option.some.inj hd
      exact h.idle rfl rfl (fun b => by simp) fun b hturn => by simp at hturn

/-- Whatever the journal, the plan opens with `a` or does without it. -/
theorem Desk.opens_of_replay (hbehind : some a ∉ todo.tail)
    (h : (⟨some .orchestrator, none, todo⟩ : Desk).replay journal = some d) :
    d.Opens a todo journal := by
  induction journal using List.reverseRecOn generalizing d with
  | nil =>
      obtain rfl := Option.some.inj h
      refine ⟨fun b hturn => ?_, fun _ => ⟨rfl, by simp⟩, fun h => by simp at h,
        fun h => by simp at h⟩
      exact absurd (Option.some.inj hturn).symm b.agent_ne_orchestrator
  | append_singleton journal entry ih =>
      rw [replay_snoc] at h
      obtain ⟨d₁, hreplay, henter⟩ := Option.bind_eq_some_iff.mp h
      exact (ih hreplay).enter hbehind henter

end Desks

/-- A plan that is not the caller's own has no monitor behind its head. -/
theorem Orchestrator.monitor_not_mem_tail (rt : Runtime) {s : GestaltGraphState}
    (hnone : s.metadata.get? "pending_agents" = none) :
    some Specialist.monitor ∉ (agenda rt s).tail := by
  have hagenda : agenda rt s = (determineNextAgents rt s).map Specialist.ofName? := by
    simp [agenda, pendingAgents, hnone, Specialist.ofValue?, Value.asStr?, Function.comp_def]
  rw [hagenda]
  cases hrequested : requestedAgent s with
  | some name => simp [determineNextAgents_eq_requestedAgent, hrequested]
  | none =>
      obtain ⟨plan, hplan, -, hordered, -⟩ := exists_derived rt hrequested
      have htail : plan.tail.Sublist testOrder.tail := hordered.tail
      rw [hplan, List.map_map, ← List.map_tail]
      intro hmem
      obtain ⟨b, hb, hname⟩ := List.mem_map.mp hmem
      obtain rfl : b = .monitor := by simpa using hname
      exact absurd (htail.subset hb) (by decide)

/-! ## runs -/

section Runs

variable {rt : Runtime} {v : Visit} {c : Cycle} {journal : List Entry} {d d₀ : Desk}

/-- **One step** that sounds the alarm starts at the monitor, with five findings. -/
theorem Cycle.findings_of_alarmed_step (hrange : c.state.stats.InRange)
    (h : (c.step rt v).state.Alarmed) :
    c.state.Alarmed ∨ (c.cursor = .at .monitor ∧ 5 ≤ totalFindings c.state.auditReports) := by
  obtain hkept | ⟨node, hcursor, -, hrun⟩ := (moves hrange rt v).state_cases
  · rw [hkept] at h
    exact Or.inl h
  · refine (findings_of_alarmed hrun h).imp_right fun hfindings => ?_
    obtain ⟨rfl, hfindings⟩ := hfindings
    exact ⟨hcursor, hfindings⟩

theorem Cycle.findsFew_step (hrange : c.state.stats.InRange) (h : c.state.FindsFew) :
    (c.step rt v).state.FindsFew := by
  obtain hkept | ⟨node, -, -, hrun⟩ := (moves hrange rt v).state_cases
  · rw [hkept]
    exact h
  · exact (visitEffect_of_ok hrun).1.findsFew h

/-- A cycle at the monitor has had no audit, where the plan has the monitor at its
head or not at all. -/
theorem Journaled.auditReports_eq_nil (h : Journaled rt d₀ journal d c)
    (hopens : d.Opens .monitor d₀.todo journal) (hcursor : c.cursor = .at .monitor) :
    c.state.auditReports = [] := by
  obtain ⟨-, hturn⟩ := h.at hcursor
  have hlast : d.last = some .monitor := hopens.turn .monitor hturn
  have hnone : journal.count (.worked .securityAudit) = 0 :=
    List.count_eq_zero.mpr fun hmem => by simpa using hopens.alone hlast _ hmem
  have haudits : c.state.auditReports.length = journal.count (.worked .securityAudit) :=
    congrArg View.audits h.view
  exact List.length_eq_zero_iff.mp (haudits.trans hnone)

/-- Errors alone make twenty points. -/
theorem Monitor.riskScore_zero_le (errorRate : Ratio) : riskScore 0 errorRate.val ≤ 20 := by
  have hpercent := truncate_percent_nonneg errorRate
  unfold riskScore
  omega

/-- The journal of a cycle that was never alarmed. -/
structure Unalarmed (rt : Runtime) (d₀ : Desk) (journal : List Entry) (d : Desk) (c : Cycle) :
    Prop where
  journaled : Journaled rt d₀ journal d c
  silent : ¬ c.state.Alarmed
  risk : c.state.stats.securityRiskScore ≤ 20

theorem Unalarmed.step (h : Unalarmed rt d₀ journal d c) (hrange : c.state.stats.InRange)
    (hfirst : d₀ = ⟨some .orchestrator, none, d₀.todo⟩) (hbehind : some .monitor ∉ d₀.todo.tail)
    (v : Visit) : ∃ journal' d', Unalarmed rt d₀ journal' d' (c.step rt v) := by
  obtain ⟨journal', d', hjournaled⟩ := h.journaled.step hrange v
  have hopens : d.Opens .monitor d₀.todo journal :=
    Desk.opens_of_replay hbehind (hfirst ▸ h.journaled.admitted)
  have hnone : c.cursor = .at .monitor → c.state.auditReports = [] :=
    h.journaled.auditReports_eq_nil hopens
  refine ⟨journal', d', hjournaled, fun halarmed => ?_, ?_⟩
  · obtain hbefore | ⟨hcursor, hfindings⟩ := Cycle.findings_of_alarmed_step hrange halarmed
    · exact h.silent hbefore
    · simp [hnone hcursor, totalFindings] at hfindings
  · obtain ⟨⟨hcursor, -⟩, errorRate, hrisk⟩ | ⟨-, hkept⟩ := Cycle.risk_step rt v hrange
    · rw [hrisk, GestaltGraphState.openFindings, hnone hcursor]
      exact Monitor.riskScore_zero_le errorRate
    · rw [hkept]
      exact h.risk

end Runs

/-- **Alarms.**  In every reachable state of every cycle, whatever telemetry and the
services answer and whatever fails: the monitor has asked for an audit only if two
were made in the cycle.  Where the request brings neither a plan nor a route along,
it never does, the risk score stays at twenty or below, and the policy never asks
for heightened guardrails. -/
theorem Cycle.alarms_after (rt : Runtime) (fresh : Fresh) (request : CycleRequest)
    (visits : Nat → Visit) (n : Nat) :
    let s := (after rt visits (start fresh request) n).state
    (s.Alarmed → 2 ≤ s.auditReports.length) ∧
    (request.metadata.get? "next_node" = none → request.metadata.get? "pending_agents" = none →
      ¬ s.Alarmed ∧ s.stats.securityRiskScore ≤ 20 ∧
        s.stats.deriveModelPolicy.requireHeightenedGuardrails = false) := by
  refine ⟨?_, fun hroute hplan => ?_⟩
  · have hfew : ∀ n, (after rt visits (start fresh request) n).state.FindsFew := by
      intro n
      induction n with
      | zero => exact fun report hmem => by simp [after, start, buildGraphState] at hmem
      | succ n ih => exact findsFew_step (sound_after rt fresh request visits n).inRange ih
    induction n with
    | zero =>
        rintro ⟨command, hmem, -⟩
        simp [after, start, buildGraphState] at hmem
    | succ n ih =>
        intro halarmed
        have hrange := (sound_after rt fresh request visits n).inRange
        have hlonger := (appendsTo_step hrange rt (visits n)).auditReports.length_le
        refine le_trans ?_ hlonger
        obtain hbefore | ⟨-, hfindings⟩ := findings_of_alarmed_step hrange halarmed
        · exact ih hbefore
        · have hle := (hfew n).totalFindings_le
          omega
  · have hunalarmed : ∃ journal d, Unalarmed rt (Desk.opening rt (buildGraphState fresh request))
        journal d (after rt visits (start fresh request) n) := by
      induction n with
      | zero =>
          refine ⟨[], _, (journaled_start rt fresh hroute).1, ?_,
            by simp [after, start, buildGraphState]⟩
          rintro ⟨command, hmem, -⟩
          simp [after, start, buildGraphState] at hmem
      | succ n ih =>
          obtain ⟨journal, d, h⟩ := ih
          exact h.step (sound_after rt fresh request visits n).inRange rfl
            (Orchestrator.monitor_not_mem_tail rt hplan) (visits n)
    obtain ⟨journal, d, -, hsilent, hrisk⟩ := hunalarmed
    refine ⟨hsilent, hrisk, ?_⟩
    simp only [GestaltStats.deriveModelPolicy, decide_eq_false_iff_not]
    omega

/-- The request for the monitor alone brings neither along. -/
theorem Cycle.alarms_after_monitor :
    (after Reference.runtime Reference.calm (start Reference.fresh Reference.monitorRequest)
      2).state.stats.securityRiskScore ≤ 20 :=
  ((alarms_after Reference.runtime Reference.fresh Reference.monitorRequest Reference.calm 2).2
    (by decide) (by decide)).2.1

end Gestalt
