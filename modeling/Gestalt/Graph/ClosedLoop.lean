import Gestalt.Graph.Grammar
import Gestalt.Graph.Lineage
import Gestalt.Graph.Scores
import Gestalt.Orchestrator.Cohesion

/-!
# Gestalt.Graph.ClosedLoop

Cycles that are judged by what cycles wrote.

Elsewhere the evidence on cohesion may be anything.  Here it is computed from rows
the cycles stored, whichever of them were there at the time: what their commands
and audits can say is what the scores of the summaries come to.
-/

namespace Gestalt

open Effects Program

/-! ## evidence -/

namespace Orchestrator

variable {allows emits : Event Services → Prop} [Permissive emits] {rt : Runtime}
variable {s : GestaltGraphState}

/-- A summary among the artifacts has the score that the evidence it was given
yields. -/
def Evaluated (allows : Event Services → Prop) (rt : Runtime) (s : GestaltGraphState)
    (art : AgentArtifacts) : Prop :=
  ∀ summary, art.latestSummary = some summary → ∃ inputs,
    allows ⟨.call .computeCohesionInputs, .ok inputs⟩ ∧ summary.cohesionScore = cohesion rt s inputs

theorem steady_evaluated :
    Steady allows emits True s (finalize rt) (Evaluated allows rt s) := by
  have hscore : Steady allows emits True s (evaluateCohesion rt) fun score => ∃ inputs,
      allows ⟨.call .computeCohesionInputs, .ok inputs⟩ ∧ score = cohesion rt s inputs := by
    refine steady_read_bind ?_
    refine steady_bind (steady_send (fun _ _ => trivial) fun _ => Permissive.ordinary trivial)
      fun inputs hinputs => ?_
    exact steady_pure ⟨inputs, hinputs, rfl⟩
  refine steady_read_bind ?_
  refine steady_bind hscore fun cohesionScore hcohesion => ?_
  refine steady_bind (steady_validated _) fun securityRiskScore _ => ?_
  refine steady_bind steady_uuid4 fun cycleId _ => ?_
  refine steady_bind (steady_utcNow _) fun producedAt _ => ?_
  refine steady_pure fun summary hsummary => ?_
  obtain rfl := Option.some.inj hsummary
  exact hcohesion

/-- The builder of the orchestrator, with the score of the summary. -/
theorem spec_evaluated {context : AgentContextEnvelope} :
    Spec allows (fun _ => True) s (produceArtifacts rt context)
      (fun art s' => Routing allows rt s art s' ∧ Summarizes s art ∧ Evaluated allows rt s art)
      fun _ s' => AtMostIssued allows rt s s' := by
  have hrouted : Spec allows (fun _ => True) s (produceArtifacts rt context) _ _ :=
    spec_produceArtifacts (covers_true allows) (fun _ _ _ => Or.inr trivial)
      ((suits_any allows rt s .orchestrator).approvals rfl) (Or.inr trivial) (Or.inr trivial)
  have hclosing : Spec allows (fun _ => True) s (produceArtifacts rt context)
      (fun art _ => pendingAgents rt s = some [] → Evaluated allows rt s art)
      fun _ _ => True := by
    by_cases hpending : pendingAgents rt s = some []
    · refine spec_read_bind ?_
      rw [hpending]
      exact Spec.mono steady_evaluated (fun _ _ h _ => h.2) fun _ _ _ => trivial
    · exact hrouted.mono (fun _ _ _ h => absurd h hpending) fun _ _ _ => trivial
  refine (hrouted.and hclosing).mono ?_ fun _ _ h => h.1.1.1
  intro art s' hpost
  obtain ⟨⟨hrouting, -, hsummarizes⟩, hevaluated⟩ := hpost
  refine ⟨hrouting, hsummarizes, ?_⟩
  cases hrouting with
  | dispatch _ _ dispatches =>
      intro summary hsummary
      rw [dispatches.summary] at hsummary
      contradiction
  | finalize pending _ => exact hevaluated pending

/-- The score depends on the statistics alone. -/
theorem cohesion_congr {out : GestaltGraphState} (h : out.stats = s.stats)
    (inputs : CohesionInputs) : cohesion rt out inputs = cohesion rt s inputs := by
  simp only [cohesion, h]

/-- A summary that is there after a visit was there before, or ends the cycle with
the score of the evidence. -/
def Assesses (allows : Event Services → Prop) (rt : Runtime) (s out : GestaltGraphState) : Prop :=
  ∀ summary, out.latestSummary = some summary → s.latestSummary = some summary ∨
    (nextCursor .orchestrator out = .ended ∧ ∃ inputs,
      allows ⟨.call .computeCohesionInputs, .ok inputs⟩ ∧
        summary.cohesionScore = cohesion rt out inputs)

theorem spec_assesses (allows : Event Services → Prop) (rt : Runtime) (s : GestaltGraphState) :
    Spec allows (fun _ => True) s (run rt (agentAt rt .orchestrator))
      (fun out _ => Assesses allows rt s out) fun _ _ => True := by
  refine Spec.mono (spec_run (AtMostIssued allows rt s)
    (fun art s' => Routing allows rt s art s' ∧ Summarizes s art ∧ Evaluated allows rt s art)
    (covers_true allows) (fun _ _ _ => Or.inr ⟨trivial, trivial⟩) (fun _ => trivial) (Or.inl rfl)
    (fun _ _ _ => spec_evaluated.mono (fun _ _ h => h) fun _ _ h => ⟨h, trivial⟩) ?_) ?_
    fun _ _ h => h
  · intro art s' hpost
    obtain ⟨hrouting, hsummarizes, -⟩ := hpost
    have hleft := hrouting.atMostIssued
    refine ⟨hleft, ?_, AgentArtifacts.issuesPending_of_nil hsummarizes.commands⟩
    rcases hleft with rfl | ⟨approval, -, rfl⟩ <;> rfl
  · intro out s' hpost
    obtain ⟨-, ⟨-, art, ⟨hrouting, -, hevaluated⟩, hout⟩ | ⟨-, hleft, hout⟩⟩ := hpost
    · intro summary hsummary
      have hcompleted := hout
      obtain ⟨messages, report, -, -, rfl⟩ := hout
      cases hrouting with
      | dispatch _ _ dispatches =>
          left
          simpa [applyStateUpdate, dispatches.summary, GestaltGraphState.withApproval]
            using hsummary
      | finalize _ finalizes =>
          obtain ⟨written, hwritten, -⟩ := finalizes.summary
          obtain rfl : written = summary := by simpa [applyStateUpdate, hwritten] using hsummary
          obtain ⟨inputs, hinputs, hscore⟩ := hevaluated written hwritten
          refine Or.inr ⟨?_, inputs, hinputs, ?_⟩
          · simp [nextCursor, hcompleted.route_of_finalizes finalizes, followRoute]
          · rw [hscore]
            exact (cohesion_congr (by simp [applyStateUpdate, finalizes.stats]) inputs).symm
    · intro summary hsummary
      obtain ⟨e, report, -, rfl⟩ := hout
      left
      rcases hleft with rfl | ⟨approval, -, rfl⟩ <;> exact hsummary

end Orchestrator

/-- The statistics are rated, and a summary ended the cycle, with the score of some
evidence it was told. -/
structure Cycle.Assessed (told : CohesionInputs → Prop) (rt : Runtime) (c : Cycle) : Prop where
  rated : ∃ startedAt, c.state.Rated startedAt
  settled : ∀ summary, c.state.latestSummary = some summary → c.cursor = .ended ∧ ∃ inputs,
    told inputs ∧ summary.cohesionScore = Orchestrator.cohesion rt c.state inputs

/-- **One step** ends the cycle where it writes a summary, with the score of the
evidence it reads. -/
theorem Cycle.Assessed.step {told : CohesionInputs → Prop} {rt : Runtime} {v : Visit} {c : Cycle}
    (h : c.Assessed told rt) (hrange : c.state.stats.InRange)
    (htold : ∀ inputs, ⟨.call .computeCohesionInputs, .ok inputs⟩ ∈ c.events rt v → told inputs) :
    (c.step rt v).Assessed told rt := by
  obtain ⟨startedAt, hrated⟩ := h.rated
  refine ⟨⟨startedAt, rated_step rt v hrange hrated⟩, ?_⟩
  have hmoves := moves hrange rt v
  generalize c.step rt v = c' at hmoves ⊢
  -- a cycle that is at a node has no summary
  have hnone : ∀ {node}, c.cursor = .at node → c.state.latestSummary = none := by
    intro node hcursor
    refine Option.eq_none_iff_forall_ne_some.mpr fun summary hsummary => ?_
    rw [(h.settled summary hsummary).1] at hcursor
    contradiction
  intro summary hsummary
  cases hmoves with
  | stays _ => exact h.settled summary hsummary
  | rejected hcursor _ => simp [hnone hcursor] at hsummary
  | raised hcursor _ _ => simp [hnone hcursor] at hsummary
  | @visited node out hcursor hover hrun =>
      by_cases hnode : node = .orchestrator
      · subst hnode
        have hassesses :=
          (Orchestrator.spec_assesses (· ∈ c.events rt v) rt c.state).of_ok
            (fun ev hev => by rwa [events_of_handsOver hcursor hrange hover]) hrun
        obtain hbefore | ⟨hended, inputs, hinputs, hscore⟩ := hassesses summary hsummary
        · simp [hnone hcursor] at hbefore
        · exact ⟨hended, inputs, htold inputs hinputs, hscore⟩
      · have hkept := ((visitEffect_of_ok hrun).1.outcome.specialistVisit hnode).summary
        have hafter : out.latestSummary = some summary := hsummary
        rw [hkept, hnone hcursor] at hafter
        contradiction

namespace Blackboard

/-- The points the audits cost: a tenth of their average risk. -/
def auditPenalty (rows : List Row) : Int :=
  truncate ((computeCohesionInputs rows).recentAverageAuditRisk / 10)

theorem auditPenalty_bounds (rows : List Row) : 0 ≤ auditPenalty rows ∧ auditPenalty rows ≤ 10 := by
  have hnonneg : ∀ risk ∈ risks (recentAudits rows), 0 ≤ risk := by
    intro risk hmem
    obtain ⟨report, -, rfl⟩ := List.mem_map.mp hmem
    exact_mod_cast report.overallRiskScore.nonneg
  have hle : ∀ risk ∈ risks (recentAudits rows), risk ≤ 100 := by
    intro risk hmem
    obtain ⟨report, -, rfl⟩ := List.mem_map.mp hmem
    exact_mod_cast report.overallRiskScore.le_hundred
  have hlength : (risks (recentAudits rows)).length = (recentAudits rows).length :=
    List.length_map ..
  have hsum := List.sum_le_card_nsmul _ 100 hle
  rw [hlength, nsmul_eq_mul] at hsum
  have haverage : (computeCohesionInputs rows).recentAverageAuditRisk ≤ 100 := by
    rw [recentAverageAuditRisk_eq]
    exact div_le_of_le_mul₀ (Nat.cast_nonneg _) (by norm_num) (by rwa [mul_comm])
  have hpositive : 0 ≤ (computeCohesionInputs rows).recentAverageAuditRisk := by
    rw [recentAverageAuditRisk_eq]
    exact div_nonneg (List.sum_nonneg hnonneg) (Nat.cast_nonneg _)
  constructor
  · exact truncate_nonneg (by positivity)
  · have hten : truncate (100 / 10) = 10 := by decide +kernel
    rw [← hten]
    exact truncate_mono (by gcongr)

end Blackboard

/-- Over rows whose commands are pending, scores that were rated lose the points for
audits and nothing else. -/
theorem GestaltGraphState.Rated.cohesion_eq {s : GestaltGraphState} {startedAt : Int}
    (h : s.Rated startedAt) (rt : Runtime) {rows : List Row}
    (hpending : ∀ command, .command command ∈ rows → command.status = .pending) :
    (Orchestrator.cohesion rt s (Blackboard.computeCohesionInputs rows)).val =
      s.stats.gestaltCohesionScore - Blackboard.auditPenalty rows := by
  have hfailed : (Blackboard.computeCohesionInputs rows).failedCommands = 0 := by
    refine Blackboard.failedCommands_eq_zero fun command hmem => ?_
    obtain ⟨row, hrow, hcommand⟩ := List.mem_filterMap.mp hmem
    cases row with
    | command written =>
        obtain rfl := Option.some.inj hcommand
        simp [hpending written hrow]
    | _ => contradiction
  have hpenalty := Blackboard.auditPenalty_bounds rows
  have hbounds := h.scored.cohesion_bounds
  have hbase : s.stats.gestaltCohesionScore ≠ 0 := by omega
  simp only [Orchestrator.cohesion, hfailed, hbase, if_false, Score.clamp_val]
  change max 0 (min 100 (s.stats.gestaltCohesionScore - (((0 : Nat) : Int) * _ +
    max 0 (Blackboard.auditPenalty rows)))) = _
  simp only [Int.natCast_zero, Int.zero_mul]
  omega

namespace SharedBoard

variable {ι : Type} [DecidableEq ι] {rt : Runtime} {fresh : ι → Fresh}
variable {request : ι → CycleRequest} {turns : List (ι × Visit)}

/-- The evidence on cohesion is computed from rows that the cycles stored. -/
def ReadsEvidence (rt : Runtime) (fresh : ι → Fresh) (request : ι → CycleRequest)
    (turns : List (ι × Visit)) : Prop :=
  ∀ before i v after, turns = before ++ (i, v) :: after → ∀ inputs,
    ⟨.call .computeCohesionInputs, .ok inputs⟩ ∈
      ((run rt fresh request before).cycles i).events rt v →
    ∃ rows, rows.Subperm (run rt fresh request turns).rows ∧
      inputs = Blackboard.computeCohesionInputs rows

/-- What the cycles were told holds of the summaries they wrote. -/
theorem assessed_run {told : CohesionInputs → Prop} {before after : List (ι × Visit)}
    (hturns : turns = before ++ after)
    (htold : ∀ before i v after, turns = before ++ (i, v) :: after → ∀ inputs,
      ⟨.call .computeCohesionInputs, .ok inputs⟩ ∈
        ((run rt fresh request before).cycles i).events rt v → told inputs) :
    ∀ i, ((run rt fresh request before).cycles i).Assessed told rt := by
  induction before using List.reverseRecOn generalizing after with
  | nil =>
      refine fun i => ⟨⟨_, rated_buildGraphState (fresh i) (request i)⟩, fun summary hsummary => ?_⟩
      simp [run, Cycle.start, buildGraphState] at hsummary
  | append_singleton before turn ih =>
      obtain ⟨i, v⟩ := turn
      have hsplit : turns = before ++ (i, v) :: after := by simpa using hturns
      have hassessed := ih hsplit
      have hrange := ((sound_run rt fresh request before).cycles i).inRange
      rw [run_snoc]
      exact (Function.forall_update_iff _ fun _ (c : Cycle) => c.Assessed told rt).mpr
        ⟨(hassessed i).step hrange (htold before i v after hsplit), fun j _ => hassessed j⟩

/-- **Cohesion in the closed loop.**  Among any number of cycles that share a
blackboard, in whatever order they take their turns and whatever fails: where the
evidence is computed from rows the cycles stored, every summary has the cohesion
score of its state less a tenth of the average risk of some of their audits.  No
command counts as failed, no score of 0 is taken for a missing one and nothing is
clamped, so no cycle ends below 68. -/
theorem cohesion_run (rt : Runtime) (fresh : ι → Fresh) (request : ι → CycleRequest)
    (turns : List (ι × Visit)) (hreads : ReadsEvidence rt fresh request turns) (i : ι)
    (summary : GestaltSummary) :
    let d := run rt fresh request turns
    (d.cycles i).state.latestSummary = some summary →
      ∃ rows, rows.Subperm d.rows ∧
        summary.cohesionScore.val =
          (d.cycles i).state.stats.gestaltCohesionScore - Blackboard.auditPenalty rows ∧
        68 ≤ summary.cohesionScore.val := by
  intro d hsummary
  have hassessed := assessed_run (List.append_nil turns).symm hreads i
  obtain ⟨-, inputs, ⟨rows, hrows, rfl⟩, hscore⟩ := hassessed.settled summary hsummary
  have hpending : ∀ command, .command command ∈ rows → command.status = .pending :=
    fun command hmem => (sound_run rt fresh request turns).rows command (hrows.subset hmem)
  obtain ⟨startedAt, hrated⟩ := hassessed.rated
  have hvalue := hrated.cohesion_eq rt hpending
  rw [← hscore] at hvalue
  have hbounds := hrated.scored.cohesion_bounds
  have hpenalty := Blackboard.auditPenalty_bounds rows
  refine ⟨rows, hrows, hvalue, ?_⟩
  omega

end SharedBoard

namespace Reference

/-- A calm visit that is told what the rows say. -/
def told (rows : List Row) : Visit where
  received := ⟨0, 0⟩
  answers _
    | .call .computeCohesionInputs => .ok (Blackboard.computeCohesionInputs rows)
    | op => answer (fun _ => false) op

/-- Visits that are told what stored rows say read the evidence off the blackboard. -/
theorem readsEvidence_told {ι : Type} [DecidableEq ι] {rt : Runtime} {fresh : ι → Fresh}
    {request : ι → CycleRequest} {turns : List (ι × Visit)}
    (h : ∀ turn ∈ turns, ∃ rows, turn.2 = told rows ∧
      rows.Subperm (SharedBoard.run rt fresh request turns).rows) :
    SharedBoard.ReadsEvidence rt fresh request turns := by
  intro before i v after hturns inputs hev
  obtain ⟨rows, rfl, hrows⟩ := h (i, v) (by simp [hturns])
  obtain ⟨n, hn⟩ := Cycle.answer_of_mem_events hev
  obtain rfl : inputs = Blackboard.computeCohesionInputs rows := by
    simpa [told] using hn
  exact ⟨rows, hrows, rfl⟩

/-- A request for an audit of an error that was met. -/
def securityRequest : CycleRequest :=
  { watchRequest with
    metadata := [("scheduled_agent", .str "security_audit"), ("last_error", .str "unavailable")] }

/-- The board after the audit. -/
def auditedBoard : SharedBoard Unit :=
  SharedBoard.run runtime (fun _ => fresh) (fun _ => securityRequest)
    [((), told []), ((), told [])]

/-- The audit, and the turn of the orchestrator that is told of it. -/
def auditedTurns : List (Unit × Visit) :=
  [((), told []), ((), told []), ((), told auditedBoard.rows)]

theorem readsEvidence_audited :
    SharedBoard.ReadsEvidence runtime (fun _ : Unit => fresh) (fun _ => securityRequest)
      auditedTurns := by
  -- the rows of the first two turns are there after the third
  have hrows : auditedBoard.rows.Subperm (SharedBoard.run runtime (fun _ : Unit => fresh)
      (fun _ => securityRequest) auditedTurns).rows :=
    (List.sublist_append_left _ _).subperm
  refine readsEvidence_told fun turn hturn => ?_
  simp only [auditedTurns, List.mem_cons, List.not_mem_nil, or_false] at hturn
  rcases hturn with rfl | rfl | rfl
  · exact ⟨[], rfl, List.nil_subperm⟩
  · exact ⟨[], rfl, List.nil_subperm⟩
  · exact ⟨auditedBoard.rows, rfl, hrows⟩

end Reference

/-- An audit found an error, and the summary of its cycle is told of it. -/
theorem SharedBoard.cohesion_run_audited :
    let d := run Reference.runtime (fun _ : Unit => Reference.fresh)
      (fun _ => Reference.securityRequest) Reference.auditedTurns
    ∃ summary rows, (d.cycles ()).state.latestSummary = some summary ∧ rows.Subperm d.rows ∧
      summary.cohesionScore.val =
        (d.cycles ()).state.stats.gestaltCohesionScore - Blackboard.auditPenalty rows ∧
      summary.cohesionScore.val = 98 ∧ (d.cycles ()).state.stats.gestaltCohesionScore = 100 := by
  intro d
  have hscore : (d.cycles ()).state.latestSummary.map (fun s => s.cohesionScore.val) =
      some 98 := by decide +kernel
  have hstats : (d.cycles ()).state.stats.gestaltCohesionScore = 100 := by decide +kernel
  obtain ⟨summary, hsummary, hvalue⟩ := Option.map_eq_some_iff.mp hscore
  obtain ⟨rows, hrows, hcohesion, -⟩ := cohesion_run Reference.runtime
    (fun _ : Unit => Reference.fresh) (fun _ => Reference.securityRequest) Reference.auditedTurns
    Reference.readsEvidence_audited () summary hsummary
  exact ⟨summary, rows, hsummary, hrows, hcohesion, hvalue, hstats⟩

end Gestalt
