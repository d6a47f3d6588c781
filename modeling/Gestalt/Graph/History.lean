import Gestalt.Graph.Visit

/-!
# Gestalt.Graph.History

What holds in every reachable state of every cycle: the cycle keeps its
identity, everything it holds carries its trace id, its histories only grow,
and its scores stay in range.  Each is an invariant of updates, hence of
visits, hence of runs.  What else holds of every run follows in the same way:
the scores stay in range, so that only an expired approval can keep a state
from being handed over, and a cycle shorter than the lifetime of an approval
has none.
-/

namespace Gestalt

open Effects Program

/-! ## traceability and growth -/

/-- Everything the state holds carries the trace id `t`. -/
structure GestaltGraphState.Traced (t : Uuid) (s : GestaltGraphState) : Prop where
  messages : ∀ m ∈ s.messages, m.traceId = t
  commands : ∀ c ∈ s.commands, c.traceId = t
  memories : ∀ m ∈ s.memories, m.traceId = t
  proposals : ∀ p ∈ s.optimizationProposals, p.traceId = t
  audits : ∀ r ∈ s.auditReports, r.Traced t
  reports : ∀ r ∈ s.executionReports, r.Traced t
  approvals : ∀ a ∈ s.approvals, a.traceId = t
  summary : ∀ r ∈ s.latestSummary, r.traceId = t

/-- Every history of `s` is a prefix of that of `s'`. -/
structure GestaltGraphState.AppendsTo (s s' : GestaltGraphState) : Prop where
  messages : s.messages <+: s'.messages
  commands : s.commands <+: s'.commands
  memories : s.memories <+: s'.memories
  decisions : s.decisions <+: s'.decisions
  executionReports : s.executionReports <+: s'.executionReports
  optimizationProposals : s.optimizationProposals <+: s'.optimizationProposals
  auditReports : s.auditReports <+: s'.auditReports
  approvals : s.approvals <+: s'.approvals

/-- Nothing changed is an extension. -/
theorem GestaltGraphState.AppendsTo.refl (s : GestaltGraphState) : s.AppendsTo s := by
  constructor <;> exact List.prefix_rfl

/-- The identity of a cycle. -/
structure GestaltGraphState.SameCycle (s s' : GestaltGraphState) : Prop where
  traceId : s'.traceId = s.traceId
  cycleId : s'.cycleId = s.cycleId
  source : s'.source = s.source
  objective : s'.objective = s.objective

section Update

variable {allows : Event Services → Prop} {rt : Runtime} {node : AgentName}
variable {s out : GestaltGraphState}

theorem Update.sameCycle (u : Update allows rt node s out) : s.SameCycle out := by
  rw [u.out_eq]
  exact ⟨rfl, rfl, rfl, rfl⟩

theorem Update.appendsTo (u : Update allows rt node s out) : s.AppendsTo out := by
  rw [u.out_eq]
  constructor <;> exact List.prefix_append _ _

/-- The report of an update is traced when its artifacts are. -/
theorem Update.traced_report (u : Update allows rt node s out) : u.report.Traced s.traceId := by
  obtain ⟨status, h⟩ := u.reported
  refine ⟨h.traceId, ?_, ?_⟩
  · rw [h.commands]
    exact u.traced_artifacts.commands
  · rw [h.memories]
    exact u.traced_artifacts.memories

/-- An update of a traced state is traced. -/
theorem Update.traced (u : Update allows rt node s out) {t : Uuid} (ht : s.traceId = t)
    (h : s.Traced t) : out.Traced t := by
  subst ht
  have happend : ∀ {α : Type} {xs ys : List α} {p : α → Prop}, (∀ x ∈ xs, p x) →
      (∀ y ∈ ys, p y) → ∀ z ∈ xs ++ ys, p z := by
    intro α xs ys p hx hy z hz
    exact (List.mem_append.mp hz).elim (hx z) (hy z)
  have hart := u.traced_artifacts
  rw [u.out_eq]
  constructor
  · exact happend h.messages u.traced_messages
  · exact happend h.commands hart.commands
  · exact happend h.memories hart.memories
  · exact happend h.proposals hart.proposals
  · exact happend h.audits (by simpa using hart.audit)
  · exact happend h.reports (by simpa using u.traced_report)
  · exact happend h.approvals fun a ha => (u.approved a ha).traceId
  · intro r hr
    rcases Option.or_eq_some_iff.mp hr with hr | ⟨-, hr⟩
    · exact hart.summary r hr
    · exact h.summary r hr

/-- Merging a stats report puts its scores into the statistics. -/
theorem inRange_applyStatsReport (stats : GestaltStats) (report : GestaltStatsReport) :
    (applyStatsReport stats report).InRange := by
  have hfold : ∀ (snapshots : List AgentHealthSnapshot) (stats : GestaltStats), stats.InRange →
      (snapshots.foldl (fun stats snapshot =>
        stats.setAgentHealth snapshot.agentName.val snapshot.status) stats).InRange := by
    intro snapshots
    induction snapshots with
    | nil => exact fun _ h => h
    | cons snapshot snapshots ih => exact fun stats h => ih _ ⟨h.cost, h.risk, h.cohesion⟩
  exact hfold _ _ ⟨⟨Score.nonneg _, Score.le_hundred _⟩, ⟨Score.nonneg _, Score.le_hundred _⟩,
    ⟨Score.nonneg _, Score.le_hundred _⟩⟩

/-- An update keeps the scores in range. -/
theorem Update.inRange (u : Update allows rt node s out) (h : s.stats.InRange) :
    out.stats.InRange := by
  rw [u.out_eq]
  cases hreport : u.artifacts.statsReport with
  | none => simpa [applyStateUpdate, hreport] using h
  | some report => simpa [applyStateUpdate, hreport] using inRange_applyStatsReport s.stats report

end Update

/-! ## steps -/

/-- The hand-off happens before any approval of the state expires. -/
def Cycle.HandsOver (v : Visit) (c : Cycle) : Prop :=
  ∀ a ∈ c.state.approvals, v.received.now < a.expiresAt

/-- A state with scores in range survives a hand-off, as itself, exactly
before its first approval expires. -/
theorem modelValidate_modelDump_iff {s s' : GestaltGraphState} (h : s.stats.InRange)
    (ctx : LoadContext) :
    GestaltGraphState.modelValidate ctx s.modelDump = .ok s' ↔
      s' = s ∧ ∀ a ∈ s.approvals, ctx.now < a.expiresAt :=
  Schema.load_graphState_ok_iff h

/-- A step in which the hand-off succeeds is a visit with the state itself. -/
theorem Cycle.step_of_handsOver {rt : Runtime} {v : Visit} {c : Cycle} {node : AgentName}
    (hcursor : c.cursor = .at node) (hrange : c.state.stats.InRange) (hover : c.HandsOver v) :
    c.step rt v = c.visit rt v.answers node c.state := by
  have hload := (modelValidate_modelDump_iff hrange v.received).mpr ⟨rfl, hover⟩
  simp [step, hcursor, hload]

/-- The run of the agent at the node, on the state of the cycle. -/
def Cycle.agentRun (rt : Runtime) (v : Visit) (c : Cycle) (node : AgentName) :
    Outcome Services GestaltGraphState Exc GestaltGraphState :=
  (run rt (agentAt rt node)).run v.answers c.state

/-- Every event of the step is one `allows` holds of. -/
def Cycle.Allows (allows : Event Services → Prop) (rt : Runtime) (v : Visit) (c : Cycle) : Prop :=
  ∀ node, c.cursor = .at node → ∀ ev ∈ (c.agentRun rt v node).trace, allows ev

/-- Without a restriction every event is allowed. -/
theorem Cycle.allows_any (rt : Runtime) (v : Visit) (c : Cycle) : c.Allows (fun _ => True) rt v :=
  fun _ _ _ _ => trivial

/-- A run that returns ends in one of the four ways. -/
theorem Cycle.visitOutcome_of_ok {allows : Event Services → Prop} {rt : Runtime} {v : Visit}
    {c : Cycle} {node : AgentName} {out : GestaltGraphState}
    (hallows : ∀ ev ∈ (c.agentRun rt v node).trace, allows ev)
    (h : (c.agentRun rt v node).result = .ok out) : VisitOutcome allows rt c.state node out :=
  (spec_visit allows True node fun _ _ _ => Or.inr trivial).of_ok hallows h

/-- What a run that returns did, by the events of its trace. -/
theorem Cycle.visitEffect_of_ok {rt : Runtime} {v : Visit} {c : Cycle} {node : AgentName}
    {out : GestaltGraphState} (h : (c.agentRun rt v node).result = .ok out) :
    VisitEffect (· ∈ (c.agentRun rt v node).trace) rt c.state node out ∧
      Timed (· ∈ (c.agentRun rt v node).trace) out :=
  (spec_visit_effect True node (suits_any _ rt c.state node)
    fun _ _ _ => Or.inr trivial).of_ok (fun _ hev => hev) h

/-- What one step does: nothing at all, lose the hand-off, or run the node on
the state of the cycle. -/
inductive Cycle.Moves (rt : Runtime) (v : Visit) (c : Cycle) : Cycle → Prop where
  | stays (hcursor : ∀ node, c.cursor ≠ .at node) : Moves rt v c c
  | rejected {node : AgentName} {e : LoadError} (hcursor : c.cursor = .at node)
      (hlost : ¬ c.HandsOver v) : Moves rt v c { c with cursor := .crashed (.invalidState e) }
  | raised {node : AgentName} {e : Exc} (hcursor : c.cursor = .at node) (hover : c.HandsOver v)
      (hrun : (c.agentRun rt v node).result = .error e) :
      Moves rt v c { c with cursor := .crashed (.raised e), visited := c.visited ++ [node] }
  | visited {node : AgentName} {out : GestaltGraphState} (hcursor : c.cursor = .at node)
      (hover : c.HandsOver v) (hrun : (c.agentRun rt v node).result = .ok out) :
      Moves rt v c
        { cursor := nextCursor node out, state := out, visited := c.visited ++ [node] }

/-- **One step** of a cycle with scores in range. -/
theorem Cycle.moves {c : Cycle} (hrange : c.state.stats.InRange) (rt : Runtime) (v : Visit) :
    c.Moves rt v (c.step rt v) := by
  cases hcursor : c.cursor with
  | ended =>
      rw [show c.step rt v = c by simp [step, hcursor]]
      exact .stays (by simp [hcursor])
  | crashed e =>
      rw [show c.step rt v = c by simp [step, hcursor]]
      exact .stays (by simp [hcursor])
  | «at» node =>
      simp only [step, hcursor]
      cases hload : GestaltGraphState.modelValidate v.received c.state.modelDump with
      | error e =>
          refine .rejected hcursor fun hover => ?_
          rw [(modelValidate_modelDump_iff hrange v.received).mpr ⟨rfl, hover⟩] at hload
          contradiction
      | ok s =>
          obtain ⟨rfl, hover⟩ := (modelValidate_modelDump_iff hrange _).mp hload
          cases hrun : (c.agentRun rt v node).result with
          | error e =>
              rw [agentRun] at hrun
              simpa only [visit, hrun] using Moves.raised hcursor hover hrun
          | ok out =>
              rw [agentRun] at hrun
              simpa only [visit, hrun] using Moves.visited hcursor hover hrun

/-- The state stays as it was, or a node was visited and returned the new one. -/
theorem Cycle.Moves.state_cases {rt : Runtime} {v : Visit} {c c' : Cycle} (h : c.Moves rt v c') :
    c'.state = c.state ∨ ∃ node, c.cursor = .at node ∧ c.HandsOver v ∧
      (c.agentRun rt v node).result = .ok c'.state := by
  cases h with
  | stays _ => exact Or.inl rfl
  | rejected _ _ => exact Or.inl rfl
  | raised _ _ _ => exact Or.inl rfl
  | visited hcursor hover hrun => exact Or.inr ⟨_, hcursor, hover, hrun⟩

/-- What one step can do: nothing at all, lose the hand-off, visit a node that
raises, or visit a node that returns and follow the edge. -/
inductive Cycle.Steps (allows : Event Services → Prop) (rt : Runtime) (c : Cycle) :
    Cycle → Prop where
  | stays (hcursor : ∀ node, c.cursor ≠ .at node) : Steps allows rt c c
  | rejected {node : AgentName} {e : LoadError} (hcursor : c.cursor = .at node) :
      Steps allows rt c { c with cursor := .crashed (.invalidState e) }
  | raised {node : AgentName} {e : Exc} (hcursor : c.cursor = .at node) :
      Steps allows rt c { c with cursor := .crashed (.raised e), visited := c.visited ++ [node] }
  | visited {node : AgentName} {out : GestaltGraphState} (hcursor : c.cursor = .at node)
      (outcome : VisitOutcome allows rt c.state node out) :
      Steps allows rt c
        { cursor := nextCursor node out, state := out, visited := c.visited ++ [node] }

/-- One step of a cycle with scores in range, under a restriction on the answers. -/
theorem Cycle.step_cases {allows : Event Services → Prop} {rt : Runtime} {v : Visit} {c : Cycle}
    (hrange : c.state.stats.InRange) (hallows : c.Allows allows rt v) :
    c.Steps allows rt (c.step rt v) := by
  have hmoves := moves hrange rt v
  generalize c.step rt v = c' at hmoves ⊢
  cases hmoves with
  | stays hcursor => exact .stays hcursor
  | rejected hcursor _ => exact .rejected hcursor
  | raised hcursor _ _ => exact .raised hcursor
  | visited hcursor _ hrun =>
      exact .visited hcursor (visitOutcome_of_ok (hallows _ hcursor) hrun)

/-- The state stays as it was, or a node was visited. -/
theorem Cycle.Steps.state_cases {allows : Event Services → Prop} {rt : Runtime} {c c' : Cycle}
    (h : c.Steps allows rt c') :
    c'.state = c.state ∨ ∃ node, VisitOutcome allows rt c.state node c'.state := by
  cases h with
  | stays _ => exact Or.inl rfl
  | rejected _ => exact Or.inl rfl
  | raised _ => exact Or.inl rfl
  | visited _ outcome => exact Or.inr ⟨_, outcome⟩

/-- The events of one step: those of the run of the node, unless the hand-off
fails. -/
def Cycle.events (rt : Runtime) (v : Visit) (c : Cycle) : List (Event Services) :=
  match c.cursor with
  | .ended | .crashed _ => []
  | .at node =>
      match GestaltGraphState.modelValidate v.received c.state.modelDump with
      | .error _ => []
      | .ok state => ((run rt (agentAt rt node)).run v.answers state).trace

theorem Cycle.events_of_handsOver {rt : Runtime} {v : Visit} {c : Cycle} {node : AgentName}
    (hcursor : c.cursor = .at node) (hrange : c.state.stats.InRange) (hover : c.HandsOver v) :
    c.events rt v = (c.agentRun rt v node).trace := by
  have hload := (modelValidate_modelDump_iff hrange v.received).mpr ⟨rfl, hover⟩
  simp [events, hcursor, hload, agentRun]

/-! ## runs -/

/-- What holds of a cycle all along. -/
structure Cycle.Sound (fresh : Fresh) (request : CycleRequest) (c : Cycle) : Prop where
  same : (buildGraphState fresh request).SameCycle c.state
  traced : c.state.Traced fresh.traceId
  inRange : c.state.stats.InRange

theorem Cycle.sound_start (fresh : Fresh) (request : CycleRequest) :
    (Cycle.start fresh request).Sound fresh request where
  same := ⟨rfl, rfl, rfl, rfl⟩
  traced := by constructor <;> simp [start, buildGraphState]
  inRange := by constructor <;> simp [start, buildGraphState]

/-- A step keeps a cycle sound. -/
theorem Cycle.Sound.step {fresh : Fresh} {request : CycleRequest} {c : Cycle}
    (h : c.Sound fresh request) (rt : Runtime) (v : Visit) :
    (c.step rt v).Sound fresh request := by
  rcases (step_cases h.inRange (allows_any rt v c)).state_cases with heq | ⟨node, hout⟩
  · exact ⟨by rw [heq]; exact h.same, by rw [heq]; exact h.traced, by rw [heq]; exact h.inRange⟩
  · obtain ⟨u⟩ := hout.update
    obtain ⟨htrace, hcycle, hsource, hobjective⟩ := u.sameCycle
    exact ⟨⟨htrace.trans h.same.traceId, hcycle.trans h.same.cycleId,
      hsource.trans h.same.source, hobjective.trans h.same.objective⟩,
      u.traced h.same.traceId h.traced, u.inRange h.inRange⟩

/-- Every reachable cycle is sound. -/
theorem Cycle.sound_after (rt : Runtime) (fresh : Fresh) (request : CycleRequest)
    (visits : Nat → Visit) (n : Nat) :
    (Cycle.after rt visits (Cycle.start fresh request) n).Sound fresh request := by
  induction n with
  | zero => exact sound_start fresh request
  | succ n ih => exact ih.step rt (visits n)

/-- A step only appends to the histories. -/
theorem Cycle.appendsTo_step {c : Cycle} (hrange : c.state.stats.InRange) (rt : Runtime)
    (v : Visit) : c.state.AppendsTo (c.step rt v).state := by
  rcases (step_cases hrange (allows_any rt v c)).state_cases with heq | ⟨node, hout⟩
  · rw [heq]
    exact .refl _
  · obtain ⟨u⟩ := hout.update
    exact u.appendsTo

/-- **Traceability and append-only history.**  In every reachable state of
every cycle: trace id, cycle id, source and objective are those of the start,
everything held carries the trace id, and the next node execution, whatever
happens during it, only appends to the histories. -/
theorem Cycle.traceable_append_only (rt : Runtime) (fresh : Fresh) (request : CycleRequest)
    (visits : Nat → Visit) (n : Nat) :
    let c := Cycle.after rt visits (Cycle.start fresh request) n
    (c.state.traceId = fresh.traceId ∧ c.state.cycleId = fresh.cycleId ∧
      c.state.source = request.source ∧ c.state.objective = request.objective) ∧
    c.state.Traced fresh.traceId ∧
    c.state.AppendsTo (Cycle.after rt visits (Cycle.start fresh request) (n + 1)).state := by
  have h := sound_after rt fresh request visits n
  exact ⟨⟨h.same.traceId, h.same.cycleId, h.same.source, h.same.objective⟩, h.traced,
    appendsTo_step h.inRange rt (visits n)⟩

/-! ## summaries -/

/-- A cycle with a summary is over: the summary is one of its state, and nothing
of the plan is left. -/
structure Cycle.Closed (c : Cycle) (summary : GestaltSummary) : Prop where
  cursor : c.cursor = .ended
  summary : SummaryOf c.state summary
  plan : c.state.metadata.get? "pending_agents" = some (.list [])

/-- **Summaries close cycles.** -/
theorem Cycle.summary_after {rt : Runtime} {fresh : Fresh} {request : CycleRequest}
    {visits : Nat → Visit} (n : Nat) {summary : GestaltSummary}
    (h : (after rt visits (start fresh request) n).state.latestSummary = some summary) :
    (after rt visits (start fresh request) n).Closed summary := by
  induction n with
  | zero => simp [after, start, buildGraphState] at h
  | succ n ih =>
      have hmoves := moves (sound_after rt fresh request visits n).inRange rt (visits n)
      rw [after] at h ⊢
      generalize (after rt visits (start fresh request) n).step rt (visits n) = c' at h hmoves ⊢
      generalize after rt visits (start fresh request) n = c at hmoves ih
      -- a cycle that is at a node has no summary
      have hnone : ∀ {node}, c.cursor = .at node → c.state.latestSummary ≠ some summary := by
        intro node hcursor hsummary
        rw [(ih hsummary).cursor] at hcursor
        contradiction
      cases hmoves with
      | stays _ => exact ih h
      | rejected hcursor _ => exact absurd h (hnone hcursor)
      | raised hcursor _ _ => exact absurd h (hnone hcursor)
      | @visited node out hcursor _ hrun =>
          have heffect := (visitEffect_of_ok hrun).1
          by_cases hnode : node = .orchestrator
          · subst hnode
            cases heffect with
            | completed specialist _ _ _ _ => contradiction
            | failed specialist _ => contradiction
            | routeFailed left _ _ update =>
                obtain ⟨e, report, -, rfl⟩ := update
                refine absurd ?_ (hnone hcursor)
                rcases left with rfl | ⟨approval, -, rfl⟩ <;> exact h
            | routed _ routing _ summarizes update =>
                have hcompleted := update
                obtain ⟨messages, report, -, -, rfl⟩ := update
                cases routing with
                | dispatch _ _ dispatches =>
                    refine absurd ?_ (hnone hcursor)
                    simpa [applyStateUpdate, dispatches.summary, GestaltGraphState.withApproval]
                      using h
                | finalize _ finalizes =>
                    obtain ⟨written, hwritten, -⟩ := finalizes.summary
                    obtain rfl : written = summary := by
                      simpa [applyStateUpdate, hwritten] using h
                    have hsummary := summarizes.summary written hwritten
                    refine ⟨?_, ⟨?_, hsummary.pending⟩, ?_⟩
                    · simp [nextCursor, hcompleted.route_of_finalizes finalizes, followRoute]
                    · rw [hsummary.risk]
                      simp [applyStateUpdate, finalizes.stats]
                    · simp [applyStateUpdate, finalizes.metadata]
          · refine absurd ?_ (hnone hcursor)
            rw [← (heffect.outcome.specialistVisit hnode).summary]
            exact h

/-! ## hand-offs -/

/-- An approval expiry computed from the reading lies after `t`. -/
def OutlivesBy (rt : Runtime) (t : Int) : Event Services → Prop
  | ⟨.utcNow .stamp, now⟩ => t < now + rt.settings.events.approvalTtl
  | _ => True

/-- **Short cycles keep their approvals**: as long as every reading is less
than the lifetime of an approval before `t`, no approval has expired at `t`. -/
theorem Cycle.unexpired_after {rt : Runtime} {fresh : Fresh} {request : CycleRequest}
    {visits : Nat → Visit} {t : Int} {n : Nat}
    (h : ∀ m, m < n →
      (after rt visits (start fresh request) m).Allows (OutlivesBy rt t) rt (visits m)) :
    ∀ a ∈ (after rt visits (start fresh request) n).state.approvals, t < a.expiresAt := by
  induction n with
  | zero => simp [after, start, buildGraphState]
  | succ n ih =>
      have hbefore := ih fun m hm => h m (Nat.lt_succ_of_lt hm)
      have hstep := step_cases (sound_after rt fresh request visits n).inRange
        (h n (Nat.lt_succ_self n))
      rcases hstep.state_cases with heq | ⟨node, hout⟩
      · rw [after, heq]
        exact hbefore
      · obtain ⟨u⟩ := hout.update
        rw [after, u.out_eq]
        intro a ha
        rcases List.mem_append.mp ha with ha | ha
        · exact hbefore a ha
        · obtain ⟨now, hnow, hexpires⟩ := (u.approved a ha).expiresAt
          rw [hexpires]
          exact hnow

end Gestalt
