import Gestalt.Graph.Audit
import Gestalt.Graph.Enablement

/-!
# Gestalt.Graph.Delivery

What becomes of the commands agents issue to each other.

A command waits in the state until its target prepares a context, and the
target does so only if the plan leads to it again.  The plan is fixed when the
cycle starts, and no summary names a pending command, so a command reaches its
target exactly when the target was still ahead in the plan.
-/

namespace Gestalt

open Effects Program

/-! ## the context of an invocation -/

/-- What an invocation does before it checks alignment. -/
def preparation (rt : Runtime) (a : AgentName) : Action AgentContextEnvelope := do
  let _ ← utcNow .started
  prepareContext rt a

/-- The query the context is prepared with. -/
def contextQuery (rt : Runtime) (s : GestaltGraphState) : BlackboardQuery where
  query := s.objective.weaken
  limit := rt.settings.blackboard.semanticTopK
  limit_pos := rt.settings.blackboard.top_k_pos
  limit_le := rt.settings.blackboard.top_k_le

/-- The context the step prepares, if it gets that far. -/
def Cycle.context? (rt : Runtime) (v : Visit) (c : Cycle) : Option AgentContextEnvelope :=
  match c.cursor with
  | .ended | .crashed _ => none
  | .at node =>
      match GestaltGraphState.modelValidate v.received c.state.modelDump with
      | .error _ => none
      | .ok state => ((preparation rt node).run v.answers state).result.toOption

/-- The blackboard answers the query of the step. -/
def Cycle.Recalls (rt : Runtime) (v : Visit) (c : Cycle) : Prop :=
  ∃ result, v.answers 1 (.call (.queryMemory (contextQuery rt c.state))) = .ok result

/-- The step hands the command to the specialist. -/
def Cycle.Delivers (rt : Runtime) (v : Visit) (c : Cycle) (command : GestaltCommand)
    (b : Specialist) : Prop :=
  c.cursor = .at b.agent ∧
    ∃ context, c.context? rt v = some context ∧ command ∈ context.inboundCommands

section Contexts

variable {rt : Runtime} {v : Visit} {c : Cycle} {node : AgentName}

/-- A preparation returns if the blackboard answers, with the commands that wait
for the agent. -/
theorem result_preparation (w : Surroundings Services) (s : GestaltGraphState) :
    ((preparation rt node).run w s).result =
      (w 1 (.call (.queryMemory (contextQuery rt s)))).map fun result =>
        { traceId := s.traceId
          cycleId := s.cycleId
          objective := s.objective
          source := s.source
          latestStats := s.stats
          blackboardContext := result.matching
          inboundCommands := inboundCommands node s.commands
          approvals := s.approvals
          metadata := s.metadata } := by
  -- the clock is asked first, the blackboard second
  change (((Program.ofExcept (w 1 (.call (.queryMemory (contextQuery rt s)))) :
    Action BlackboardQueryResult).bind _).run ((w.drop 1).drop 1) s).result = _
  cases w 1 (.call (.queryMemory (contextQuery rt s))) with
  | error e => rfl
  | ok result => rfl

theorem Cycle.context?_of_handsOver (hcursor : c.cursor = .at node)
    (hrange : c.state.stats.InRange) (hover : c.HandsOver v) :
    c.context? rt v = ((preparation rt node).run v.answers c.state).result.toOption := by
  have hload := (modelValidate_modelDump_iff hrange v.received).mpr ⟨rfl, hover⟩
  simp [context?, hcursor, hload]

/-- A context is prepared in time, where the blackboard answers, and holds the
commands that wait in the state. -/
theorem Cycle.prepared_of_context? {context : AgentContextEnvelope}
    (h : c.context? rt v = some context) (hrange : c.state.stats.InRange) :
    ∃ node, c.cursor = .at node ∧ c.HandsOver v ∧ c.Recalls rt v ∧
      context.inboundCommands = inboundCommands node c.state.commands := by
  cases hcursor : c.cursor with
  | ended => simp [context?, hcursor] at h
  | crashed e => simp [context?, hcursor] at h
  | «at» node =>
      have hover : c.HandsOver v := by
        cases hload : GestaltGraphState.modelValidate v.received c.state.modelDump with
        | error e => simp [context?, hcursor, hload] at h
        | ok s =>
            obtain ⟨rfl, hover⟩ := (modelValidate_modelDump_iff hrange _).mp hload
            exact hover
      rw [context?_of_handsOver hcursor hrange hover, result_preparation] at h
      cases hanswer : v.answers 1 (.call (.queryMemory (contextQuery rt c.state))) with
      | error e => simp [hanswer, Except.map, Except.toOption] at h
      | ok result =>
          obtain rfl := by simpa [hanswer, Except.map, Except.toOption] using h
          exact ⟨node, rfl, hover, ⟨result, hanswer⟩, rfl⟩

/-- A waiting command is delivered where the blackboard answers. -/
theorem Cycle.delivers_of_recalls {command : GestaltCommand} {b : Specialist}
    (hcursor : c.cursor = .at b.agent) (hrange : c.state.stats.InRange) (hover : c.HandsOver v)
    (hrecalls : c.Recalls rt v) (hmem : command ∈ c.state.commands)
    (htarget : command.targetAgent.val = b.name) (hstatus : command.status ≠ .completed) :
    c.Delivers rt v command b := by
  obtain ⟨result, hanswer⟩ := hrecalls
  refine ⟨hcursor, ?_⟩
  rw [context?_of_handsOver hcursor hrange hover, result_preparation, hanswer]
  exact ⟨_, rfl, List.mem_filter.mpr ⟨hmem, by simpa using ⟨htarget, hstatus⟩⟩⟩

end Contexts

/-! ## issuing commands -/

/-- What one specialist samples and what the model replies to it lead it to
issue a command to another. -/
def Asks (allows : Event Services → Prop) (rt : Runtime) (s : GestaltGraphState) :
    Specialist → Specialist → Prop
  | .monitor, .optimizer => ∃ snapshot stats, Monitor.Observed allows rt s snapshot stats ∧
      (stats.shouldTriggerOptimizer s.stats.clamped rt.settings.stats.optimizerTriggerDelta).1
  | .monitor, .securityAudit => ∃ snapshot stats, Monitor.Observed allows rt s snapshot stats ∧
      stats.shouldTriggerSecurityIntervention
  | .analyzer, b => ∃ topMatch latency reply,
      Replied allows rt .analyzer s.stats .analyzerReasoning
        (Analyzer.mockReasoning topMatch latency (Analyzer.recommendedTarget
          (rt.lower s.objective.val) (Analyzer.requiresSecurity rt s))
          (Analyzer.requiresSecurity rt s)) reply ∧
      reply.recommendedTarget.val = b.name
  | .plannerExecutor, .analyzer => ∃ mock reply : PlannerReasoning, mock.nextStepNeeded = false ∧
      Replied allows rt .plannerExecutor s.stats .plannerReasoning (.ok mock) reply ∧
      reply.nextStepNeeded
  | _, _ => False

section Issues

variable {allows : Event Services → Prop} {rt : Runtime} {s out : GestaltGraphState}
variable {node : AgentName} {art : AgentArtifacts}

/-- A command to a specialist is one its issuer was led to. -/
theorem Emits.asks {a b : Specialist} (h : Emits allows rt s s.objective a.agent art)
    {command : GestaltCommand} (hmem : command ∈ art.commands)
    (htarget : command.targetAgent.val = b.name) : Asks allows rt s a b := by
  generalize hagent : a.agent = node at h
  cases h with
  | @monitor snapshot stats _ _ _ _ observed optimizes audits commands _ _ =>
      obtain rfl : a = .monitor := by cases a <;> first | rfl | contradiction
      rw [commands] at hmem
      rcases List.mem_append.mp hmem with hmem | hmem
      · rw [(optimizes.ok_of_mem _ hmem).target_eq] at htarget
        obtain rfl : Specialist.optimizer = b := Specialist.eq_of_name_eq htarget
        exact ⟨snapshot, stats, observed, optimizes.condition_of_mem hmem⟩
      · rw [(audits.ok_of_mem _ hmem).target_eq] at htarget
        obtain rfl : Specialist.securityAudit = b := Specialist.eq_of_name_eq htarget
        exact ⟨snapshot, stats, observed, audits.condition_of_mem hmem⟩
  | @analyzer topMatch latency reply _ _ replied commands recommends _ =>
      obtain rfl : a = .analyzer := by cases a <;> first | rfl | contradiction
      rw [commands] at hmem
      obtain rfl := List.mem_singleton.mp hmem
      rw [recommends.target_eq] at htarget
      exact ⟨topMatch, latency, reply, replied, htarget⟩
  | @plannerExecutor mock reply _ replied done followsUp _ =>
      obtain rfl : a = .plannerExecutor := by cases a <;> first | rfl | contradiction
      rw [(followsUp.ok_of_mem _ hmem).target_eq] at htarget
      obtain rfl : Specialist.analyzer = b := Specialist.eq_of_name_eq htarget
      exact ⟨mock, reply, done, replied, followsUp.condition_of_mem hmem⟩
  | optimizer _ _ _ commands _ => simp [commands] at hmem
  | knowledge commands _ => simp [commands] at hmem
  | securityAudit _ _ _ _ _ _ remediates _ =>
      rw [(remediates.ok_of_mem _ hmem).target_eq] at htarget
      cases b <;> exact absurd htarget (by decide)

/-- What a visit adds to the commands: what a specialist emits, or nothing. -/
theorem VisitEffect.commands (h : VisitEffect allows rt s node out) :
    (node ≠ .orchestrator ∧ blank s.objective.val = false ∧
      ∃ art, Emits allows rt s s.objective node art ∧ out.commands = s.commands ++ art.commands) ∨
    out.commands = s.commands := by
  cases h with
  | @completed _ art _ specialist aligned _ emitted update =>
      obtain ⟨messages, report, -, -, rfl⟩ := update
      exact Or.inl ⟨specialist, aligned, art, emitted, rfl⟩
  | failed _ update =>
      obtain ⟨e, report, -, rfl⟩ := update
      exact Or.inr (List.append_nil _)
  | routed _ routing _ summarizes update =>
      obtain ⟨messages, report, -, -, rfl⟩ := update
      right
      cases routing with
      | dispatch _ _ _ =>
          simp [applyStateUpdate, summarizes.commands, GestaltGraphState.withApproval]
      | finalize _ _ => simp [applyStateUpdate, summarizes.commands]
  | routeFailed left _ _ update =>
      obtain ⟨e, report, -, rfl⟩ := update
      right
      rcases left with rfl | ⟨approval, -, rfl⟩ <;> exact List.append_nil _

end Issues

/-- The step issues the command. -/
def Cycle.Issues (rt : Runtime) (v : Visit) (c : Cycle) (command : GestaltCommand) : Prop :=
  ∃ new, (c.step rt v).state.commands = c.state.commands ++ new ∧ command ∈ new

section Steps

variable {rt : Runtime} {v : Visit} {c : Cycle}

/-- Only a specialist that completes issues commands. -/
theorem Cycle.Issues.cases {command : GestaltCommand} (h : c.Issues rt v command)
    (hrange : c.state.stats.InRange) :
    ∃ a : Specialist, c.cursor = .at a.agent ∧ blank c.state.objective.val = false ∧
      ∃ art, Emits (· ∈ (c.agentRun rt v a.agent).trace) rt c.state c.state.objective a.agent art ∧
        command ∈ art.commands := by
  obtain ⟨new, hnew, hmem⟩ := h
  have hissued : (c.step rt v).state.commands ≠ c.state.commands := by
    intro hsame
    have hnil : new = [] := by simpa [hsame] using hnew
    simp [hnil] at hmem
  obtain hkept | ⟨node, hcursor, -, hrun⟩ := (moves hrange rt v).state_cases
  · exact absurd (by rw [hkept]) hissued
  · have heffect := (visitEffect_of_ok hrun).1
    obtain ⟨hnode, haligned, art, hemitted, hcommands⟩ | hkept := heffect.commands
    · have hart : new = art.commands := by
        rw [hcommands] at hnew
        exact (List.append_cancel_left hnew).symm
      have hspecialist : ∃ a : Specialist, a.agent = node := by
        cases node with
        | orchestrator => contradiction
        | monitor => exact ⟨.monitor, rfl⟩
        | analyzer => exact ⟨.analyzer, rfl⟩
        | plannerExecutor => exact ⟨.plannerExecutor, rfl⟩
        | optimizer => exact ⟨.optimizer, rfl⟩
        | knowledge => exact ⟨.knowledge, rfl⟩
        | securityAudit => exact ⟨.securityAudit, rfl⟩
      obtain ⟨a, rfl⟩ := hspecialist
      rw [hart] at hmem
      exact ⟨a, hcursor, haligned, art, hemitted, hmem⟩
    · contradiction

/-- A command in the state was there before the step, or the step issued it. -/
theorem Cycle.mem_or_issues {command : GestaltCommand} (hrange : c.state.stats.InRange)
    (h : command ∈ (c.step rt v).state.commands) :
    command ∈ c.state.commands ∨ c.Issues rt v command := by
  obtain ⟨new, hnew⟩ := (appendsTo_step hrange rt v).commands
  rw [← hnew] at h
  exact (List.mem_append.mp h).imp_right fun h => ⟨new, hnew.symm, h⟩

/-- Every command in the state is pending. -/
def GestaltGraphState.CommandsPending (s : GestaltGraphState) : Prop :=
  ∀ command ∈ s.commands, command.status = .pending

/-- A step changes no command. -/
theorem GestaltGraphState.CommandsPending.step (h : c.state.CommandsPending)
    (hrange : c.state.stats.InRange) : (c.step rt v).state.CommandsPending := by
  intro command hmem
  rcases Cycle.mem_or_issues hrange hmem with hmem | hissued
  · exact h command hmem
  · obtain ⟨a, -, -, art, hemitted, hmem⟩ := hissued.cases hrange
    exact hemitted.issuesPending command hmem

end Steps

/-! ## waiting for a turn -/

/-- The specialist is still ahead in the plan. -/
def GestaltGraphState.Plans (s : GestaltGraphState) (b : Specialist) : Prop :=
  ∃ rest, s.metadata.get? "pending_agents" = some (.list rest) ∧
    ∃ v ∈ rest, Specialist.ofValue? v = some b

/-- The specialist is next, or still ahead. -/
def Cycle.Awaits (c : Cycle) (b : Specialist) : Prop :=
  c.cursor = .at b.agent ∨ c.state.Plans b

/-- Commands the step issues to specialists are for such as are still ahead. -/
def Cycle.Places (rt : Runtime) (v : Visit) (c : Cycle) : Prop :=
  ∀ command, c.Issues rt v command → ∀ b : Specialist, command.targetAgent.val = b.name →
    c.state.Plans b

/-- The blackboard answers a specialist for whom commands wait. -/
def Cycle.Listens (rt : Runtime) (v : Visit) (c : Cycle) : Prop :=
  ∀ a : Specialist, c.cursor = .at a.agent →
    (∃ command ∈ c.state.commands, command.targetAgent.val = a.name) → c.Recalls rt v

/-- A specialist is led to issue commands only to such as are still ahead, and
the blackboard answers it if commands wait for it. -/
structure Cycle.KeepsUp (rt : Runtime) (v : Visit) (c : Cycle) : Prop where
  asks : ∀ a b : Specialist, c.cursor = .at a.agent →
    Asks (· ∈ (c.agentRun rt v a.agent).trace) rt c.state a b → c.state.Plans b
  listens : c.Listens rt v

section Waiting

variable {rt : Runtime} {v : Visit} {c : Cycle} {b : Specialist}

theorem Cycle.KeepsUp.places (h : c.KeepsUp rt v) (hrange : c.state.stats.InRange) :
    c.Places rt v := by
  intro command hissued b htarget
  obtain ⟨a, hcursor, -, art, hemitted, hmem⟩ := hissued.cases hrange
  exact h.asks a b hcursor (hemitted.asks hmem htarget)

/-- The plan is worked off from the head: a step leaves a specialist that is
ahead where it is, or goes to it, or the cycle crashes. -/
theorem Cycle.awaits_step (hrange : c.state.stats.InRange) (hplans : c.state.Plans b)
    (halive : ∀ e, (c.step rt v).cursor ≠ .crashed e) : (c.step rt v).Awaits b := by
  have hmoves := moves hrange rt v
  generalize c.step rt v = c' at hmoves halive ⊢
  cases hmoves with
  | stays _ => exact Or.inr hplans
  | rejected _ _ => exact absurd rfl (halive _)
  | raised _ _ _ => exact absurd rfl (halive _)
  | @visited node out hcursor _ hrun =>
      have heffect := (visitEffect_of_ok hrun).1
      obtain ⟨rest, hrest, v, hmem, hname⟩ := hplans
      have hkept : out.metadata.get? "pending_agents" = c.state.metadata.get? "pending_agents" →
          Awaits ⟨nextCursor node out, out, c.visited ++ [node]⟩ b :=
        fun hkept => Or.inr ⟨rest, hkept.trans hrest, v, hmem, hname⟩
      by_cases hnode : node = .orchestrator
      · subst hnode
        cases heffect with
        | completed specialist _ _ _ _ => contradiction
        | failed specialist _ => contradiction
        | routeFailed left _ _ update => exact hkept (update.get?_metadata left (by decide))
        | routed _ routing _ _ update =>
            have hpending : Orchestrator.pendingAgents rt c.state = some rest := by
              rw [Orchestrator.pendingAgents, hrest]
              rfl
            have hcompleted := update
            obtain ⟨messages, report, -, -, rfl⟩ := update
            cases routing with
            | finalize pending _ =>
                rw [hpending] at pending
                obtain rfl := Option.some.inj pending
                simp at hmem
            | @dispatch next rest' a _ _ pending _ dispatches =>
                rw [hpending] at pending
                obtain rfl := Option.some.inj pending
                rcases List.mem_cons.mp hmem with rfl | hmem
                · left
                  obtain rfl := Option.some.inj (hname.symm.trans dispatches.known)
                  simp [nextCursor, hcompleted.route_of_dispatches dispatches, followRoute_name]
                · right
                  exact ⟨rest', by simp [applyStateUpdate, dispatches.metadata], v, hmem, hname⟩
      · exact hkept ((heffect.outcome.specialistVisit hnode).metadata _ (by decide))

end Waiting

/-! ## runs -/

section Runs

variable {rt : Runtime} {fresh : Fresh} {request : CycleRequest} {visits : Nat → Visit}

/-- Every command in the state was issued by a step. -/
theorem Cycle.issued_of_mem {n : Nat} {command : GestaltCommand}
    (h : command ∈ (after rt visits (start fresh request) n).state.commands) :
    ∃ m, m < n ∧ (after rt visits (start fresh request) m).Issues rt (visits m) command := by
  induction n with
  | zero => simp [after, start, buildGraphState] at h
  | succ n ih =>
      rcases mem_or_issues (sound_after rt fresh request visits n).inRange h with h | hissued
      · obtain ⟨m, hm, hissued⟩ := ih h
        exact ⟨m, Nat.lt_succ_of_lt hm, hissued⟩
      · exact ⟨n, Nat.lt_succ_self n, hissued⟩

/-- Commands stay pending. -/
theorem Cycle.pending_after (n : Nat) :
    (after rt visits (start fresh request) n).state.CommandsPending := by
  induction n with
  | zero => simp [after, start, buildGraphState, GestaltGraphState.CommandsPending]
  | succ n ih => exact ih.step (sound_after rt fresh request visits n).inRange

/-- An issued command stays in the state. -/
theorem Cycle.mem_of_issued {m n : Nat} (hmn : m < n) {command : GestaltCommand}
    (h : (after rt visits (start fresh request) m).Issues rt (visits m) command) :
    command ∈ (after rt visits (start fresh request) n).state.commands := by
  induction n, hmn using Nat.le_induction with
  | base =>
      obtain ⟨new, hnew, hmem⟩ := h
      rw [after, hnew]
      exact List.mem_append_right _ hmem
  | succ n _ ih =>
      exact (appendsTo_step (sound_after rt fresh request visits n).inRange rt
        (visits n)).commands.subset ih

/-- **Commands wait in the plan**: as long as commands are placed and specialists
listen, a command has been delivered after its issue or its target is still to
come. -/
theorem Cycle.delivered_or_awaits
    (hplaces : ∀ m, (after rt visits (start fresh request) m).Places rt (visits m))
    (hlistens : ∀ m, (after rt visits (start fresh request) m).Listens rt (visits m)) (n : Nat)
    (halive : ∀ e, (after rt visits (start fresh request) n).cursor ≠ .crashed e) {m : Nat}
    (hmn : m < n) {command : GestaltCommand}
    (hissued : (after rt visits (start fresh request) m).Issues rt (visits m) command)
    {b : Specialist} (htarget : command.targetAgent.val = b.name) :
    (∃ k, m < k ∧ k < n ∧
      (after rt visits (start fresh request) k).Delivers rt (visits k) command b) ∨
    (after rt visits (start fresh request) n).Awaits b := by
  induction n with
  | zero => omega
  | succ n ih =>
      have hrange := (sound_after rt fresh request visits n).inRange
      have hbefore : ∀ e, (after rt visits (start fresh request) n).cursor ≠ .crashed e := by
        intro e hcrashed
        refine halive e ?_
        rw [after, step]
        simp [hcrashed]
      rcases Nat.lt_succ_iff_lt_or_eq.mp hmn with hmn | rfl
      · rcases ih hbefore hmn with ⟨k, hmk, hkn, hdelivers⟩ | hnext | hplans
        · exact Or.inl ⟨k, hmk, Nat.lt_succ_of_lt hkn, hdelivers⟩
        · have hmem := mem_of_issued hmn hissued
          have hstatus : command.status ≠ .completed := by simp [pending_after n command hmem]
          have hover : (after rt visits (start fresh request) n).HandsOver (visits n) := by
            have hmoves := moves hrange rt (visits n)
            rw [after] at halive
            generalize (after rt visits (start fresh request) n).step rt (visits n) = c'
              at hmoves halive
            cases hmoves with
            | stays hcursor => exact absurd hnext (hcursor _)
            | rejected _ _ => exact absurd rfl (halive _)
            | raised _ hover _ => exact hover
            | visited _ hover _ => exact hover
          exact Or.inl ⟨n, hmn, Nat.lt_succ_self n,
            delivers_of_recalls hnext hrange hover (hlistens n b hnext ⟨command, hmem, htarget⟩)
              hmem htarget hstatus⟩
        · exact Or.inr (awaits_step hrange hplans halive)
      · exact Or.inr (awaits_step hrange (hplaces m command hissued b htarget) halive)

/-- A pending action names the command, by its identifier or by its rationale. -/
def GestaltCommand.NamedBy (rt : Runtime) (command : GestaltCommand) (action : String) : Prop :=
  occursIn (rt.idText command.commandId).val action ∨ occursIn command.rationale.val action

/-- The command reached the specialist after it was issued at the step `m`, or
a summary names it as pending. -/
def Cycle.Accounted (rt : Runtime) (visits : Nat → Visit) (c : Cycle) (m : Nat)
    (command : GestaltCommand) (b : Specialist) : Prop :=
  (∃ k, m < k ∧ (after rt visits c k).Delivers rt (visits k) command b) ∨
    ∃ k summary, (after rt visits c k).state.latestSummary = some summary ∧
      ∃ action ∈ summary.pendingActions, command.NamedBy rt action

/-- No command to a specialist is dropped. -/
def Cycle.DropsNone (rt : Runtime) (visits : Nat → Visit) (c : Cycle) : Prop :=
  ∀ m command, (after rt visits c m).Issues rt (visits m) command →
    ∀ b : Specialist, command.targetAgent.val = b.name → Accounted rt visits c m command b

/-- A closed cycle is over: nothing was issued later. -/
theorem Cycle.lt_of_issued {n m : Nat} {command : GestaltCommand}
    (hended : (after rt visits (start fresh request) n).cursor = .ended)
    (hissued : (after rt visits (start fresh request) m).Issues rt (visits m) command) :
    m < n := by
  by_contra hnm
  obtain ⟨a, hcursor, -⟩ := hissued.cases (sound_after rt fresh request visits m).inRange
  rw [after_of_ended (Nat.le_of_not_lt hnm) hended, hended] at hcursor
  contradiction

/-- Where commands are placed and specialists listen, none is dropped by a cycle
with a summary. -/
theorem Cycle.dropsNone_of_places {n : Nat} {summary : GestaltSummary}
    (hsummary : (after rt visits (start fresh request) n).state.latestSummary = some summary)
    (hplaces : ∀ m, (after rt visits (start fresh request) m).Places rt (visits m))
    (hlistens : ∀ m, (after rt visits (start fresh request) m).Listens rt (visits m)) :
    DropsNone rt visits (start fresh request) := by
  intro m command hissued b htarget
  have hclosed := summary_after n hsummary
  have halive : ∀ e, (after rt visits (start fresh request) n).cursor ≠ .crashed e := by
    simp [hclosed.cursor]
  rcases delivered_or_awaits hplaces hlistens n halive (lt_of_issued hclosed.cursor hissued)
    hissued htarget with ⟨k, hmk, -, hdelivers⟩ | hnext | ⟨rest, hrest, v, hmem, -⟩
  · exact Or.inl ⟨k, hmk, hdelivers⟩
  · rw [hclosed.cursor] at hnext
    contradiction
  · rw [hclosed.plan] at hrest
    obtain rfl : rest = [] := by simpa using hrest.symm
    simp at hmem

/-- The cycle is over, or has only specialists among `allowed` before it. -/
def Cycle.Within (rt : Runtime) (allowed : List Specialist) (c : Cycle) : Prop :=
  (∃ done todo, AtOrchestrator rt done todo c ∧ todo ⊆ allowed) ∨
  (∃ done a todo, AtSpecialist done a todo c ∧ a ∈ allowed ∧ todo ⊆ allowed) ∨
  c.cursor = .ended

/-- An orderly step goes to none but planned specialists. -/
theorem Cycle.Within.step {allowed : List Specialist} {v : Visit} {c : Cycle}
    (h : c.Within rt allowed) (hsound : c.Sound fresh request)
    (haligned : blank request.objective.val = false) (horderly : c.Orderly rt v) :
    (c.step rt v).Within rt allowed := by
  rcases h with ⟨done, todo, hat, hsubset⟩ | ⟨done, a, todo, hat, -, hsubset⟩ | hended
  · have hturn := hat.step hsound.inRange (hsound.aligned haligned)
      (horderly.handsOver _ hat.cursor) (horderly.calm hat.cursor)
    cases todo with
    | nil => exact Or.inr (Or.inr (hturn.1 rfl).cursor)
    | cons a rest =>
        exact Or.inr (Or.inl ⟨done, a, rest, hturn.2 a rest rfl, hsubset List.mem_cons_self,
          List.subset_of_cons_subset hsubset⟩)
  · exact Or.inl ⟨_, todo, hat.step hsound.inRange (horderly.handsOver _ hat.cursor)
      (horderly.clockSane _ hat.cursor), hsubset⟩
  · refine Or.inr (Or.inr ?_)
    rw [Cycle.step]
    simp [hended]

/-- In an orderly run a cycle stays within what is ahead of it. -/
theorem Cycle.within_after (visits : Nat → Visit) {allowed : List Specialist} {m n : Nat}
    (hmn : m ≤ n)
    (haligned : blank request.objective.val = false)
    (horderly : ∀ k, (after rt visits (start fresh request) k).Orderly rt (visits k))
    (h : (after rt visits (start fresh request) m).Within rt allowed) :
    (after rt visits (start fresh request) n).Within rt allowed := by
  induction n, hmn using Nat.le_induction with
  | base => exact h
  | succ n _ ih => exact ih.step (sound_after rt fresh request visits n) haligned (horderly n)

/-- A specialist at which a cycle is that stays within a plan is in the plan. -/
theorem Cycle.Within.mem_of_cursor {allowed : List Specialist} {c : Cycle} {b : Specialist}
    (h : c.Within rt allowed) (hcursor : c.cursor = .at b.agent) : b ∈ allowed := by
  rcases h with ⟨done, todo, hat, -⟩ | ⟨done, a, todo, hat, hmem, -⟩ | hended
  · have hnode := Cursor.at.inj (hat.cursor.symm.trans hcursor)
    exact absurd hnode.symm b.agent_ne_orchestrator
  · have hnode := Cursor.at.inj (hat.cursor.symm.trans hcursor)
    obtain rfl := Specialist.agent_injective hnode
    exact hmem
  · rw [hended] at hcursor
    contradiction

/-- The metadata of a pending plan names its specialists. -/
theorem PendingPlan.plans {s : GestaltGraphState} {todo : List Specialist} {b : Specialist}
    (h : PendingPlan s todo) (hmem : b ∈ todo) : s.Plans b := by
  obtain ⟨rest, hrest, hmap⟩ := h
  refine ⟨rest, hrest, ?_⟩
  clear hrest
  induction rest generalizing todo with
  | nil =>
      obtain rfl : todo = [] := by simpa using hmap
      simp at hmem
  | cons v rest ih =>
      simp only [List.mapM_cons, Option.bind_eq_bind, Option.bind_eq_some_iff] at hmap
      obtain ⟨a, hhead, tail, htail, heq⟩ := hmap
      obtain rfl := Option.some.inj heq
      rcases List.mem_cons.mp hmem with rfl | hmem
      · exact ⟨v, List.mem_cons_self, hhead⟩
      · obtain ⟨w, hw, hname⟩ := ih hmem htail
        exact ⟨w, List.mem_cons_of_mem _ hw, hname⟩

/-- A request that leaves the routing to the orchestrator. -/
structure CycleRequest.Unrouted (request : CycleRequest) : Prop where
  pending : request.metadata.get? "pending_agents" = none
  next : request.metadata.get? "next_node" = none
  current : request.metadata.get? "current_node" = none
  scheduled : request.metadata.get? "scheduled_agent" = none
  forced : request.metadata.get? "force_audit" = none

/-- An unrouted request has a plan of known specialists. -/
theorem CycleRequest.Unrouted.exists_plan (h : request.Unrouted) (rt : Runtime) (fresh : Fresh) :
    ∃ plan, Orchestrator.plan? rt (buildGraphState fresh request) = some plan := by
  have hscheduled : ∀ name,
      Orchestrator.scheduledAgent (buildGraphState fresh request) = some name →
        ∃ a, Specialist.ofName? name = some a := by
    refine Orchestrator.scheduledAgent_known fun v hv => ?_
    have hnone : (buildGraphState fresh request).metadata.get? "scheduled_agent" = none :=
      h.scheduled
    rw [hnone] at hv
    contradiction
  obtain ⟨plan, hplan, -⟩ := Orchestrator.exists_determined rt hscheduled
  exact ⟨plan, Orchestrator.plan?_of_determined h.pending hplan⟩

/-- **In an orderly run** of an unrouted request a command is delivered only if
its target was still ahead when it was issued. -/
theorem Cycle.plans_of_delivers (hunrouted : request.Unrouted)
    (horderly : ∀ k, (after rt visits (start fresh request) k).Orderly rt (visits k))
    {m k : Nat} (hmk : m < k) {command : GestaltCommand} {b : Specialist}
    (hissued : (after rt visits (start fresh request) m).Issues rt (visits m) command)
    (hdelivers : (after rt visits (start fresh request) k).Delivers rt (visits k) command b) :
    (after rt visits (start fresh request) m).state.Plans b := by
  have hsound := sound_after rt fresh request visits m
  obtain ⟨a, hcursor, haligned, -⟩ := hissued.cases hsound.inRange
  rw [hsound.same.objective] at haligned
  change blank request.objective.val = false at haligned
  obtain ⟨plan, hplan⟩ := hunrouted.exists_plan rt fresh
  have hwithin := within_after visits (Nat.zero_le m) haligned horderly
    (Or.inl ⟨[], plan, atOrchestrator_start hplan, List.Subset.refl _⟩)
  rcases hwithin with ⟨done, todo, hat, -⟩ | ⟨done, a', todo, hat, -, -⟩ | hended
  · have hnode := Cursor.at.inj (hat.cursor.symm.trans hcursor)
    exact absurd hnode.symm a.agent_ne_orchestrator
  · have hnext := hat.step hsound.inRange ((horderly m).handsOver _ hat.cursor)
      ((horderly m).clockSane _ hat.cursor)
    have hlater := within_after visits hmk haligned horderly
      (Or.inl ⟨_, todo, hnext, List.Subset.refl _⟩)
    exact hat.pending.plans (hlater.mem_of_cursor hdelivers.1)
  · rw [hended] at hcursor
    contradiction

/-- Under the mock gateway a calm visit to the analyzer issues a command to a
specialist. -/
theorem Cycle.issues_of_analyzer {c : Cycle} {v : Visit} (h : c.Undisturbed rt v)
    (hrange : c.state.stats.InRange) (hcursor : c.cursor = .at .analyzer)
    (haligned : blank c.state.objective.val = false)
    (htools : ∀ tool ∈ analyzerTools, tool ∈ (rt.settings.policy .analyzer).toolAllowlist)
    (hmocks : rt.settings.models.enableMockLlm = true) :
    ∃ command, c.Issues rt v command ∧ ∃ b : Specialist, command.targetAgent.val = b.name := by
  obtain ⟨out, hrun, -, hstep⟩ := step_of_undisturbed h hrange hcursor
  have hbuilder : ∀ context, ContextOf .analyzer c.state context →
      Steady Calm (fun _ => True) False c.state ((agentAt rt .analyzer).produceArtifacts context)
        (Emits Calm rt c.state c.state.objective .analyzer) := by
    intro context hcontext
    rw [← hcontext.objective]
    exact (steady_analyzer (covers_of_answered fun _ h => h.answered)
      fun tool htool hnot => hnot (htools tool htool)).mono fun _ h => h.2
  obtain ⟨art, hemitted, messages, report, -, -, rfl⟩ :=
    (spec_run_completed (fun _ h => h.answered) (fun _ h => h.clockSane) haligned hbuilder
      fun _ h => h.issuesPending).of_ok
      (h.calm _ hcursor) hrun
  cases hemitted with
  | @analyzer topMatch latency reply command _ replied commands recommends _ =>
      refine ⟨command, ⟨art.commands, by rw [hstep]; rfl, by simp [commands]⟩, ?_⟩
      rw [recommends.target_eq]
      obtain ⟨-, hmock⟩ | ⟨hnot, -⟩ := replied
      · obtain ⟨reply', hreply, htarget⟩ := Analyzer.exists_mockReasoning topMatch latency
          (rt.lower c.state.objective.val) (Analyzer.requiresSecurity rt c.state)
        obtain rfl := Except.ok.inj (hmock.symm.trans hreply)
        change ∃ b : Specialist, reply.recommendedTarget.val = b.name
        rw [htarget]
        have hmem := Analyzer.recommendedTarget_mem (rt.lower c.state.objective.val)
          (Analyzer.requiresSecurity rt c.state)
        simp only [List.mem_cons, List.not_mem_nil, or_false] at hmem
        rcases hmem with h | h | h | h
        · exact ⟨.securityAudit, h⟩
        · exact ⟨.knowledge, h⟩
        · exact ⟨.optimizer, h⟩
        · exact ⟨.plannerExecutor, h⟩
      · simp [Runtime.mocks, ModelsConfig.mocks, hmocks] at hnot

/-- An undisturbed cycle comes to the last specialist of its plan. -/
theorem AtOrchestrator.exists_last
    (hundisturbed : ∀ k, (Cycle.after rt visits (Cycle.start fresh request) k).Undisturbed rt
      (visits k))
    (haligned : blank request.objective.val = false) {a : Specialist}
    {done todo : List Specialist} {m : Nat}
    (h : AtOrchestrator rt done (todo ++ [a])
      (Cycle.after rt visits (Cycle.start fresh request) m)) :
    ∃ k, AtSpecialist (done ++ todo) a []
      (Cycle.after rt visits (Cycle.start fresh request) k) := by
  induction todo generalizing done m with
  | nil => exact ⟨m + 1, by simpa using h.after_step hundisturbed haligned⟩
  | cons b todo ih =>
      have hspecialist := h.after_step hundisturbed haligned
      obtain ⟨k, hk⟩ := ih (hspecialist.after_step hundisturbed)
      exact ⟨k, by simpa using hk⟩

/-- **The last word of the analyzer.**  Under the mock gateway an undisturbed
cycle whose plan ends with the analyzer drops its command. -/
theorem Cycle.drops_of_analyzer_last
    (hundisturbed : ∀ k, (after rt visits (start fresh request) k).Undisturbed rt (visits k))
    (haligned : blank request.objective.val = false) {plan : List Specialist}
    (hplan : Orchestrator.plan? rt (buildGraphState fresh request) = some (plan ++ [.analyzer]))
    (htools : ∀ tool ∈ analyzerTools, tool ∈ (rt.settings.policy .analyzer).toolAllowlist)
    (hmocks : rt.settings.models.enableMockLlm = true) :
    ¬ DropsNone rt visits (start fresh request) := by
  intro hnone
  have hfirst : AtOrchestrator rt [] (plan ++ [.analyzer])
      (after rt visits (start fresh request) 0) :=
    atOrchestrator_start hplan
  obtain ⟨m, hat⟩ := hfirst.exists_last hundisturbed haligned
  have hsound := sound_after rt fresh request visits m
  obtain ⟨command, hissued, b, htarget⟩ := issues_of_analyzer (hundisturbed m) hsound.inRange
    hat.cursor (hsound.aligned haligned) htools hmocks
  rcases hnone m command hissued b htarget with
    ⟨k, hmk, hdelivers⟩ | ⟨k, summary, hk, action, hmem, -⟩
  · -- after the last turn nobody is left to go to
    have hnext := hat.step hsound.inRange ((hundisturbed m).handsOver _ hat.cursor)
      ((hundisturbed m).orderly.clockSane _ hat.cursor)
    have hwithin := within_after visits hmk haligned
      (fun k => (hundisturbed k).orderly) (Or.inl ⟨_, [], hnext, List.Subset.refl _⟩)
    exact absurd (hwithin.mem_of_cursor hdelivers.1) (List.not_mem_nil)
  · rw [(summary_after k hk).summary.pending] at hmem
    contradiction

/-- **Which commands are dropped.**  In every run of every cycle the commands in
the state are those its steps issued.  If the cycle has a summary, none of them
is dropped where every specialist is led to issue commands only to such as are
still ahead in the plan and the blackboard answers those for whom commands
wait.  For an unrouted request whose orchestrator is never disturbed and whose
blackboard answers, none is dropped exactly when every command is issued to a
specialist still ahead in the plan. -/
theorem Cycle.dropsNone_iff (rt : Runtime) (fresh : Fresh) (request : CycleRequest)
    (visits : Nat → Visit) (n : Nat) :
    let c := after rt visits (start fresh request)
    (∀ command, command ∈ (c n).state.commands ↔ ∃ m, m < n ∧ (c m).Issues rt (visits m) command) ∧
    (∀ summary, (c n).state.latestSummary = some summary →
      ((∀ m, (c m).KeepsUp rt (visits m)) → DropsNone rt visits (start fresh request)) ∧
      (request.Unrouted → (∀ m, (c m).Orderly rt (visits m)) →
        (∀ m, (c m).Listens rt (visits m)) →
        (DropsNone rt visits (start fresh request) ↔ ∀ m, (c m).Places rt (visits m)))) := by
  intro c
  refine ⟨fun command => ⟨issued_of_mem, fun h => ?_⟩, fun summary hsummary =>
    ⟨fun hkeeps => ?_, fun hunrouted horderly hlistens => ⟨fun hnone m => ?_, fun hplaces => ?_⟩⟩⟩
  · obtain ⟨m, hmn, hissued⟩ := h
    exact mem_of_issued hmn hissued
  · exact dropsNone_of_places hsummary
      (fun m => (hkeeps m).places (sound_after rt fresh request visits m).inRange)
      fun m => (hkeeps m).listens
  · intro command hissued b htarget
    rcases hnone m command hissued b htarget with
      ⟨k, hmk, hdelivers⟩ | ⟨k, summary', hk, action, hmem, -⟩
    · exact plans_of_delivers hunrouted horderly hmk hissued hdelivers
    · rw [(summary_after k hk).summary.pending] at hmem
      contradiction
  · exact dropsNone_of_places hsummary hplaces hlistens

/-- Who is not at a specialist keeps up where the blackboard answers. -/
theorem Cycle.keepsUp_of_ne {v : Visit} {c : Cycle} (hlistens : c.Listens rt v)
    (hcursor : ∀ a : Specialist, c.cursor ≠ .at a.agent) : c.KeepsUp rt v :=
  ⟨fun a _ hat => absurd hat (hcursor a), hlistens⟩

/-- **Analyze and carry out.**  Under the mock gateway an undisturbed cycle whose plan
is the analyzer and then the planner keeps up, if the analyzer recommends the planner:
the planner is still ahead, and itself asks for nobody. -/
theorem Cycle.keepsUp_of_carriesOut
    (hundisturbed : ∀ k, (after rt visits (start fresh request) k).Undisturbed rt (visits k))
    (hlistens : ∀ k, (after rt visits (start fresh request) k).Listens rt (visits k))
    (haligned : blank request.objective.val = false)
    (hplan : Orchestrator.plan? rt (buildGraphState fresh request) =
      some [.analyzer, .plannerExecutor])
    (hmocks : rt.settings.models.enableMockLlm = true)
    (htarget : Analyzer.recommendedTarget (rt.lower request.objective.val)
      (Analyzer.requiresSecurity rt (after rt visits (start fresh request) 1).state) =
        Specialist.plannerExecutor.name) (n : Nat) :
    (after rt visits (start fresh request) n).KeepsUp rt (visits n) := by
  have hfirst : AtOrchestrator rt [] [.analyzer, .plannerExecutor]
      (after rt visits (start fresh request) 0) := atOrchestrator_start hplan
  have hanalyzer := hfirst.after_step hundisturbed haligned
  have hsecond := hanalyzer.after_step hundisturbed
  have hplanner := hsecond.after_step hundisturbed haligned
  have hthird := hplanner.after_step hundisturbed
  have hidle : ∀ {n}, (after rt visits (start fresh request) n).cursor = .at .orchestrator →
      (after rt visits (start fresh request) n).KeepsUp rt (visits n) :=
    fun {n} hcursor => keepsUp_of_ne (hlistens n) fun a hat =>
      a.agent_ne_orchestrator (Cursor.at.inj (hat.symm.trans hcursor))
  match n with
  | 0 => exact hidle hfirst.cursor
  | 1 =>
      -- the reply of the analyzer is the mock, which recommends the planner
      refine ⟨fun a b hat hasks => ?_, hlistens 1⟩
      obtain rfl := Specialist.agent_injective (Cursor.at.inj (hat.symm.trans hanalyzer.cursor))
      obtain ⟨topMatch, latency, reply, hreplied, hname⟩ := hasks
      obtain ⟨mock, hmock, hrecommended⟩ := Analyzer.exists_mockReasoning topMatch latency
        (rt.lower request.objective.val)
        (Analyzer.requiresSecurity rt (after rt visits (start fresh request) 1).state)
      have hobjective : (after rt visits (start fresh request) 1).state.objective =
          request.objective := (sound_after rt fresh request visits 1).same.objective
      rw [hobjective] at hreplied
      obtain ⟨-, heq⟩ | ⟨hnot, -⟩ := hreplied
      · obtain rfl := Except.ok.inj (heq.symm.trans hmock)
        obtain rfl : Specialist.plannerExecutor = b := Specialist.eq_of_name_eq
          (htarget.symm.trans (hrecommended.symm.trans hname))
        exact hanalyzer.pending.plans (List.mem_singleton_self _)
      · simp [Runtime.mocks, ModelsConfig.mocks, hmocks] at hnot
  | 2 => exact hidle hsecond.cursor
  | 3 =>
      -- the mock of the planner asks for no next step
      refine ⟨fun a b hat hasks => ?_, hlistens 3⟩
      obtain rfl := Specialist.agent_injective (Cursor.at.inj (hat.symm.trans hplanner.cursor))
      cases b <;> first | exact hasks.elim | skip
      obtain ⟨mock, reply, hmock, ⟨-, heq⟩ | ⟨hnot, -⟩, hnext⟩ := hasks
      · obtain rfl := Except.ok.inj heq
        rw [hmock] at hnext
        contradiction
      · simp [Runtime.mocks, ModelsConfig.mocks, hmocks] at hnot
  | 4 => exact hidle hthird.cursor
  | n + 5 =>
      -- the cycle is over
      have hended : (after rt visits (start fresh request) 5).cursor = .ended :=
        (finished_of_undisturbed haligned hplan hundisturbed).cursor
      refine keepsUp_of_ne (hlistens _) fun a hat => ?_
      rw [after_of_ended (Nat.le_add_left 5 n) hended, hended] at hat
      contradiction

end Runs

/-- A request for an analysis. -/
def Reference.analysisRequest : CycleRequest where
  objective := .text "Analyze the cluster"

namespace Reference

theorem plan_analysisRequest :
    Orchestrator.plan? runtime (buildGraphState fresh analysisRequest) =
      some ([.monitor] ++ [.analyzer]) := by decide

theorem finished_analysisRequest :
    Finished [.monitor, .analyzer]
      (Cycle.after runtime calm (Cycle.start fresh analysisRequest) 5) :=
  finished_of_undisturbed (by decide) plan_analysisRequest undisturbed_calm

theorem drops_analysisRequest :
    ¬ Cycle.DropsNone runtime calm (Cycle.start fresh analysisRequest) :=
  Cycle.drops_of_analyzer_last undisturbed_calm (by decide) plan_analysisRequest (by decide) rfl

end Reference

/-- On a calm day the command of the analyzer is dropped. -/
theorem Cycle.command_dropped :
    Reference.analysisRequest.Unrouted ∧
    (∃ summary, (after Reference.runtime Reference.calm
      (start Reference.fresh Reference.analysisRequest) 5).state.latestSummary = some summary) ∧
    ¬ DropsNone Reference.runtime Reference.calm
      (start Reference.fresh Reference.analysisRequest) := by
  obtain ⟨summary, hsummary, -⟩ := Reference.finished_analysisRequest.summary
  exact ⟨⟨rfl, rfl, rfl, rfl, rfl⟩, ⟨summary, hsummary⟩, Reference.drops_analysisRequest⟩

/-- A request for an analysis that is carried out, with a plan of its own. -/
def Reference.carryOutRequest : CycleRequest where
  objective := .text "Restart the cluster"
  metadata := [("pending_agents", .list [.str "analyzer", .str "planner_executor"])]

/-- The blackboard of the reference world answers. -/
theorem Reference.listens_calm {rt : Runtime} {fresh : Fresh} {request : CycleRequest} (n : Nat) :
    (Cycle.after rt calm (Cycle.start fresh request) n).Listens rt (calm n) :=
  fun _ _ _ => ⟨_, rfl⟩

/-- On a calm day a command of the analyzer reaches the planner that follows it; where
the analyzer is last in the plan, its command is for one that is not ahead. -/
theorem Cycle.dropsNone_iff_carryOut :
    (∃ command m, m < 5 ∧ (after Reference.runtime Reference.calm
      (start Reference.fresh Reference.carryOutRequest) m).Issues Reference.runtime
        (Reference.calm m) command) ∧
    DropsNone Reference.runtime Reference.calm
      (start Reference.fresh Reference.carryOutRequest) ∧
    ¬ ∀ m, (after Reference.runtime Reference.calm
      (start Reference.fresh Reference.analysisRequest) m).Places Reference.runtime
        (Reference.calm m) := by
  have haligned : blank Reference.carryOutRequest.objective.val = false := by decide
  have hplan : Orchestrator.plan? Reference.runtime
      (buildGraphState Reference.fresh Reference.carryOutRequest) =
        some [.analyzer, .plannerExecutor] := by decide
  have htarget : Analyzer.recommendedTarget
      (Reference.runtime.lower Reference.carryOutRequest.objective.val)
      (Analyzer.requiresSecurity Reference.runtime (after Reference.runtime Reference.calm
        (start Reference.fresh Reference.carryOutRequest) 1).state) =
          Specialist.plannerExecutor.name := by decide +kernel
  have hfinished : Finished [.analyzer, .plannerExecutor] (after Reference.runtime
      Reference.calm (start Reference.fresh Reference.carryOutRequest) 5) :=
    finished_of_undisturbed haligned hplan Reference.undisturbed_calm
  obtain ⟨summary, hsummary, -⟩ := hfinished.summary
  obtain ⟨hissued, hkept⟩ := dropsNone_iff Reference.runtime Reference.fresh
    Reference.carryOutRequest Reference.calm 5
  refine ⟨?_, (hkept summary hsummary).1 (keepsUp_of_carriesOut Reference.undisturbed_calm
    Reference.listens_calm haligned hplan rfl htarget), fun hplaces => ?_⟩
  · have hlength : (after Reference.runtime Reference.calm
        (start Reference.fresh Reference.carryOutRequest) 5).state.commands.length = 1 := by
      decide +kernel
    obtain ⟨command, hmem⟩ := List.exists_mem_of_length_pos (hlength ▸ Nat.one_pos)
    exact ⟨command, (hissued command).mp hmem⟩
  · obtain ⟨summary, hsummary, -⟩ := Reference.finished_analysisRequest.summary
    have hexact := ((dropsNone_iff Reference.runtime Reference.fresh Reference.analysisRequest
      Reference.calm 5).2 summary hsummary).2 ⟨rfl, rfl, rfl, rfl, rfl⟩
      (fun m => (Reference.undisturbed_calm m).orderly) Reference.listens_calm
    exact Reference.drops_analysisRequest (hexact.mpr hplaces)

end Gestalt
