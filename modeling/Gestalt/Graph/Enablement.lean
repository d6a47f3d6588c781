import Gestalt.Graph.Approvals
import Gestalt.Graph.Ledger
import Gestalt.Graph.Reference

/-!
# Gestalt.Graph.Enablement

Specialists that are switched off.

The policy of an agent has an `enabled` flag, and nothing that routes a cycle
looks at it.  A specialist is visited, approved or decided for only where the
plan or the last route leads to it, so the flag is respected exactly when
neither ever does.
-/

namespace Gestalt

open Effects Program

/-- The policy switches the specialist off. -/
def Runtime.Disables (rt : Runtime) (a : Specialist) : Prop :=
  (rt.settings.policy a.agent).enabled = false

/-- At the orchestrator's turn neither the plan nor the last route leads to `a`. -/
structure NotAhead (rt : Runtime) (s : GestaltGraphState) (a : Specialist) : Prop where
  plan : blank s.objective.val = false → ∀ next rest,
    Orchestrator.pendingAgents rt s = some (next :: rest) → next.asStr? ≠ some a.name
  route : routeFromOrchestrator s ≠ some a.name

/-- In its first `n` steps the cycle has not visited `a`, and neither approved it
nor decided for it. -/
structure Cycle.KeepsOut (rt : Runtime) (visits : Nat → Visit) (c : Cycle) (a : Specialist)
    (n : Nat) : Prop where
  visited : a.agent ∉ (after rt visits c n).visited
  approvals : ∀ approval ∈ (after rt visits c n).state.approvals,
    approval.targetAgent.val ≠ a.name
  registered : ∀ approval ∈ handedToBus (c.history rt visits n),
    approval.targetAgent.val ≠ a.name
  decisions : a.decision ∉ (after rt visits c n).state.decisions

/-! ## one step -/

theorem Specialist.decision_injective {a b : Specialist} (h : a.decision = b.decision) : a = b := by
  cases a <;> cases b <;> first | rfl | contradiction

theorem Specialist.decision_ne_finalize (a : Specialist) : a.decision ≠ .finalize := by
  cases a <;> decide

theorem Specialist.agent_injective {a b : Specialist} (h : a.agent = b.agent) : a = b := by
  cases a <;> cases b <;> first | rfl | contradiction

/-- Only its own name leads to a specialist. -/
theorem eq_name_of_followRoute {route : Option String} {a : Specialist}
    (h : followRoute route = .at a.agent) : route = some a.name := by
  unfold followRoute at h
  split at h
  · contradiction
  · next name =>
      split at h
      · contradiction
      · split at h
        · next b hb =>
            obtain rfl := Specialist.agent_injective (Cursor.at.inj h)
            rw [Specialist.name_of_ofName? hb]
        · contradiction

/-- A state of a cycle that is not about to visit `a`, and has neither approved
it nor decided for it. -/
structure Cycle.Avoids (c : Cycle) (a : Specialist) : Prop where
  cursor : c.cursor ≠ .at a.agent
  visited : a.agent ∉ c.visited
  approvals : ∀ approval ∈ c.state.approvals, approval.targetAgent.val ≠ a.name
  decisions : a.decision ∉ c.state.decisions

section Steps

variable {rt : Runtime} {v : Visit} {c : Cycle} {a : Specialist}
variable {allows : Event Services → Prop} {s' out : GestaltGraphState}

/-- What the orchestrator left in the state object is not for `a`. -/
theorem ScopedToHead.target_ne (h : ScopedToHead allows rt c.state s')
    (hleft : AtMostIssued allows rt c.state s')
    (haligned : s' = c.state ∨ blank c.state.objective.val = false)
    (hahead : NotAhead rt c.state a)
    (hbefore : ∀ approval ∈ c.state.approvals, approval.targetAgent.val ≠ a.name) :
    ∀ approval ∈ s'.approvals, approval.targetAgent.val ≠ a.name := by
  rcases haligned with rfl | haligned
  · exact hbefore
  · rcases hleft with rfl | ⟨approval, -, rfl⟩
    · exact hbefore
    · obtain ⟨next, rest, hpending, hscoped⟩ := h approval rfl
      intro approval' happroval'
      rcases List.mem_append.mp happroval' with hold | hnew
      · exact hbefore approval' hold
      · obtain rfl := List.mem_singleton.mp hnew
        intro htarget
        refine hahead.plan haligned next rest hpending ?_
        rw [hscoped.targetAgent, htarget]

/-- An orchestrator that routes leads elsewhere. -/
theorem Cycle.Avoids.routed {art : AgentArtifacts} {visited : List AgentName} (h : c.Avoids a)
    (hvisited : a.agent ∉ visited) (haligned : blank c.state.objective.val = false)
    (hahead : NotAhead rt c.state a) (routing : Routing allows rt c.state art s')
    (head : ScopedToHead allows rt c.state s') (update : CompletedAs .orchestrator s' art out) :
    Avoids ⟨nextCursor .orchestrator out, out, visited⟩ a := by
  have hkept := head.target_ne routing.atMostIssued (Or.inr haligned) hahead h.approvals
  have hcompleted := update
  obtain ⟨messages, report, -, -, rfl⟩ := update
  cases routing with
  | finalize _ finalizes =>
      refine ⟨?_, hvisited, hkept, ?_⟩
      · simp [nextCursor, hcompleted.route_of_finalizes finalizes, followRoute]
      · simp [applyStateUpdate, finalizes.decisions, h.decisions, a.decision_ne_finalize]
  | @dispatch next rest b approval _ pending _ dispatches =>
      have hother : b ≠ a := by
        intro heq
        refine hahead.plan haligned next rest pending ?_
        rw [Specialist.asStr?_of_ofValue? dispatches.known, heq]
      refine ⟨?_, hvisited, hkept, ?_⟩
      · simp only [nextCursor, if_true, hcompleted.route_of_dispatches dispatches,
          followRoute_name, ne_eq, Cursor.at.injEq]
        exact fun heq => hother (Specialist.agent_injective heq)
      · simp only [applyStateUpdate, dispatches.decisions, List.mem_append,
          List.mem_singleton, not_or]
        exact ⟨h.decisions, fun heq => hother (Specialist.decision_injective heq).symm⟩

/-- An orchestrator that fails follows the last route. -/
theorem Cycle.Avoids.routeFailed {visited : List AgentName} (h : c.Avoids a)
    (hvisited : a.agent ∉ visited) (hahead : NotAhead rt c.state a)
    (left : AtMostIssued allows rt c.state s')
    (aligned : s' = c.state ∨ blank c.state.objective.val = false)
    (head : ScopedToHead allows rt c.state s') (update : FailedAs rt .orchestrator s' out) :
    Avoids ⟨nextCursor .orchestrator out, out, visited⟩ a := by
  have hkept := head.target_ne left aligned hahead h.approvals
  have hroute : routeFromOrchestrator out = routeFromOrchestrator c.state :=
    update.route.trans left.route
  have hdecisions : out.decisions = c.state.decisions := by
    obtain ⟨e, report, -, rfl⟩ := update
    rcases left with rfl | ⟨approval, -, rfl⟩ <;>
      simp [applyStateUpdate, failureArtifacts, GestaltGraphState.withApproval]
  have happrovals : out.approvals = s'.approvals := by
    obtain ⟨e, report, -, rfl⟩ := update
    rfl
  refine ⟨?_, hvisited, ?_, ?_⟩
  · intro heq
    exact hahead.route (hroute.symm.trans (eq_name_of_followRoute heq))
  · change ∀ approval ∈ out.approvals, _
    rw [happrovals]
    exact hkept
  · change a.decision ∉ out.decisions
    rw [hdecisions]
    exact h.decisions

/-- A specialist leads back to the orchestrator. -/
theorem Cycle.Avoids.specialist {node : AgentName} {visited : List AgentName} (h : c.Avoids a)
    (hvisited : a.agent ∉ visited) (hnode : node ≠ .orchestrator)
    (hout : VisitOutcome allows rt c.state node out) :
    Avoids ⟨nextCursor node out, out, visited⟩ a := by
  have hspecialist := hout.specialistVisit hnode
  refine ⟨?_, hvisited, ?_, ?_⟩
  · simp only [nextCursor, hnode, if_false, ne_eq, Cursor.at.injEq]
    exact fun heq => a.agent_ne_orchestrator heq.symm
  · change ∀ approval ∈ out.approvals, _
    rw [hout.approvals_of_specialist hnode]
    exact h.approvals
  · change a.decision ∉ out.decisions
    rw [hspecialist.decisions]
    exact h.decisions

/-- **One step** keeps away from a specialist that is not ahead. -/
theorem Cycle.Avoids.step (hrange : c.state.stats.InRange) (h : c.Avoids a)
    (hahead : c.cursor = .at .orchestrator → NotAhead rt c.state a) :
    (c.step rt v).Avoids a := by
  have hmoves := moves hrange rt v
  generalize c.step rt v = c' at hmoves ⊢
  have hvisited : ∀ {node}, c.cursor = .at node → a.agent ∉ c.visited ++ [node] := by
    intro node hcursor hmem
    rcases List.mem_append.mp hmem with hold | hnew
    · exact h.visited hold
    · exact h.cursor (by rw [hcursor, List.mem_singleton.mp hnew])
  cases hmoves with
  | stays _ => exact h
  | rejected _ _ => exact ⟨by simp, h.visited, h.approvals, h.decisions⟩
  | raised hcursor _ _ => exact ⟨by simp, hvisited hcursor, h.approvals, h.decisions⟩
  | @visited node out hcursor _ hrun =>
      have heffect := (visitEffect_of_ok hrun).1
      by_cases hnode : node = .orchestrator
      · subst hnode
        cases heffect with
        | completed specialist _ _ _ _ => contradiction
        | failed specialist _ => contradiction
        | routed haligned routing head _ update =>
            exact h.routed (hvisited hcursor) haligned (hahead hcursor) routing head update
        | routeFailed left aligned head update =>
            exact h.routeFailed (hvisited hcursor) (hahead hcursor) left aligned head update
      · exact h.specialist (hvisited hcursor) hnode heffect.outcome

end Steps

/-! ## runs -/

section Runs

variable {rt : Runtime} {fresh : Fresh} {request : CycleRequest} {visits : Nat → Visit}
variable {a : Specialist}

/-- The approvals of a step are not for a specialist that is not ahead. -/
theorem target_ne_of_handedToBus {v : Visit} {c : Cycle} (hrange : c.state.stats.InRange)
    (hahead : c.cursor = .at .orchestrator → NotAhead rt c.state a) :
    ∀ approval ∈ handedToBus (c.events rt v), approval.targetAgent.val ≠ a.name := by
  intro approval happroval htarget
  obtain ⟨hcursor, hissued⟩ := Cycle.issuedDuring_of_mem hrange happroval
  obtain ⟨next, rest, hpending, hname⟩ := hissued.head
  refine (hahead hcursor).plan hissued.aligned next rest hpending ?_
  rw [hname, htarget]

/-- **A run** keeps a specialist out that is never ahead. -/
theorem Cycle.keepsOut_of_notAhead {n : Nat}
    (h : ∀ m, m < n → (after rt visits (start fresh request) m).cursor = .at .orchestrator →
      NotAhead rt (after rt visits (start fresh request) m).state a) :
    KeepsOut rt visits (start fresh request) a n := by
  have hruns : (after rt visits (start fresh request) n).Avoids a ∧
      ∀ approval ∈ handedToBus ((start fresh request).history rt visits n),
        approval.targetAgent.val ≠ a.name := by
    induction n with
    | zero =>
        refine ⟨⟨?_, ?_, ?_, ?_⟩, ?_⟩
        · exact fun heq => a.agent_ne_orchestrator (Cursor.at.inj heq).symm
        · simp [after, start]
        · simp [after, start, buildGraphState]
        · simp [after, start, buildGraphState]
        · simp [history, handedToBus]
    | succ n ih =>
        obtain ⟨havoids, hregistered⟩ := ih fun m hm => h m (Nat.lt_succ_of_lt hm)
        have hrange := (sound_after rt fresh request visits n).inRange
        have hahead := h n (Nat.lt_succ_self n)
        refine ⟨havoids.step hrange hahead, fun approval happroval => ?_⟩
        have hsplit : handedToBus ((start fresh request).history rt visits (n + 1)) =
            handedToBus ((start fresh request).history rt visits n) ++
              handedToBus ((after rt visits (start fresh request) n).events rt (visits n)) :=
          List.filterMap_append
        rw [hsplit, List.mem_append] at happroval
        rcases happroval with hold | hnew
        · exact hregistered approval hold
        · exact target_ne_of_handedToBus hrange hahead approval hnew
  exact ⟨hruns.1.visited, hruns.1.approvals, hruns.2, hruns.1.decisions⟩

end Runs

/-! ## requests without a plan of their own -/

/-- The metadata holds the rest of the plan `names`, and a route out of it. -/
structure Underway (names : List String) (s : GestaltGraphState) : Prop where
  aligned : blank s.objective.val = false
  plan : ∃ rest, s.metadata.get? "pending_agents" = some (.list (rest.map .str)) ∧ rest ⊆ names
  route : ∃ name ∈ names, s.metadata.get? "next_node" = some (.str name)

/-- What keeps the two entries keeps the cycle underway. -/
theorem Underway.of_kept {names : List String} {s out : GestaltGraphState}
    (h : Underway names s) (hobjective : out.objective = s.objective)
    (hkept : ∀ key, key ≠ "last_error" → out.metadata.get? key = s.metadata.get? key) :
    Underway names out := by
  refine ⟨?_, ?_, ?_⟩
  · rw [hobjective]
    exact h.aligned
  · rw [hkept _ (by decide)]
    exact h.plan
  · rw [hkept _ (by decide)]
    exact h.route

section Derived

variable {rt : Runtime} {fresh : Fresh} {request : CycleRequest} {visits : Nat → Visit}
variable {allows : Event Services → Prop} {names : List String}

/-- A dispatch takes its specialist off the plan and routes to it. -/
theorem underway_of_dispatch {s out : GestaltGraphState} {art : AgentArtifacts} {plan : List String}
    (haligned : blank s.objective.val = false)
    (hplan : Orchestrator.pendingAgents rt s = some (plan.map .str)) (hnames : plan ⊆ names)
    {next : Value} {rest : List Value} {a : Specialist} {approval : EventApproval}
    (hpending : Orchestrator.pendingAgents rt s = some (next :: rest))
    (hdispatches : Dispatches s next rest a art)
    (hout : CompletedAs .orchestrator (s.withApproval approval) art out) :
    Underway names out := by
  obtain ⟨messages, report, -, -, rfl⟩ := hout
  rw [hplan] at hpending
  obtain ⟨name, plan, rfl, rfl, rfl⟩ := List.map_eq_cons_iff.mp (Option.some.inj hpending)
  refine ⟨haligned, ⟨plan, ?_, List.subset_of_cons_subset hnames⟩, name,
    hnames List.mem_cons_self, ?_⟩
  · simp [applyStateUpdate, hdispatches.metadata]
  · simp [applyStateUpdate, hdispatches.metadata]

/-- What a failed turn leaves in the metadata. -/
theorem FailedAs.get?_metadata {node : AgentName} {s s' out : GestaltGraphState}
    (hleft : AtMostIssued allows rt s s') (h : FailedAs rt node s' out) {key : String}
    (hkey : key ≠ "last_error") : out.metadata.get? key = s.metadata.get? key := by
  obtain ⟨e, report, -, rfl⟩ := h
  rcases hleft with rfl | ⟨approval, -, rfl⟩
  · exact Table.get?_set_of_ne (Ne.symm hkey) _
  · exact Table.get?_set_of_ne (Ne.symm hkey) _

/-- The orchestrator's turn of a cycle that keeps to its plan, where it is underway
already or has no last route to follow. -/
structure AtTurn (rt : Runtime) (names : List String) (s : GestaltGraphState) : Prop where
  plan : ∃ plan : List String, Orchestrator.pendingAgents rt s = some (plan.map .str) ∧
    plan ⊆ names
  route : s.metadata.get? "next_node" = none ∨ Underway names s

/-- A cycle that is underway has its turn underway. -/
theorem Underway.atTurn {s : GestaltGraphState} (h : Underway names s) : AtTurn rt names s := by
  obtain ⟨rest, hrest, hsubset⟩ := h.plan
  exact ⟨⟨rest, by simp [Orchestrator.pendingAgents, hrest, Value.iterate?], hsubset⟩, Or.inr h⟩

/-- **One step** of a cycle that keeps to its plan. -/
theorem Cycle.Moves.underway {v : Visit} {c c' : Cycle} (h : c.Moves rt v c')
    (hturn : c.cursor = .at .orchestrator → AtTurn rt names c.state)
    (hspecialist : ∀ node, c.cursor = .at node → node ≠ .orchestrator →
      Underway names c.state) :
    (∀ node, c'.cursor ≠ .at node) ∨ Underway names c'.state := by
  cases h with
  | stays hcursor => exact Or.inl hcursor
  | rejected _ _ => exact Or.inl fun _ h => by cases h
  | raised _ _ _ => exact Or.inl fun _ h => by cases h
  | @visited node out hcursor _ hrun =>
      have heffect := (visitEffect_of_ok hrun).1
      have hobjective : out.objective = c.state.objective :=
        heffect.outcome.update.elim fun u => u.sameCycle.objective
      by_cases hnode : node = .orchestrator
      · subst hnode
        obtain ⟨⟨plan, hplan, hsubset⟩, hroute⟩ := hturn hcursor
        cases heffect with
        | completed specialist _ _ _ _ => contradiction
        | failed specialist _ => contradiction
        | routed haligned routing _ _ update =>
            cases routing with
            | finalize _ finalizes =>
                left
                simp [nextCursor, update.route_of_finalizes finalizes, followRoute]
            | dispatch pending _ dispatches =>
                right
                exact underway_of_dispatch haligned hplan hsubset pending dispatches update
        | routeFailed left _ _ update =>
            rcases hroute with hnone | hunderway
            · left
              have hend : routeFromOrchestrator out = some "__end__" := by
                rw [routeFromOrchestrator, update.get?_metadata left (by decide), hnone]
              simp [nextCursor, hend, followRoute]
            · exact Or.inr (hunderway.of_kept hobjective fun _ => update.get?_metadata left)
      · right
        exact (hspecialist node hcursor hnode).of_kept hobjective
          (heffect.outcome.specialistVisit hnode).metadata

/-- A cycle that derives its plan keeps to it: it is at its first turn, or at no
node, or underway. -/
theorem Cycle.underway_after (visits : Nat → Visit)
    (hpending : request.metadata.get? "pending_agents" = none)
    (hnext : request.metadata.get? "next_node" = none)
    (hnames : Orchestrator.determineNextAgents rt (buildGraphState fresh request) = names)
    (n : Nat) :
    n = 0 ∨ (∀ node, (after rt visits (start fresh request) n).cursor ≠ .at node) ∨
      Underway names (after rt visits (start fresh request) n).state := by
  have hfirst : AtTurn rt names (buildGraphState fresh request) := by
    refine ⟨⟨names, ?_, List.Subset.refl _⟩, Or.inl hnext⟩
    have hmetadata : (buildGraphState fresh request).metadata.get? "pending_agents" = none :=
      hpending
    rw [Orchestrator.pendingAgents, hmetadata, hnames]
  induction n with
  | zero => exact Or.inl rfl
  | succ n ih =>
      right
      rw [after]
      refine (moves (sound_after rt fresh request visits n).inRange rt (visits n)).underway ?_ ?_
      · intro hcursor
        obtain rfl | hstopped | hunderway := ih
        · exact hfirst
        · exact absurd hcursor (hstopped _)
        · exact hunderway.atTurn
      · intro node hcursor hnode
        obtain rfl | hstopped | hunderway := ih
        · exact absurd (Cursor.at.inj hcursor).symm hnode
        · exact absurd hcursor (hstopped node)
        · exact hunderway

/-- A cycle that derives its plan keeps out every specialist that is not in it,
and every specialist if its objective is blank. -/
theorem Cycle.keepsOut_of_not_planned {a : Specialist}
    (hpending : request.metadata.get? "pending_agents" = none)
    (hnext : request.metadata.get? "next_node" = none)
    (hplan : blank request.objective.val = true ∨
      a.name ∉ Orchestrator.determineNextAgents rt (buildGraphState fresh request)) (n : Nat) :
    KeepsOut rt visits (start fresh request) a n := by
  refine keepsOut_of_notAhead fun m _ hcursor => ?_
  have hobjective := (sound_after rt fresh request visits m).same.objective
  rcases underway_after visits hpending hnext rfl m with rfl | hstopped | hunderway
  · have hmetadata : ∀ key, (buildGraphState fresh request).metadata.get? key =
        request.metadata.get? key := fun _ => rfl
    refine ⟨fun haligned next rest hhead hname => ?_, ?_⟩
    · change Orchestrator.pendingAgents rt (buildGraphState fresh request) = _ at hhead
      rw [Orchestrator.pendingAgents, hmetadata, hpending] at hhead
      obtain ⟨name, names, hnames, rfl, -⟩ := List.map_eq_cons_iff.mp (Option.some.inj hhead)
      rw [hobjective] at haligned
      change blank request.objective.val = false at haligned
      have hnot := hplan.resolve_left (by simp [haligned])
      rw [hnames, ← Option.some.inj hname] at hnot
      exact hnot List.mem_cons_self
    · change routeFromOrchestrator (buildGraphState fresh request) ≠ _
      rw [routeFromOrchestrator, hmetadata, hnext]
      cases a <;> decide
  · exact absurd hcursor (hstopped _)
  · have haligned := hunderway.aligned
    rw [hobjective] at haligned
    change blank request.objective.val = false at haligned
    have hnot := hplan.resolve_left (by simp [haligned])
    refine ⟨fun _ next rest hhead hname => ?_, ?_⟩
    · obtain ⟨names, hrest, hsubset⟩ := hunderway.plan
      simp only [Orchestrator.pendingAgents, hrest, Value.iterate?, Option.some.injEq] at hhead
      obtain ⟨name, names, rfl, rfl, -⟩ := List.map_eq_cons_iff.mp hhead
      rw [← Option.some.inj hname] at hnot
      exact hnot (hsubset List.mem_cons_self)
    · obtain ⟨name, hname, hroute⟩ := hunderway.route
      rw [routeFromOrchestrator, hroute]
      intro heq
      rw [← Option.some.inj heq] at hnot
      exact hnot hname

/-- A planned specialist is visited on a calm day. -/
theorem Cycle.exists_visit_of_planned {a : Specialist}
    (haligned : blank request.objective.val = false)
    (hpending : request.metadata.get? "pending_agents" = none)
    (hplanned : a.name ∈ Orchestrator.determineNextAgents rt (buildGraphState fresh request)) :
    ∃ n, a.agent ∈ (after rt Reference.calm (start fresh request) n).visited := by
  have hscheduled : ∀ name,
      Orchestrator.scheduledAgent (buildGraphState fresh request) = some name →
        ∃ b, Specialist.ofName? name = some b := by
    intro name hname
    rw [Orchestrator.determineNextAgents_eq, hname, List.mem_singleton] at hplanned
    exact ⟨a, by rw [← hplanned, Specialist.ofName?_name]⟩
  obtain ⟨plan, hplan, -⟩ := Orchestrator.exists_determined rt hscheduled
  have hstart : AtOrchestrator rt [] plan (start fresh request) :=
    atOrchestrator_start (Orchestrator.plan?_of_determined hpending hplan)
  have hfinished := hstart.finished (sound_start fresh request) haligned
    fun n _ => (Reference.undisturbed_calm n).orderly
  refine ⟨2 * plan.length + 1, ?_⟩
  rw [hplan] at hplanned
  obtain ⟨b, hb, hname⟩ := List.mem_map.mp hplanned
  obtain rfl := Specialist.eq_of_name_eq hname
  rw [hfinished.records.visited, List.nil_append]
  exact List.mem_append_left _ (List.mem_flatMap.mpr ⟨b, hb, by simp⟩)

end Derived

/-- **When disabled specialists stay out.**  For every request, and whatever
happens: a run in which no turn of the orchestrator has a disabled specialist
at the head of the plan or as its last route visits none, approves none and
decides for none.  For a request that brings neither a plan nor a route along,
every run is such a run exactly when the objective is blank or none of the
specialists its plan names is disabled. -/
theorem Cycle.disabled_kept_out_iff (rt : Runtime) (fresh : Fresh) (request : CycleRequest) :
    (∀ visits n a, rt.Disables a →
      (∀ m, m < n → (after rt visits (start fresh request) m).cursor = .at .orchestrator →
        NotAhead rt (after rt visits (start fresh request) m).state a) →
      KeepsOut rt visits (start fresh request) a n) ∧
    (request.metadata.get? "pending_agents" = none → request.metadata.get? "next_node" = none →
      ((∀ visits n a, rt.Disables a → KeepsOut rt visits (start fresh request) a n) ↔
        blank request.objective.val = true ∨ ∀ a, rt.Disables a →
          a.name ∉ Orchestrator.determineNextAgents rt (buildGraphState fresh request))) := by
  refine ⟨fun visits n a _ => keepsOut_of_notAhead, fun hpending hnext => ⟨?_, ?_⟩⟩
  · intro hkept
    cases haligned : blank request.objective.val with
    | true => exact Or.inl rfl
    | false =>
        refine Or.inr fun a hdisabled hplanned => ?_
        obtain ⟨n, hvisited⟩ := exists_visit_of_planned haligned hpending hplanned
        exact (hkept Reference.calm n a hdisabled).visited hvisited
  · intro hplan visits n a hdisabled
    exact keepsOut_of_not_planned hpending hnext (hplan.imp_right fun h => h a hdisabled) n

/-- The settings of the test suite, with the monitor switched off. -/
def Reference.withoutMonitor : Runtime :=
  { runtime with
    settings := { settings with
      agents := agents.set "monitor" { enabled := false }
      validate_agents := by
        intro a
        cases a <;> decide } }

/-- A request for nothing in particular still visits the disabled monitor. -/
theorem Cycle.disabled_visited :
    Reference.withoutMonitor.Disables .monitor ∧
    ∃ n, AgentName.monitor ∈ (after Reference.withoutMonitor Reference.calm
      (start Reference.fresh Reference.watchRequest) n).visited :=
  ⟨rfl, exists_visit_of_planned (a := .monitor) (by decide) (by decide) (by decide)⟩

end Gestalt
