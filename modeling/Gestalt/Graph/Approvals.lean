import Gestalt.Events.Safety
import Gestalt.Graph.Dispatch
import Gestalt.Graph.Schedule

/-!
# Gestalt.Graph.Approvals

Cycles that share one in-memory bus, and the approvals they put on it.

A turn of a cycle hands the bus what its node execution hands it, and nothing
else in the system calls `approve`.  So what the bus has registered goes back
to turns of orchestrators, each of which issued one approval, for the head of
its plan.
-/

namespace Gestalt

open Effects Program

/-! ## one invocation -/

/-- The orchestrator, on the state `s`, issued the approval in the course of the
events: for the head of the plan, at the reading just before. -/
structure IssuedDuring (rt : Runtime) (s : GestaltGraphState) (events : List (Event Services))
    (approval : EventApproval) : Prop where
  aligned : blank s.objective.val = false
  head : ∃ next rest, Orchestrator.pendingAgents rt s = some (next :: rest) ∧
    next.asStr? = some approval.targetAgent.val
  sourceAgent : approval.sourceAgent = AgentName.orchestrator.field
  permittedEvent : approval.permittedEvent = .peerSignal
  expiresAt : ∃ now clock answer before after,
    events = before ++ issueEvents now clock approval answer ++ after ∧
    approval.expiresAt = now + rt.settings.events.approvalTtl

/-- Every approval among the events was issued in their course. -/
def IssuesOnly (rt : Runtime) (s : GestaltGraphState) (events : List (Event Services)) : Prop :=
  ∀ approval ∈ handedToBus events, IssuedDuring rt s events approval

section Visits

variable {rt : Runtime} {s : GestaltGraphState}

theorem issuesOnly_of_leavesBus {events : List (Event Services)}
    (h : ∀ ev ∈ events, LeavesBus ev) : IssuesOnly rt s events := by
  intro approval happroval
  rw [handedToBus_eq_nil_iff.mpr h] at happroval
  contradiction

/-- Events that leave the bus alone, then those of one issue, then again events
that leave the bus alone. -/
theorem issuesOnly_of_issue {next : Value} {rest : List Value} {now clock : Int}
    {approval : EventApproval} {answer : Except Exc Unit} {t t' : List (Event Services)}
    (haligned : blank s.objective.val = false)
    (hpending : Orchestrator.pendingAgents rt s = some (next :: rest))
    (hissued : IssuedAt rt s next now approval) (ht : ∀ ev ∈ t, LeavesBus ev)
    (ht' : Extends LeavesBus (t ++ issueEvents now clock approval answer) t') :
    IssuesOnly rt s t' := by
  obtain ⟨new, rfl, hnew⟩ := ht'
  intro approval' happroval'
  have honly : handedToBus (t ++ issueEvents now clock approval answer ++ new) = [approval] := by
    have hbefore := handedToBus_eq_nil_iff.mpr ht
    have hafter := handedToBus_eq_nil_iff.mpr hnew
    have hissue : handedToBus (issueEvents now clock approval answer) = [approval] := rfl
    unfold handedToBus at hbefore hafter hissue ⊢
    rw [List.filterMap_append, List.filterMap_append, hbefore, hafter, hissue]
    rfl
  rw [honly, List.mem_singleton] at happroval'
  subst happroval'
  exact ⟨haligned, ⟨next, rest, hpending, hissued.targetAgent⟩, hissued.sourceAgent,
    hissued.permittedEvent, now, clock, answer, t, new, rfl, hissued.expiresAt⟩

/-- Announcing leaves the state object and the bus alone, even where it fails, and
issues no command. -/
theorem Orchestrator.steady_announce_any {allows : Event Services → Prop}
    {state : GestaltGraphState} {reasoning : OrchestratorReasoning} {next : Value}
    {rest : List Value} :
    Steady allows LeavesBus True s (announce state reasoning next rest)
      AgentArtifacts.IssuesPending := by
  refine steady_bind (steady_validateName (Or.inr trivial)) fun recipient _ => ?_
  refine steady_bind steady_newMessage fun message _ => ?_
  split
  · exact steady_raise trivial
  · exact steady_pure (AgentArtifacts.issuesPending_of_nil rfl)

/-- The orchestrator's invocation hands the bus what it issued, whatever fails. -/
theorem wp_run_orchestrator :
    wp (fun _ => True) (run rt (agentAt rt .orchestrator)) (fun _ _ t => IssuesOnly rt s t)
      (fun _ _ t => IssuesOnly rt s t) s [] := by
  unfold run
  rw [wp_bind]
  intro startedAt _
  rw [wp_ret, wp_tryCatch, List.nil_append]
  have hstarted : ∀ ev ∈ [(⟨.utcNow .started, startedAt⟩ : Event Services)], LeavesBus ev := by
    intro ev hev
    rw [List.mem_singleton.mp hev]
    exact leavesBus_utcNow .started startedAt
  have hbefore : ∀ {t}, Extends LeavesBus [⟨.utcNow .started, startedAt⟩] t →
      ∀ ev ∈ t, LeavesBus ev := by
    intro t ht ev hev
    obtain ⟨new, rfl, hnew⟩ := ht
    exact (List.mem_append.mp hev).elim (hstarted ev) (hnew ev)
  -- the handler adds nothing to what the events handed to the bus
  have hhandler : ∀ {e s' t} (q : List (Event Services) → Prop),
      (∀ t', Extends LeavesBus t t' → q t') →
      wp (fun _ => True) (recover rt (agentAt rt .orchestrator).name startedAt e)
        (fun _ _ t => q t) (fun _ _ t => q t) s' t := by
    intro e s' t q hq
    have hrecover : Spec (fun _ => True) LeavesBus s'
        (recover rt (agentAt rt .orchestrator).name startedAt e) _ fun _ _ => True :=
      spec_recover trivial (fun _ _ => Or.inr trivial) e
    exact wp_mono (fun _ _ t' h => hq t' h.1) (fun _ _ t' h => hq t' h.1) (hrecover t)
  refine Orchestrator.wp_lifecycle (fun _ _ _ => trivial) (covers_true _).completions
    (fun _ _ _ _ _ _ => Or.inr trivial) (Or.inr trivial) ?_ ?_ ?_ ?_
  · intro _ e t ht
    exact hhandler (IssuesOnly rt s) fun t' ht' => issuesOnly_of_leavesBus (hbefore (ht.trans ht'))
  · intro _ out t ht
    exact issuesOnly_of_leavesBus (hbefore ht)
  · intro name next rest now clock approval e t happroves hpending hissued ht _
    exact hhandler (IssuesOnly rt s) fun t' =>
      issuesOnly_of_issue happroves.aligned hpending hissued (hbefore ht)
  · intro name next rest reasoning messages now clock approval t happroves _ hpending hissued ht _
    have hrest : Steady (fun _ => True) LeavesBus True (s.withApproval approval)
        (Orchestrator.announce s reasoning next rest >>= complete .orchestrator startedAt messages)
        fun _ => True :=
      steady_bind Orchestrator.steady_announce_any fun _ h => Orchestrator.steady_complete_any h
    refine wp_mono ?_ ?_ (hrest _)
    · intro _ _ t' hpost
      exact issuesOnly_of_issue happroves.aligned hpending hissued (hbefore ht) hpost.1
    · intro e s' t' hpost
      exact hhandler (IssuesOnly rt s) fun t'' ht'' =>
        issuesOnly_of_issue happroves.aligned hpending hissued (hbefore ht) (hpost.1.trans ht'')

/-- **Approvals of a visit**: only the orchestrator hands any to the bus, and it
issued them. -/
theorem issuedDuring_of_mem {node : AgentName} {w : Surroundings Services}
    {approval : EventApproval}
    (h : approval ∈ handedToBus ((run rt (agentAt rt node)).run w s).trace) :
    node = .orchestrator ∧
      IssuedDuring rt s ((run rt (agentAt rt node)).run w s).trace approval := by
  by_cases hnode : node = .orchestrator
  · subst hnode
    have hwp : wp (fun _ => True) (run rt (agentAt rt .orchestrator))
        (fun _ _ t => IssuesOnly rt s t) (fun _ _ t => IssuesOnly rt s t) s [] :=
      wp_run_orchestrator
    have hmeets := wp_run (w := w) hwp fun _ _ => trivial
    unfold Meets at hmeets
    rw [List.nil_append] at hmeets
    refine ⟨rfl, ?_⟩
    split at hmeets
    · exact hmeets approval h
    · exact hmeets approval h
  · have hsuits : Suits (fun _ => True) LeavesBus rt s node :=
      ⟨fun _ _ _ _ _ h => by simp at h, fun h => absurd h hnode⟩
    have hleaves := (spec_visit_effect True node hsuits
      fun _ _ _ => Or.inr trivial).emits_of_mem (w := w) fun _ _ => trivial
    rw [handedToBus_eq_nil_iff.mpr hleaves] at h
    contradiction

end Visits

/-- **Approvals of a step**: those of the orchestrator, if it is at one. -/
theorem Cycle.issuedDuring_of_mem {rt : Runtime} {v : Visit} {c : Cycle}
    {approval : EventApproval} (hrange : c.state.stats.InRange)
    (h : approval ∈ handedToBus (c.events rt v)) :
    c.cursor = .at .orchestrator ∧ IssuedDuring rt c.state (c.events rt v) approval := by
  unfold events at h ⊢
  cases hcursor : c.cursor with
  | ended => simp [hcursor, handedToBus] at h
  | crashed e => simp [hcursor, handedToBus] at h
  | «at» node =>
      cases hload : GestaltGraphState.modelValidate v.received c.state.modelDump with
      | error e => simp [hcursor, hload, handedToBus] at h
      | ok s =>
          obtain ⟨rfl, -⟩ := (modelValidate_modelDump_iff hrange v.received).mp hload
          simp only [hcursor, hload] at h ⊢
          obtain ⟨rfl, hissued⟩ := Gestalt.issuedDuring_of_mem h
          exact ⟨rfl, hissued⟩

/-! ## the approvals of a cycle -/

/-- The specialists a cycle has visited, in order. -/
def Cycle.specialistsVisited (c : Cycle) : List AgentName :=
  c.visited.filter fun node => node ≠ .orchestrator

/-- The targets of the approvals a state holds, in order. -/
def GestaltGraphState.approvalTargets (s : GestaltGraphState) : List String :=
  s.approvals.map fun approval => approval.targetAgent.val

/-- Every report of the orchestrator so far is one of success. -/
def GestaltGraphState.OrchestratorSucceeds (s : GestaltGraphState) : Prop :=
  ∀ report ∈ s.executionReports, report.agentName = AgentName.orchestrator.field →
    report.status = .completed

/-- The approvals of a cycle go with its visits: before the orchestrator's turn
there is one for each specialist visited, and before the turn of a specialist
one more for it. -/
structure Cycle.Matched (c : Cycle) : Prop where
  orchestrator : c.cursor = .at .orchestrator →
    c.state.approvalTargets = c.specialistsVisited.map AgentName.name
  specialist : ∀ node, node ≠ .orchestrator → c.cursor = .at node →
    c.state.approvalTargets = c.specialistsVisited.map AgentName.name ++ [node.name]

theorem Cycle.matched_of_not_at {c : Cycle} (h : ∀ node, c.cursor ≠ .at node) : c.Matched :=
  ⟨fun hat => absurd hat (h _), fun _ _ hat => absurd hat (h _)⟩

theorem Cycle.matched_start (fresh : Fresh) (request : CycleRequest) :
    (start fresh request).Matched := by
  refine ⟨fun _ => rfl, fun node hnode hat => ?_⟩
  cases hat
  contradiction

/-- The orchestrator approves a specialist and leads there, or the cycle ends. -/
theorem Cycle.Matched.routed {rt : Runtime} {c : Cycle} {allows : Event Services → Prop}
    {art : AgentArtifacts} {s' out : GestaltGraphState} (h : c.Matched)
    (hcursor : c.cursor = .at .orchestrator) (hrouting : Routing allows rt c.state art s')
    (hscoped : ScopedToHead allows rt c.state s') (hout : CompletedAs .orchestrator s' art out) :
    Matched ⟨nextCursor .orchestrator out, out, c.visited ++ [.orchestrator]⟩ := by
  have hvisited : specialistsVisited
      ⟨nextCursor .orchestrator out, out, c.visited ++ [.orchestrator]⟩ =
        c.specialistsVisited := by
    simp [specialistsVisited]
  cases hrouting with
  | finalize _ finalizes =>
      refine matched_of_not_at fun node => ?_
      simp [nextCursor, hout.route_of_finalizes finalizes, followRoute]
  | @dispatch next rest a approval _ pending _ dispatches =>
      obtain ⟨next', rest', hpending, happroval⟩ := hscoped approval rfl
      obtain ⟨rfl, rfl⟩ : next = next' ∧ rest = rest' := by simpa [pending] using hpending
      have htarget : approval.targetAgent.val = a.name := by
        have hname := Specialist.asStr?_of_ofValue? dispatches.known
        rw [happroval.targetAgent] at hname
        exact Option.some.inj hname
      have hnext : nextCursor .orchestrator out = .at a.agent := by
        simp [nextCursor, hout.route_of_dispatches dispatches, followRoute_name]
      have htargets : out.approvalTargets = c.state.approvalTargets ++ [a.name] := by
        obtain ⟨messages, report, -, -, rfl⟩ := hout
        simp [applyStateUpdate, GestaltGraphState.approvalTargets, GestaltGraphState.withApproval,
          htarget]
      refine ⟨fun hat => ?_, fun node _ hat => ?_⟩
      · rw [hnext] at hat
        exact absurd (Cursor.at.inj hat) a.agent_ne_orchestrator
      · rw [hnext] at hat
        obtain rfl := Cursor.at.inj hat
        rw [hvisited, htargets, h.orchestrator hcursor]
        rfl

/-- A step keeps the approvals matched, as long as the orchestrator succeeds. -/
theorem Cycle.Matched.step {rt : Runtime} {v : Visit} {c : Cycle}
    (hrange : c.state.stats.InRange) (h : c.state.OrchestratorSucceeds → c.Matched)
    (hsucceeds : (c.step rt v).state.OrchestratorSucceeds) : (c.step rt v).Matched := by
  have hmoves := moves hrange rt v
  generalize c.step rt v = c' at hmoves hsucceeds ⊢
  cases hmoves with
  | stays hcursor => exact matched_of_not_at hcursor
  | rejected _ _ => exact matched_of_not_at fun _ hat => by cases hat
  | raised _ _ _ => exact matched_of_not_at fun _ hat => by cases hat
  | @visited node out hcursor _ hrun =>
      have heffect := (visitEffect_of_ok hrun).1
      obtain ⟨u⟩ := heffect.outcome.update
      have hbefore : c.Matched := by
        refine h fun report hreport => hsucceeds report ?_
        exact u.appendsTo.executionReports.subset hreport
      by_cases hnode : node = .orchestrator
      · subst hnode
        cases heffect with
        | completed specialist _ _ _ _ => contradiction
        | failed specialist _ => contradiction
        | routed _ routing head _ update => exact hbefore.routed hcursor routing head update
        | routeFailed _ _ _ update =>
            -- a failed turn of the orchestrator is no success
            obtain ⟨e, report, hreport, rfl⟩ := update
            have hcompleted := hsucceeds report (by simp [applyStateUpdate]) hreport.agentName
            rw [hreport.status_eq] at hcompleted
            contradiction
      · have hkept := heffect.outcome.approvals_of_specialist hnode
        refine ⟨fun _ => ?_, fun node' hnode' hat => ?_⟩
        · have htargets := hbefore.specialist node hnode hcursor
          simp only [GestaltGraphState.approvalTargets, hkept] at htargets ⊢
          rw [htargets]
          simp [specialistsVisited, hnode]
        · simp only [nextCursor, hnode, if_false, Cursor.at.injEq] at hat
          exact absurd hat.symm hnode'

/-! ## cycles that share a bus -/

/-- What happens next among cycles that share one bus: a turn of a cycle, or
anybody's call of a bus operation other than `approve`. -/
inductive Occurrence (ι : Type) where
  | turn (i : ι) (v : Visit)
  | publish (event : GestaltEvent) (now : Int)
  | listEvents (limit : Int)
  | close

/-- The cycles, and what has been called on the bus. -/
structure SharedBus (ι : Type) where
  cycles : ι → Cycle
  ops : List BusOp

namespace SharedBus

variable {ι : Type} [DecidableEq ι]

/-- One occurrence.  A turn hands the bus what its node execution hands it. -/
def step (rt : Runtime) (d : SharedBus ι) : Occurrence ι → SharedBus ι
  | .turn i v =>
      { cycles := Function.update d.cycles i ((d.cycles i).step rt v)
        ops := d.ops ++ (handedToBus ((d.cycles i).events rt v)).map .approve }
  | .publish event now => { d with ops := d.ops ++ [.publish event now] }
  | .listEvents limit => { d with ops := d.ops ++ [.listEvents limit] }
  | .close => { d with ops := d.ops ++ [.close] }

/-- The cycles of the requests and a new bus, after the occurrences. -/
def run (rt : Runtime) (fresh : ι → Fresh) (request : ι → CycleRequest)
    (occurrences : List (Occurrence ι)) : SharedBus ι :=
  occurrences.foldl (step rt) ⟨fun i => .start (fresh i) (request i), []⟩

omit [DecidableEq ι] in
/-- The bus. -/
def bus (d : SharedBus ι) : MemoryEventBus := .replay d.ops

variable {rt : Runtime} {fresh : ι → Fresh} {request : ι → CycleRequest}
variable {occurrences : List (Occurrence ι)}

theorem run_snoc (o : Occurrence ι) :
    run rt fresh request (occurrences ++ [o]) = (run rt fresh request occurrences).step rt o := by
  rw [run, List.foldl_append]
  rfl

/-- An invariant of cycles holds of every cycle at all times. -/
theorem run_invariant (inv : ι → Cycle → Prop)
    (hstart : ∀ i, inv i (.start (fresh i) (request i)))
    (hstep : ∀ i c v, inv i c → inv i (c.step rt v)) (i : ι) :
    inv i ((run rt fresh request occurrences).cycles i) := by
  induction occurrences using List.reverseRecOn generalizing i with
  | nil => exact hstart i
  | append_singleton occurrences o ih =>
      rw [run_snoc]
      cases o with
      | turn j v =>
          have hmoved := hstep j _ v (ih j)
          exact (Function.forall_update_iff _ inv).mpr ⟨hmoved, fun k _ => ih k⟩ i
      | publish event now => exact ih i
      | listEvents limit => exact ih i
      | close => exact ih i

theorem sound_run (i : ι) :
    ((run rt fresh request occurrences).cycles i).Sound (fresh i) (request i) :=
  run_invariant (fun i c => c.Sound (fresh i) (request i))
    (fun i => Cycle.sound_start (fresh i) (request i)) (fun _ _ v h => h.step rt v) i

/-- The orchestrator of some cycle issued the approval in the course of one of
its turns. -/
def IssuedByTurn (rt : Runtime) (fresh : ι → Fresh) (request : ι → CycleRequest)
    (occurrences : List (Occurrence ι)) (approval : EventApproval) : Prop :=
  ∃ before i v after, occurrences = before ++ .turn i v :: after ∧
    ((run rt fresh request before).cycles i).cursor = .at .orchestrator ∧
    IssuedDuring rt ((run rt fresh request before).cycles i).state
      (((run rt fresh request before).cycles i).events rt v) approval

/-- **Every call of `approve`** was made by a turn of an orchestrator, which
issued the approval. -/
theorem issuedByTurn_of_approve {approval : EventApproval}
    (h : .approve approval ∈ (run rt fresh request occurrences).ops) :
    IssuedByTurn rt fresh request occurrences approval := by
  induction occurrences using List.reverseRecOn with
  | nil => simp [run] at h
  | append_singleton occurrences o ih =>
      have hearlier : .approve approval ∈ (run rt fresh request occurrences).ops →
          IssuedByTurn rt fresh request (occurrences ++ [o]) approval := by
        intro hmem
        obtain ⟨before, i, v, after, rfl, hissued⟩ := ih hmem
        exact ⟨before, i, v, after ++ [o], by simp, hissued⟩
      rw [run_snoc] at h
      cases o with
      | publish event now => exact hearlier (by simpa [step] using h)
      | listEvents limit => exact hearlier (by simpa [step] using h)
      | close => exact hearlier (by simpa [step] using h)
      | turn i v =>
          rcases List.mem_append.mp h with h | h
          · exact hearlier h
          · obtain ⟨_, hmem, heq⟩ := List.mem_map.mp h
            cases heq
            refine ⟨occurrences, i, v, [], rfl, ?_⟩
            exact Cycle.issuedDuring_of_mem (sound_run i).inRange hmem

/-- Only orchestrators hold approvals. -/
theorem covered_by_orchestrator {event : GestaltEvent} {now : Int}
    (h : Covered (run rt fresh request occurrences).ops event now) :
    event.sourceAgent = AgentName.orchestrator.field := by
  obtain ⟨approval, -, hforce, -, hsource, -⟩ := h
  obtain ⟨before, after, heq, -⟩ := approvalInForce_iff.mp hforce
  have hissued : IssuedByTurn rt fresh request occurrences approval :=
    issuedByTurn_of_approve (by rw [heq]; simp)
  obtain ⟨_, _, _, _, -, -, hissued⟩ := hissued
  rw [← hsource, hissued.sourceAgent]

/-- **Narrow approvals.**  Among any number of cycles that share one in-memory
bus, in whatever order they take their turns, whatever fails and whatever else
is called on the bus: every approval registered was issued by an orchestrator
in the course of a turn, in its own name, for peer signals only, for the head
of its plan and for the configured lifetime from the reading just before; a
peer signal is accepted only from the orchestrator, so never from a
specialist; and while the orchestrator of a cycle succeeds, the cycle has at
each of its turns one approval for each specialist visited, in order. -/
theorem approvals_narrow (rt : Runtime) (fresh : ι → Fresh) (request : ι → CycleRequest)
    (occurrences : List (Occurrence ι)) :
    let d := run rt fresh request occurrences
    (∀ approvalId approval, d.bus.approvals.get? approvalId = some approval →
      IssuedByTurn rt fresh request occurrences approval) ∧
    (∀ event now, event.eventType = .peerSignal →
      (MemoryEventBus.perform (MemoryEventBus.publish event now) d.bus).1 = .ok event →
      event.sourceAgent = AgentName.orchestrator.field ∧
        ∀ a : Specialist, event.sourceAgent.val ≠ a.name) ∧
    ∀ i, (d.cycles i).state.OrchestratorSucceeds → (d.cycles i).cursor = .at .orchestrator →
      (d.cycles i).state.approvalTargets =
        (d.cycles i).specialistsVisited.map AgentName.name := by
  intro d
  refine ⟨?_, ?_, ?_⟩
  · intro approvalId approval hget
    obtain ⟨before, after, heq, -⟩ :=
      approvalInForce_iff.mp (MemoryEventBus.get?_approvals_replay.mp hget)
    exact issuedByTurn_of_approve (by rw [heq]; simp)
  · intro event now hpeer haccepted
    have hcovered := (MemoryEventBus.publish_replay_iff _ event now).mp haccepted hpeer
    have hsource := covered_by_orchestrator hcovered
    refine ⟨hsource, fun a => ?_⟩
    rw [hsource]
    cases a <;> decide
  · intro i hsucceeds hcursor
    have hmatched : (d.cycles i).Sound (fresh i) (request i) ∧
        ((d.cycles i).state.OrchestratorSucceeds → (d.cycles i).Matched) := by
      refine run_invariant (fun i c => c.Sound (fresh i) (request i) ∧
        (c.state.OrchestratorSucceeds → c.Matched)) ?_ ?_ i
      · exact fun i => ⟨Cycle.sound_start _ _, fun _ => Cycle.matched_start _ _⟩
      · intro i c v hinv
        exact ⟨hinv.1.step rt v, Cycle.Matched.step hinv.1.inRange hinv.2⟩
    exact (hmatched.2 hsucceeds).orchestrator hcursor

end SharedBus

end Gestalt
