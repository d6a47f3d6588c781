import Gestalt.BaseAgent.Persistence
import Gestalt.Graph.Visit

/-!
# Gestalt.Graph.Dispatch

The orchestrator's invocation and the bus.

Only the dispatch of the orchestrator hands an approval to the bus, one in an
invocation at most.  The weakest preconditions below cut its invocation there:
what comes before leaves the state object and the bus alone, and what comes
after may still fail.
-/

namespace Gestalt

open Effects Program

/-! ## approvals on their way to the bus -/

/-- The approvals handed to the bus, in order.  Both backends enter an approval
into their table before anything can go wrong. -/
def handedToBus (events : List (Event Services)) : List EventApproval :=
  events.filterMap fun
    | ⟨.call (.approve approval), _⟩ => some approval
    | _ => none

/-- An event that hands no approval to the bus. -/
def LeavesBus (ev : Event Services) : Prop := ∀ approval, ev.op ≠ .call (.approve approval)

instance : Permissive LeavesBus where
  ordinary := by
    intro ev h approval hop
    obtain ⟨op, answer⟩ := ev
    subst hop
    exact h.elim

theorem leavesBus_utcNow (site : ClockSite) (now : Int) : LeavesBus ⟨.utcNow site, now⟩ :=
  Permissive.ordinary trivial

theorem handedToBus_eq_nil_iff {events : List (Event Services)} :
    handedToBus events = [] ↔ ∀ ev ∈ events, LeavesBus ev := by
  rw [handedToBus, List.filterMap_eq_nil_iff]
  refine forall₂_congr fun ev _ => ?_
  obtain ⟨op, answer⟩ := ev
  rcases op with site | _ | call
  · simp [LeavesBus]
  · simp [LeavesBus]
  · cases call <;> simp [LeavesBus]

/-! ## bodies -/

/-- The body of an invocation in the surroundings `w`. -/
def bodyRun (rt : Runtime) (node : AgentName) (s : GestaltGraphState)
    (w : Surroundings Services) : Outcome Services GestaltGraphState Exc GestaltGraphState :=
  (lifecycle rt (agentAt rt node) (w 0 (.utcNow .started))).run (w.drop 1) s

/-- The run of an invocation whose body raises goes on with the handler. -/
theorem run_of_raises {rt : Runtime} {node : AgentName} {s : GestaltGraphState}
    {w : Surroundings Services} {e : Exc} (h : (bodyRun rt node s w).result = .error e) :
    ∃ w', (run rt (agentAt rt node)).run w s =
      let rest := (recover rt node (w 0 (.utcNow .started)) e).run w' (bodyRun rt node s w).state
      ⟨rest.result, rest.state, ⟨.utcNow .started, w 0 (.utcNow .started)⟩ ::
        ((bodyRun rt node s w).trace ++ rest.trace)⟩ := by
  have hstart : (run rt (agentAt rt node)).run w s =
      let out := ((lifecycle rt (agentAt rt node) (w 0 (.utcNow .started))).tryCatch
        (recover rt (agentAt rt node).name (w 0 (.utcNow .started)))).run (w.drop 1) s
      ⟨out.result, out.state, ⟨.utcNow .started, w 0 (.utcNow .started)⟩ :: out.trace⟩ := rfl
  refine ⟨(w.drop 1).drop (bodyRun rt node s w).trace.length, ?_⟩
  rw [hstart, run_tryCatch]
  rw [bodyRun] at h
  simp only [h, agentAt_name, bodyRun]

section Bodies

variable {rt : Runtime} {node : AgentName} {s out : GestaltGraphState}
variable {w : Surroundings Services}

/-- An invocation that reports its completion returns what its body does. -/
theorem bodyRun_of_completed {report : AgentExecutionReport}
    (hrun : ((run rt (agentAt rt node)).run w s).result = .ok out)
    (hreports : out.executionReports.getLast? = some report)
    (hcompleted : report.status = .completed) : (bodyRun rt node s w).result = .ok out := by
  cases hbody : (bodyRun rt node s w).result with
  | error e =>
      obtain ⟨w', hraised⟩ := run_of_raises hbody
      rw [hraised] at hrun
      have hrecover : Spec (fun _ => True) (fun _ => True) (bodyRun rt node s w).state
          (recover rt node (w 0 (.utcNow .started)) e) _ fun _ _ => True :=
        spec_recover trivial (fun _ _ => Or.inr trivial) e
      obtain ⟨-, ⟨failure, hfailure, rfl⟩, -⟩ := hrecover.of_ok (fun _ _ => trivial) hrun
      obtain rfl : failure = report := by simpa [applyStateUpdate] using hreports
      rw [hfailure.status_eq] at hcompleted
      contradiction
  | ok out' =>
      have hstart : ((run rt (agentAt rt node)).run w s).result =
          (((lifecycle rt (agentAt rt node) (w 0 (.utcNow .started))).tryCatch (recover rt
            (agentAt rt node).name (w 0 (.utcNow .started)))).run (w.drop 1) s).result :=
        rfl
      rw [bodyRun] at hbody
      rw [hstart, run_tryCatch, hbody] at hrun
      exact hrun

/-- The events of an invocation whose body returns. -/
theorem trace_of_bodyRun (h : (bodyRun rt node s w).result = .ok out) :
    ((run rt (agentAt rt node)).run w s).trace =
      ⟨.utcNow .started, w 0 (.utcNow .started)⟩ :: (bodyRun rt node s w).trace := by
  have hstart : ((run rt (agentAt rt node)).run w s).trace =
      ⟨.utcNow .started, w 0 (.utcNow .started)⟩ ::
        (((lifecycle rt (agentAt rt node) (w 0 (.utcNow .started))).tryCatch (recover rt
          (agentAt rt node).name (w 0 (.utcNow .started)))).run (w.drop 1) s).trace :=
    rfl
  rw [bodyRun] at h ⊢
  rw [hstart, run_tryCatch, h]

/-- A call returns or raises what it is answered. -/
theorem run_send (c : Call) (w : Surroundings Services) (s : GestaltGraphState) :
    (send c).run w s = ⟨w 0 (.call c), s, [⟨.call c, w 0 (.call c)⟩]⟩ := by
  change (⟨((Program.ofExcept (w 0 (.call c)) : Action c.Reply).run (w.drop 1) s).result,
    ((Program.ofExcept (w 0 (.call c)) : Action c.Reply).run (w.drop 1) s).state,
    ⟨.call c, w 0 (.call c)⟩ ::
      ((Program.ofExcept (w 0 (.call c)) : Action c.Reply).run (w.drop 1) s).trace⟩ :
    Outcome Services GestaltGraphState Exc c.Reply) = _
  cases w 0 (.call c) <;> rfl

/-- Preparing the context asks the blackboard, and nobody else. -/
theorem run_prepareContext (rt : Runtime) (node : AgentName) (w : Surroundings Services)
    (s : GestaltGraphState) :
    ((prepareContext rt node).run w s).state = s ∧
      ((prepareContext rt node).run w s).trace.length = 1 := by
  rw [prepareContext, run_bind, run_read]
  simp only [List.length_nil, drop_zero, List.nil_append]
  rw [run_bind, run_send]
  split <;> exact ⟨rfl, rfl⟩

/-- The alignment checks ask nothing. -/
theorem run_runAlignmentChecks (rt : Runtime) (node : AgentName) (context : AgentContextEnvelope)
    (w : Surroundings Services) (s : GestaltGraphState) :
    ((runAlignmentChecks rt node context).run w s).state = s ∧
      ((runAlignmentChecks rt node context).run w s).trace = [] := by
  rw [runAlignmentChecks, run_bind, run_read]
  simp only [List.length_nil, drop_zero, List.nil_append]
  split
  · exact ⟨rfl, rfl⟩
  · split
    · exact ⟨rfl, rfl⟩
    · split <;> exact ⟨rfl, rfl⟩

/-- A body that returns has prepared a context and built its messages, went on
with the builder and completed what it returned; where the builder keeps the
state, it does so in the state the invocation started from. -/
theorem exists_complete_of_bodyRun (h : (bodyRun rt node s w).result = .ok out)
    (hbuilder : ∀ context art,
      (((agentAt rt node).produceArtifacts context).run (w.drop 6) s).result = .ok art →
      (((agentAt rt node).produceArtifacts context).run (w.drop 6) s).state = s) :
    ∃ context messages art w', ContextOf node s context ∧
      (∀ message ∈ messages, message.traceId = s.traceId) ∧
      (((agentAt rt node).produceArtifacts context).run (w.drop 6) s).result = .ok art ∧
      ((complete node (w 0 (.utcNow .started)) messages art).run w' s).result = .ok out ∧
      ∃ before, (bodyRun rt node s w).trace =
        before ++ ((complete node (w 0 (.utcNow .started)) messages art).run w' s).trace := by
  rw [bodyRun, lifecycle, agentAt_name] at h ⊢
  obtain ⟨context, hcontext, h⟩ := exists_of_run_bind h
  obtain ⟨-, hcontextOf⟩ := Steady.of_run (steady_prepareContext fun _ _ _ => trivial) hcontext
  obtain ⟨hstate, hlength⟩ := run_prepareContext rt node (w.drop 1) s
  rw [trace_of_run_bind hcontext]
  rw [hstate, hlength, drop_drop] at h ⊢
  obtain ⟨u, haligned, h⟩ := exists_of_run_bind h
  obtain ⟨hstate, htrace⟩ := run_runAlignmentChecks rt node context (w.drop 2) s
  rw [trace_of_run_bind haligned]
  rw [hstate, htrace, List.length_nil, drop_zero] at h ⊢
  obtain ⟨messages, hmessages, h⟩ := exists_of_run_bind h
  obtain ⟨hstate, htraced⟩ := Steady.of_run (steady_buildInputMessages hcontextOf) hmessages
  have hfour : ((buildInputMessages rt node context).run (w.drop 2) s).trace.length = 4 := rfl
  rw [trace_of_run_bind hmessages]
  rw [hstate, hfour, drop_drop] at h ⊢
  obtain ⟨art, hart, h⟩ := exists_of_run_bind h
  rw [trace_of_run_bind hart]
  rw [hbuilder context art hart] at h ⊢
  refine ⟨context, messages, art, _, hcontextOf, htraced, hart, h, ?_⟩
  rw [List.nil_append, ← List.append_assoc, ← List.append_assoc]
  exact ⟨_, rfl⟩

/-- Such a body completes the invocation with the artifacts of the builder. -/
theorem completedAs_of_bodyRun (h : (bodyRun rt node s w).result = .ok out)
    (hbuilder : ∀ context art,
      (((agentAt rt node).produceArtifacts context).run (w.drop 6) s).result = .ok art →
      (((agentAt rt node).produceArtifacts context).run (w.drop 6) s).state = s ∧
        art.IssuesPending) :
    ∃ context art, ContextOf node s context ∧
      (((agentAt rt node).produceArtifacts context).run (w.drop 6) s).result = .ok art ∧
      CompletedAs node s art out := by
  obtain ⟨context, messages, art, w', hcontext, htraced, hart, hcomplete, -⟩ :=
    exists_complete_of_bodyRun h fun context art hart => (hbuilder context art hart).1
  obtain ⟨-, hout, -⟩ := Steady.of_run (spec_complete (covers_true _) trivial
    (fun _ _ => Or.inr trivial) htraced (hbuilder context art hart).2) hcomplete
  exact ⟨context, art, hcontext, hart, hout⟩

/-- A body whose blackboard query fails raises what the query does. -/
theorem bodyRun_of_unavailable {e : Exc} (hquery : ∀ q, w 1 (.call (.queryMemory q)) = .error e) :
    (bodyRun rt node s w).result = .error e ∧ (bodyRun rt node s w).state = s := by
  have hprepared : ((prepareContext rt node).run (w.drop 1) s).result = .error e := by
    rw [prepareContext, run_bind, run_read]
    simp only [List.length_nil, drop_zero]
    rw [run_bind, run_send]
    simp only [Surroundings.drop, hquery]
  rw [bodyRun, lifecycle, agentAt_name, run_bind, hprepared]
  exact ⟨rfl, (run_prepareContext rt node (w.drop 1) s).1⟩

/-- An invocation whose blackboard query fails reports that failure. -/
theorem failedWith_of_unavailable {e : Exc}
    (hquery : ∀ q, w 1 (.call (.queryMemory q)) = .error e)
    (hclock : ∀ ev ∈ ((run rt (agentAt rt node)).run w s).trace, ClockSane ev) :
    ∃ out, ((run rt (agentAt rt node)).run w s).result = .ok out ∧ FailedWith rt node e s out := by
  obtain ⟨hraises, hstate⟩ :
      (bodyRun rt node s w).result = .error e ∧ (bodyRun rt node s w).state = s :=
    bodyRun_of_unavailable hquery
  obtain ⟨w', hrun⟩ := run_of_raises hraises
  rw [hstate] at hrun
  rw [hrun] at hclock ⊢
  have hrecover : Spec ClockSane (fun _ => True) s
      (recover rt node (w 0 (.utcNow .started)) e) _ fun _ _ => False :=
    spec_recover trivial (fun _ h => Or.inl h) e
  obtain ⟨out, hout, -, hfailed, -⟩ := hrecover.exists_ok fun ev hev =>
    hclock ev (List.mem_cons_of_mem _ (List.mem_append_right _ hev))
  exact ⟨out, hout, hfailed⟩

end Bodies

/-! ## the orchestrator -/

/-- The orchestrator gets as far as an approval, for the plan element `name`. -/
structure Approves (rt : Runtime) (s : GestaltGraphState) (name : String) : Prop where
  aligned : blank s.objective.val = false
  long : 2 ≤ name.length
  planned : ∃ next rest, Orchestrator.pendingAgents rt s = some (next :: rest) ∧
    next.asStr? = some name ∧
    (rt.mocks .orchestrator s.stats = true → ∃ names, (next :: rest).mapM Value.asStr? = some names)

/-- The approval was issued for the plan element `next` at the reading `now`. -/
structure IssuedAt (rt : Runtime) (s : GestaltGraphState) (next : Value) (now : Int)
    (approval : EventApproval) : Prop where
  traceId : approval.traceId = s.traceId
  expiresAt : approval.expiresAt = now + rt.settings.events.approvalTtl
  sourceAgent : approval.sourceAgent = AgentName.orchestrator.field
  permittedEvent : approval.permittedEvent = .peerSignal
  targetAgent : next.asStr? = some approval.targetAgent.val

theorem IssuedAt.nameable {rt : Runtime} {s : GestaltGraphState} {next : Value} {now : Int}
    {approval : EventApproval} (h : IssuedAt rt s next now approval) : Nameable next :=
  ⟨_, h.targetAgent, approval.targetAgent.min_length⟩

/-- The events of an issue: the clock is read, the expiry is held against it, the
id is drawn and the bus is called. -/
def issueEvents (now clock : Int) (approval : EventApproval) (answer : Except Exc Unit) :
    List (Event Services) :=
  [⟨.utcNow .stamp, now⟩, ⟨.utcNow (.expiry approval.expiresAt), clock⟩,
    ⟨.uuid4, approval.approvalId⟩, ⟨.call (.approve approval), answer⟩]

/-- An approval names the head of the plan. -/
theorem Approves.of_pending {rt : Runtime} {s : GestaltGraphState} {name : String}
    {pending : List Value} (h : Approves rt s name)
    (hpending : Orchestrator.pendingAgents rt s = some pending) :
    ∃ next rest, pending = next :: rest ∧ next.asStr? = some name ∧ 2 ≤ name.length ∧
      (rt.mocks .orchestrator s.stats = true →
        ∃ names, (next :: rest).mapM Value.asStr? = some names) := by
  obtain ⟨-, hlong, next, rest, hplanned, hname, hnames⟩ := h
  obtain rfl : pending = next :: rest := by simpa [hpending] using hplanned
  exact ⟨next, rest, rfl, hname, hlong, hnames⟩

namespace Orchestrator

/-- The rest of a dispatch, once the approval is registered. -/
def announce (state : GestaltGraphState) (reasoning : OrchestratorReasoning) (nextAgent : Value)
    (rest : List Value) : Action AgentArtifacts := do
  let recipient ← Program.ofExcept (validate "GestaltMessage" "recipient"
    "Input should be a valid string with at least 2 characters"
    (nextAgent.asStr?.bind (MinStr.check? 2)))
  let message ← newMessage state.traceId .orchestrator AgentName.orchestrator.field recipient
    reasoning.summary.weaken []
  match Specialist.ofName? (elementText nextAgent) with
  | none => Program.raise (.keyError (elementText nextAgent))
  | some specialist =>
      return {
        summary := reasoning.summary.weaken
        messages := [message]
        decisions := [specialist.decision]
        metadataUpdates := [("current_node", nextAgent), ("pending_agents", .list rest),
          ("next_node", nextAgent)]
        metrics := [("planned_agents", (reasoning.nextAgents.length : Rat))] }

theorem exists_dispatch_eq (rt : Runtime) (context : AgentContextEnvelope) (nextAgent : Value)
    (rest : List Value) :
    ∃ userPrompt rationale, dispatch rt context nextAgent rest = (do
      let state ← Program.read
      let reasoning ← completeStructured rt .orchestrator userPrompt .orchestratorReasoning
        state.stats (mockReasoning nextAgent rest)
      let _ ← issuePeerApproval rt nextAgent rationale
      announce state reasoning nextAgent rest) :=
  ⟨_, _, rfl⟩

section Wp

variable {allows : Event Services → Prop} {mayRaise : Prop} {rt : Runtime}
variable {s : GestaltGraphState} {t : List (Event Services)} {next : Value} {rest : List Value}

/-- The name of a plan element, validated. -/
theorem wp_validateName {model path problem : String} {ok : MinStr 2 → GestaltGraphState →
      List (Event Services) → Prop} {err : Exc → GestaltGraphState → List (Event Services) → Prop}
    (htarget : Nameable next ∨ mayRaise) (hraise : mayRaise → ∀ e, err e s t)
    (hvalid : ∀ target : MinStr 2, next.asStr? = some target.val → ok target s t) :
    wp allows (Program.ofExcept (validate model path problem
      (next.asStr?.bind (MinStr.check? 2)))) ok err s t := by
  cases hcheck : next.asStr?.bind (MinStr.check? 2) with
  | some target =>
      obtain ⟨name, hname, hchecked⟩ := Option.bind_eq_some_iff.mp hcheck
      have hval : next.asStr? = some target.val := by
        rw [hname, MinStr.val_of_check? hchecked]
      exact hvalid target hval
  | none =>
      refine hraise (htarget.resolve_left fun h => ?_) _
      obtain ⟨name, hname, hlength⟩ := h
      simp [hname, MinStr.check?_of_le hlength] at hcheck

/-- The approval of a plan element: whatever comes before the call of the bus
leaves it alone. -/
theorem wp_issuePeerApproval {ok : EventApproval → GestaltGraphState → List (Event Services) → Prop}
    {err : Exc → GestaltGraphState → List (Event Services) → Prop} {rationale : MinStr 8}
    (hexpiry : ∀ now d clock, allows ⟨.utcNow .stamp, now⟩ →
      d = now + rt.settings.events.approvalTtl → allows ⟨.utcNow (.expiry d), clock⟩ →
      clock < d ∨ mayRaise)
    (htarget : Nameable next ∨ mayRaise)
    (hearly : mayRaise → ∀ e t', Extends LeavesBus t t' → err e s t')
    (hrefused : ∀ now clock approval e, IssuedAt rt s next now approval →
      allows ⟨.call (.approve approval), .error e⟩ →
      err e s (t ++ issueEvents now clock approval (.error e)))
    (haccepted : ∀ now clock approval, IssuedAt rt s next now approval →
      allows ⟨.call (.approve approval), .ok ()⟩ →
      ok approval (s.withApproval approval) (t ++ issueEvents now clock approval (.ok ()))) :
    wp allows (issuePeerApproval rt next rationale) ok err s t := by
  unfold issuePeerApproval newApproval
  rw [wp_bind, wp_read, wp_bind]
  intro now hnow
  have hread : Extends LeavesBus t (t ++ [⟨.utcNow .stamp, now⟩]) :=
    Extends.snoc t (leavesBus_utcNow .stamp now)
  rw [wp_ret, wp_bind, wp_bind]
  refine wp_validateName htarget (fun h e => hearly h e _ hread) fun target hvalid => ?_
  rw [wp_bind]
  intro clock hclock
  have hchecked := hread.trans (Extends.snoc _ (leavesBus_utcNow
    (.expiry (now + rt.settings.events.approvalTtl)) clock))
  rw [wp_ret]
  split
  · next hpast =>
      exact hearly ((hexpiry now _ clock hnow rfl hclock).resolve_left (Int.not_lt.mpr hpast)) _ _
        hchecked
  · rw [wp_bind]
    intro approvalId _
    rw [wp_ret, wp_pure]
    unfold send
    rw [wp_bind, wp_bind]
    intro answer hanswer
    cases answer with
    | error e =>
        have h := hrefused now clock _ e ⟨rfl, rfl, rfl, rfl, hvalid⟩ hanswer
        change err e s _
        simpa [issueEvents] using h
    | ok reply =>
        have h := haccepted now clock _ ⟨rfl, rfl, rfl, rfl, hvalid⟩ hanswer
        change ok _ (s.withApproval _) _
        simpa [issueEvents] using h

/-- Announcing a known specialist does not fail. -/
theorem steady_announce {a : Specialist} {state : GestaltGraphState}
    {reasoning : OrchestratorReasoning} (hknown : Specialist.ofValue? next = some a) :
    Steady allows LeavesBus False s (announce state reasoning next rest)
      fun art => art.rows = [] := by
  have hname := Specialist.asStr?_of_ofValue? hknown
  refine steady_bind (steady_validateName (Or.inl (Specialist.nameable_of_ofValue? hknown)))
    fun recipient _ => ?_
  refine steady_bind steady_newMessage fun message _ => ?_
  rw [elementText, hname, Option.getD_some, Specialist.ofName?_name]
  exact steady_pure rfl

/-- Announcing anything else fails. -/
theorem steady_announce_unknown {state : GestaltGraphState} {reasoning : OrchestratorReasoning}
    (hunknown : Specialist.ofName? (elementText next) = none) :
    Steady allows LeavesBus True s (announce state reasoning next rest) fun _ => False := by
  refine steady_bind (steady_validateName (Or.inr trivial)) fun recipient _ => ?_
  refine steady_bind steady_newMessage fun message _ => ?_
  rw [hunknown]
  exact steady_raise trivial

/-- What follows the builder may fail, but leaves the state object and the bus
alone. -/
theorem steady_complete_any {a : AgentName} {startedAt : Int} {messages : List GestaltMessage}
    {art : AgentArtifacts} (hpending : art.IssuesPending) :
    Steady allows LeavesBus True s (complete a startedAt messages art) fun _ => True := by
  refine steady_bind (steady_persistOutputs (covers_true allows) hpending) fun _ _ => ?_
  refine steady_bind (steady_buildExecutionReport fun _ _ => Or.inr trivial) fun report _ => ?_
  exact steady_read_bind (steady_pure trivial)

/-- With nothing to persist, only the clock could make what follows the builder
fail. -/
theorem steady_complete_of_rows_eq_nil {a : AgentName} {startedAt : Int}
    {messages : List GestaltMessage} {art : AgentArtifacts} (hrows : art.rows = [])
    (hclock : ∀ now, allows ⟨.utcNow (.finished startedAt), now⟩ → startedAt ≤ now) :
    Steady allows LeavesBus False s (complete a startedAt messages art) fun _ => True := by
  have hpersist : persistOutputs art = pure () := by
    simp only [AgentArtifacts.rows, List.append_eq_nil_iff, List.map_eq_nil_iff] at hrows
    obtain ⟨hmemories, hcommands, hstats, haudit, hproposals⟩ := hrows
    simp only [persistOutputs, hmemories, hcommands, hstats, haudit, hproposals]
    rfl
  have hpure : Steady allows LeavesBus False s (pure () : Action Unit) fun _ => True :=
    steady_pure trivial
  unfold complete
  rw [hpersist]
  refine steady_bind hpure fun _ _ => ?_
  refine steady_bind (steady_buildExecutionReport fun now h => Or.inl (hclock now h))
    fun report _ => ?_
  exact steady_read_bind (steady_pure trivial)

/-- An empty plan is summarised; whatever goes wrong leaves the bus alone. -/
theorem steady_finalize_complete {startedAt : Int} {messages : List GestaltMessage} :
    Steady allows LeavesBus True s
      (finalize rt >>= complete .orchestrator startedAt messages) fun _ => True :=
  steady_bind (steady_finalize (covers_true allows) (Or.inr trivial))
    fun _ h => steady_complete_any (AgentArtifacts.issuesPending_of_nil h.2.commands)

/-- The deterministic reasoning is built exactly from a plan of names. -/
theorem mockReasoning_eq_ok_iff :
    (∃ reasoning, mockReasoning next rest = .ok reasoning) ↔
      ∃ names, (next :: rest).mapM Value.asStr? = some names := by
  cases hnames : (next :: rest).mapM Value.asStr? with
  | none => simp [mockReasoning, hnames, validate]
  | some names => simp [mockReasoning, hnames, validate]

/-- Once the reasoning is there, a name at the head of the plan is approved. -/
theorem exists_approves {reasoning : OrchestratorReasoning}
    (haligned : blank s.objective.val = false)
    (hpending : pendingAgents rt s = some (next :: rest))
    (hreplied : Replied allows rt .orchestrator s.stats .orchestratorReasoning
      (mockReasoning next rest) reasoning)
    (hnameable : Nameable next) : ∃ name, Approves rt s name ∧ next.asStr? = some name := by
  obtain ⟨name, hname, hlong⟩ := hnameable
  have hnames : rt.mocks .orchestrator s.stats = true →
      ∃ names, (next :: rest).mapM Value.asStr? = some names := by
    intro hmocks
    rcases hreplied with ⟨-, hmock⟩ | ⟨hmocks', -⟩
    · exact mockReasoning_eq_ok_iff.mp ⟨reasoning, hmock⟩
    · simp [hmocks] at hmocks'
  exact ⟨name, ⟨haligned, hlong, next, rest, hpending, hname, hnames⟩, hname⟩

/-- A dispatch up to its approval. -/
theorem wp_dispatch {ok : GestaltGraphState → GestaltGraphState → List (Event Services) → Prop}
    {err : Exc → GestaltGraphState → List (Event Services) → Prop} {startedAt : Int}
    {context : AgentContextEnvelope} {messages : List GestaltMessage}
    (hcompletes : CoversCompletions allows mayRaise)
    (hexpiry : ∀ now d clock, allows ⟨.utcNow .stamp, now⟩ →
      d = now + rt.settings.events.approvalTtl → allows ⟨.utcNow (.expiry d), clock⟩ →
      clock < d ∨ mayRaise)
    (haligned : blank s.objective.val = false)
    (hpending : pendingAgents rt s = some (next :: rest))
    (hhead : (∃ name, next.asStr? = some name ∧ 2 ≤ name.length ∧
      (rt.mocks .orchestrator s.stats = true →
        ∃ names, (next :: rest).mapM Value.asStr? = some names)) ∨ mayRaise)
    (hearly : mayRaise → ∀ e t', Extends LeavesBus t t' → err e s t')
    (hrefused : ∀ name now clock approval e t', Approves rt s name →
      IssuedAt rt s next now approval → Extends LeavesBus t t' →
      allows ⟨.call (.approve approval), .error e⟩ →
      err e s (t' ++ issueEvents now clock approval (.error e)))
    (haccepted : ∀ name reasoning now clock approval t', Approves rt s name →
      next.asStr? = some name → IssuedAt rt s next now approval → Extends LeavesBus t t' →
      allows ⟨.call (.approve approval), .ok ()⟩ →
      wp allows (announce s reasoning next rest >>= complete .orchestrator startedAt messages)
        ok err (s.withApproval approval) (t' ++ issueEvents now clock approval (.ok ()))) :
    wp allows (dispatch rt context next rest >>= complete .orchestrator startedAt messages)
      ok err s t := by
  obtain ⟨userPrompt, rationale, hdispatch⟩ := exists_dispatch_eq rt context next rest
  rw [hdispatch, wp_bind, wp_bind, wp_read]
  have hcompleted : Steady allows LeavesBus mayRaise s
      (completeStructured rt .orchestrator userPrompt .orchestratorReasoning s.stats
        (mockReasoning next rest)) _ := steady_completeStructured hcompletes ?_
  · refine hcompleted.wp_bind hearly fun reasoning t₁ ht₁ hreplied => ?_
    have happroved := exists_approves haligned hpending hreplied
    rw [wp_bind]
    refine wp_issuePeerApproval hexpiry ?_ (fun h e t' ht' => hearly h e t' (ht₁.trans ht')) ?_ ?_
    · exact hhead.imp_left fun h => ⟨h.choose, h.choose_spec.1, h.choose_spec.2.1⟩
    · intro now clock approval e hissued hanswer
      obtain ⟨name, happroves, -⟩ := happroved hissued.nameable
      exact hrefused name now clock approval e t₁ happroves hissued ht₁ hanswer
    · intro now clock approval hissued hanswer
      obtain ⟨name, happroves, hname⟩ := happroved hissued.nameable
      rw [← wp_bind]
      exact haccepted name reasoning now clock approval t₁ happroves hname hissued ht₁ hanswer
  · intro hmocks e he
    refine hhead.resolve_left fun h => ?_
    obtain ⟨name, -, -, hnames⟩ := h
    obtain ⟨reasoning, hreasoning⟩ := mockReasoning_eq_ok_iff.mpr (hnames hmocks)
    simp [hreasoning] at he

/-- **The orchestrator's invocation up to its approval.**  Whatever goes wrong
before it has left the state object and the bus alone; what may go wrong after
it is up to `hrefused` and `haccepted`. -/
theorem wp_lifecycle
    {ok : GestaltGraphState → GestaltGraphState → List (Event Services) → Prop}
    {err : Exc → GestaltGraphState → List (Event Services) → Prop} {startedAt : Int}
    (hquery : ∀ q e, allows ⟨.call (.queryMemory q), .error e⟩ → mayRaise)
    (hcompletes : CoversCompletions allows mayRaise)
    (hexpiry : ∀ now d clock, allows ⟨.utcNow .stamp, now⟩ →
      d = now + rt.settings.events.approvalTtl → allows ⟨.utcNow (.expiry d), clock⟩ →
      clock < d ∨ mayRaise)
    (happroves : (∃ name, Approves rt s name) ∨ mayRaise)
    (hearly : mayRaise → ∀ e t', Extends LeavesBus t t' → err e s t')
    (hdone : mayRaise → ∀ out t', Extends LeavesBus t t' → ok out s t')
    (hrefused : ∀ name next rest now clock approval e t', Approves rt s name →
      pendingAgents rt s = some (next :: rest) → IssuedAt rt s next now approval →
      Extends LeavesBus t t' → allows ⟨.call (.approve approval), .error e⟩ →
      err e s (t' ++ issueEvents now clock approval (.error e)))
    (haccepted : ∀ name next rest reasoning messages now clock approval t', Approves rt s name →
      next.asStr? = some name → pendingAgents rt s = some (next :: rest) →
      IssuedAt rt s next now approval → Extends LeavesBus t t' →
      allows ⟨.call (.approve approval), .ok ()⟩ →
      wp allows (announce s reasoning next rest >>= complete .orchestrator startedAt messages)
        ok err (s.withApproval approval) (t' ++ issueEvents now clock approval (.ok ()))) :
    wp allows (lifecycle rt (agentAt rt .orchestrator) startedAt) ok err s t := by
  have hblank : blank s.objective.val = true → mayRaise := by
    intro hblank
    refine happroves.resolve_left fun h => ?_
    obtain ⟨name, h⟩ := h
    simp [h.aligned] at hblank
  unfold lifecycle
  refine (steady_prepareContext hquery).wp_bind hearly fun context t₁ ht₁ hcontext => ?_
  refine (steady_runAlignmentChecks hcontext hblank).wp_bind
    (fun h e t' ht' => hearly h e t' (ht₁.trans ht')) fun _ t₂ ht₂ haligned => ?_
  refine (steady_buildInputMessages hcontext).wp_bind
    (fun h e t' ht' => hearly h e t' ((ht₁.trans ht₂).trans ht')) fun messages t₃ ht₃ _ => ?_
  have hbefore := (ht₁.trans ht₂).trans ht₃
  change wp allows (produceArtifacts rt context >>= complete .orchestrator startedAt messages) _ _
    s t₃
  unfold produceArtifacts
  rw [wp_bind, wp_bind, wp_read]
  cases hpending : pendingAgents rt s with
  | none =>
      refine hearly (happroves.resolve_left fun h => ?_) _ _ hbefore
      obtain ⟨name, -, -, next, rest, hplanned, -⟩ := h
      simp [hpending] at hplanned
  | some pending =>
      have hplanned := happroves.imp_left fun ⟨name, h⟩ => Exists.intro name (h.of_pending hpending)
      cases pending with
      | nil =>
          have hraise : mayRaise := hplanned.resolve_left (by simp)
          rw [← wp_bind]
          refine wp_mono ?_ ?_ (steady_finalize_complete t₃)
          · intro out _ t' hpost
            obtain ⟨ht', rfl, -⟩ := hpost
            exact hdone hraise out t' (hbefore.trans ht')
          · intro e _ t' hpost
            obtain ⟨ht', rfl, -⟩ := hpost
            exact hearly hraise e t' (hbefore.trans ht')
      | cons next rest =>
          rw [← wp_bind]
          refine wp_dispatch hcompletes hexpiry haligned hpending ?_
            (fun h e t' ht' => hearly h e t' (hbefore.trans ht')) ?_ ?_
          · refine hplanned.imp_left fun h => ?_
            obtain ⟨name, next', rest', hcons, hnames⟩ := h
            cases hcons
            exact ⟨name, hnames⟩
          · intro name now clock approval e t' happroves hissued ht' hanswer
            exact hrefused name next rest now clock approval e t' happroves hpending hissued
              (hbefore.trans ht') hanswer
          · intro name reasoning now clock approval t' happroves hname hissued ht' hanswer
            exact haccepted name next rest reasoning messages now clock approval t' happroves
              hname hpending hissued (hbefore.trans ht') hanswer

end Wp

end Orchestrator

end Gestalt
