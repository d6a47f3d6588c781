import Gestalt.Graph
import Gestalt.Orchestrator.Spec

/-!
# Gestalt.Graph.Visit

What one visit to a node can do to the state of a cycle.

`VisitOutcome` lists the ways an invocation can end: a specialist completes or
fails, the orchestrator routes or fails.  Every run of a node that returns has
one of them, whatever the world answers, so an invariant of cycles is proved
by looking at four cases.  `Update` is what all of them have in common, and is
all that most invariants need.
-/

namespace Gestalt

open Effects Program

/-! ## how the world may behave -/

/-- A call succeeds, and a completion comes back parsed. -/
def Answered : Event Services → Prop
  | ⟨.call (.acompletion _ _), answer⟩ => ∃ reply, answer = .ok (some reply)
  | ⟨.call _, answer⟩ => ∃ reply, answer = .ok reply
  | _ => True

/-- A new approval is validated before it expires. -/
def InTime : Event Services → Prop
  | ⟨.utcNow (.expiry expiresAt), now⟩ => now < expiresAt
  | _ => True

/-- The clock does not read less at the end of an invocation than at its start. -/
def ClockSane : Event Services → Prop
  | ⟨.utcNow (.finished startedAt), now⟩ => startedAt ≤ now
  | _ => True

/-- Nothing goes wrong outside the process. -/
structure Calm (ev : Event Services) : Prop where
  answered : Answered ev
  inTime : InTime ev
  clockSane : ClockSane ev

/-- Where every call succeeds, no failure has to be covered. -/
theorem covers_of_answered {allows : Event Services → Prop} (h : ∀ ev, allows ev → Answered ev) :
    Covers allows False where
  call c e hallows := by
    have hanswered := h _ hallows
    cases c <;> simp [Answered] at hanswered
  parsed request responseModel hallows := by
    have hanswered := h _ hallows
    simp [Answered] at hanswered

/-! ## the nodes -/

/-- The command text a visit to the node may hand to the shell. -/
def shellText (s : GestaltGraphState) (node : AgentName) : Option String :=
  if node = .plannerExecutor then
    some (PlannerExecutor.commandText s.objective.val
      (inboundCommands .plannerExecutor s.commands).head?)
  else none

/-- A visit to the node may hand its command text to the shell and, at the
orchestrator, register approvals scoped to the head of the plan. -/
structure Suits (allows emits : Event Services → Prop) (rt : Runtime) (s : GestaltGraphState)
    (node : AgentName) : Prop where
  shell : ∀ text cwd answer, shellText s node = some text →
    emits ⟨.call (.bash text cwd 15), answer⟩
  approvals : node = .orchestrator → RegistersScoped allows emits rt s

/-- Its own command text is the only one a node hands to the shell. -/
theorem suits_shellText (allows : Event Services → Prop) (rt : Runtime) (s : GestaltGraphState)
    (node : AgentName) : Suits allows (RunsOnly (shellText s node)) rt s node where
  shell text cwd answer htext command cwd' timeoutSeconds hop := by
    injection hop with hop
    injection hop with hop
    rw [htext, hop]
  approvals _ _ _ _ _ _ _ _ _ _ hop := by
    injection hop with hop
    contradiction

/-- Where nothing is restricted, every node may do as it does. -/
theorem suits_any (allows : Event Services → Prop) (rt : Runtime) (s : GestaltGraphState)
    (node : AgentName) : Suits allows (fun _ => True) rt s node :=
  ⟨fun _ _ _ _ => trivial, fun _ _ _ _ _ _ _ => trivial⟩

/-- The builder of every specialist keeps the specialists' contract. -/
theorem steady_specialist {allows emits : Event Services → Prop} [Permissive emits] {rt : Runtime}
    {node : AgentName} (hnode : node ≠ .orchestrator) {s : GestaltGraphState}
    {context : AgentContextEnvelope} (hcontext : ContextOf node s context)
    (hsuits : Suits allows emits rt s node) :
    Steady allows emits True s ((agentAt rt node).produceArtifacts context)
      fun art => SpecialistArtifacts rt node s art ∧ Emits allows rt s s.objective node art := by
  rw [← hcontext.objective]
  cases node with
  | orchestrator => contradiction
  | monitor => exact steady_monitor
  | analyzer => exact steady_analyzer (covers_true allows) fun _ _ _ => trivial
  | plannerExecutor =>
      refine steady_plannerExecutor fun cwd answer => hsuits.shell _ cwd answer ?_
      rw [shellText, if_pos rfl, hcontext.objective, hcontext.inbound]
  | optimizer => exact steady_optimizer
  | knowledge => exact steady_knowledge
  | securityAudit => exact steady_securityAudit (covers_true allows) (Or.inr trivial)

theorem agentAt_name (rt : Runtime) (node : AgentName) : (agentAt rt node).name = node := by
  cases node <;> rfl

/-- How an invocation of the agent at a node can end: the state `out` it
returns, given the state `s` it was handed. -/
inductive VisitOutcome (allows : Event Services → Prop) (rt : Runtime) (s : GestaltGraphState) :
    AgentName → GestaltGraphState → Prop where
  | completed {node : AgentName} {art : AgentArtifacts} {out : GestaltGraphState}
      (specialist : node ≠ .orchestrator) (aligned : blank s.objective.val = false)
      (artifacts : SpecialistArtifacts rt node s art)
      (update : CompletedAs node s art out) : VisitOutcome allows rt s node out
  | failed {node : AgentName} {out : GestaltGraphState} (specialist : node ≠ .orchestrator)
      (update : FailedAs rt node s out) : VisitOutcome allows rt s node out
  | routed {art : AgentArtifacts} {s' out : GestaltGraphState}
      (aligned : blank s.objective.val = false) (routing : Routing allows rt s art s')
      (update : CompletedAs .orchestrator s' art out) :
      VisitOutcome allows rt s .orchestrator out
  | routeFailed {s' out : GestaltGraphState} (left : AtMostIssued allows rt s s')
      (update : FailedAs rt .orchestrator s' out) : VisitOutcome allows rt s .orchestrator out

/-- How an invocation can end, with what it emitted and what it approved. -/
inductive VisitEffect (allows : Event Services → Prop) (rt : Runtime) (s : GestaltGraphState) :
    AgentName → GestaltGraphState → Prop where
  | completed {node : AgentName} {art : AgentArtifacts} {out : GestaltGraphState}
      (specialist : node ≠ .orchestrator) (aligned : blank s.objective.val = false)
      (artifacts : SpecialistArtifacts rt node s art)
      (emitted : Emits allows rt s s.objective node art)
      (update : CompletedAs node s art out) : VisitEffect allows rt s node out
  | failed {node : AgentName} {out : GestaltGraphState} (specialist : node ≠ .orchestrator)
      (update : FailedAs rt node s out) : VisitEffect allows rt s node out
  | routed {art : AgentArtifacts} {s' out : GestaltGraphState}
      (aligned : blank s.objective.val = false) (routing : Routing allows rt s art s')
      (head : ScopedToHead allows rt s s') (summarizes : Summarizes s art)
      (update : CompletedAs .orchestrator s' art out) : VisitEffect allows rt s .orchestrator out
  | routeFailed {s' out : GestaltGraphState} (left : AtMostIssued allows rt s s')
      (aligned : s' = s ∨ blank s.objective.val = false) (head : ScopedToHead allows rt s s')
      (update : FailedAs rt .orchestrator s' out) : VisitEffect allows rt s .orchestrator out

theorem VisitEffect.outcome {allows : Event Services → Prop} {rt : Runtime}
    {s out : GestaltGraphState} {node : AgentName} (h : VisitEffect allows rt s node out) :
    VisitOutcome allows rt s node out := by
  cases h with
  | completed specialist aligned artifacts _ update =>
      exact .completed specialist aligned artifacts update
  | failed specialist update => exact .failed specialist update
  | routed aligned routing _ _ update => exact .routed aligned routing update
  | routeFailed left _ _ update => exact .routeFailed left update

section Runs

variable {allows : Event Services → Prop} {mayRaise : Prop} {rt : Runtime}
variable {emits : Event Services → Prop} [Permissive emits] {s : GestaltGraphState}

/-- A specialist's invocation, whatever fails during it. -/
theorem spec_run_specialist {node : AgentName} (hnode : node ≠ .orchestrator)
    (hsuits : Suits allows emits rt s node)
    (hclock : ∀ startedAt now, allows ⟨.utcNow (.finished startedAt), now⟩ →
      startedAt ≤ now ∨ mayRaise) :
    Spec allows emits s (run rt (agentAt rt node))
      (fun out s' => s' = s ∧ VisitEffect allows rt s node out ∧ Timed allows out)
      fun _ _ => mayRaise := by
  refine Spec.mono (spec_run (· = s) (fun art s' => s' = s ∧ SpecialistArtifacts rt node s art ∧
      Emits allows rt s s.objective node art) (covers_true allows) ?_
    (fun _ => trivial) rfl ?_ ?_) ?_ fun _ _ h => h
  · exact fun startedAt now h => (hclock startedAt now h).imp_right fun h => ⟨trivial, h⟩
  · intro context hcontext _
    rw [agentAt_name] at hcontext
    exact steady_specialist hnode hcontext hsuits
  · intro art _ hpost
    obtain ⟨rfl, -, hemitted⟩ := hpost
    exact ⟨rfl, rfl, hemitted.issuesPending⟩
  · intro out _ hpost
    obtain ⟨htimed, ⟨haligned, art, ⟨rfl, hart, hemitted⟩, hout⟩ | ⟨-, rfl, hout⟩⟩ := hpost
    · rw [agentAt_name] at hout
      exact ⟨rfl, .completed hnode haligned hart hemitted hout, htimed⟩
    · rw [agentAt_name] at hout
      exact ⟨rfl, .failed hnode hout, htimed⟩

/-- An invocation whose calls succeed and whose clock is sane completes where the
builder cannot raise. -/
theorem spec_run_completed {node : AgentName} {ok : AgentArtifacts → Prop}
    (hanswered : ∀ ev, allows ev → Answered ev) (hclock : ∀ ev, allows ev → ClockSane ev)
    (haligned : blank s.objective.val = false)
    (hbuilder : ∀ context, ContextOf node s context →
      Steady allows emits False s ((agentAt rt node).produceArtifacts context) ok)
    (hpending : ∀ art, ok art → art.IssuesPending) :
    Spec allows emits s (run rt (agentAt rt node))
      (fun out _ => ∃ art, ok art ∧ CompletedAs node s art out) fun _ _ => False := by
  refine Spec.mono (spec_run (fun _ => True) (fun art s' => s' = s ∧ ok art)
    (covers_of_answered hanswered)
    (fun startedAt now h => Or.inl (hclock _ h)) (fun h => by simp [haligned] at h)
    trivial ?_ ?_) ?_ fun _ _ h => h
  · intro context hcontext _
    rw [agentAt_name] at hcontext
    exact Spec.mono (hbuilder context hcontext) (fun _ _ h => h) fun _ _ h => ⟨trivial, h.2⟩
  · intro art _ hpost
    obtain ⟨rfl, hart⟩ := hpost
    exact ⟨trivial, rfl, hpending art hart⟩
  · intro out _ hpost
    obtain ⟨-, ⟨-, art, ⟨rfl, hart⟩, hout⟩ | ⟨h, -⟩⟩ := hpost
    · rw [agentAt_name] at hout
      exact ⟨art, hart, hout⟩
    · exact h.elim

/-- The orchestrator's invocation; `mayFail` covers every reason for it to
report a failure. -/
theorem spec_run_orchestrator {mayFail : Prop} (hcovers : Covers allows mayFail)
    (hexpiry : ∀ d now, allows ⟨.utcNow (.expiry d), now⟩ → now < d ∨ mayFail)
    (happrove : RegistersScoped allows emits rt s)
    (hclock : ∀ startedAt now, allows ⟨.utcNow (.finished startedAt), now⟩ →
      startedAt ≤ now ∨ (mayFail ∧ mayRaise))
    (hblank : blank s.objective.val = true → mayFail)
    (hplan : (∃ plan, Orchestrator.plan? rt s = some plan) ∨ mayFail)
    (hrange : s.stats.InRange ∨ mayFail) :
    Spec allows emits s (run rt (agentAt rt .orchestrator))
      (fun out s' => Timed allows out ∧
        ((blank s.objective.val = false ∧
          ∃ art, Routing allows rt s art s' ∧ ScopedToHead allows rt s s' ∧ Summarizes s art ∧
            CompletedAs .orchestrator s' art out) ∨
        (mayFail ∧ AtMostIssued allows rt s s' ∧ (s' = s ∨ blank s.objective.val = false) ∧
          ScopedToHead allows rt s s' ∧ FailedAs rt .orchestrator s' out)))
      fun _ _ => mayRaise := by
  refine Spec.mono (spec_run
    (fun s' => AtMostIssued allows rt s s' ∧ (s' = s ∨ blank s.objective.val = false) ∧
      ScopedToHead allows rt s s')
    (fun art s' => blank s.objective.val = false ∧ Routing allows rt s art s' ∧
      ScopedToHead allows rt s s' ∧ Summarizes s art)
    hcovers hclock hblank ⟨Or.inl rfl, Or.inl rfl, scopedToHead_self allows rt s⟩ ?_ ?_) ?_
    fun _ _ h => h
  · intro context _ haligned
    refine Spec.mono
      (Orchestrator.spec_produceArtifacts hcovers hexpiry happrove hplan hrange) ?_ ?_
    · exact fun _ _ h => ⟨haligned, h⟩
    · exact fun _ _ h => ⟨⟨h.1.1, Or.inr haligned, h.1.2⟩, h.2⟩
  · intro art _ hpost
    obtain ⟨haligned, hrouting, hscoped, hsummary⟩ := hpost
    have hpending := AgentArtifacts.issuesPending_of_nil hsummary.commands
    cases hrouting with
    | dispatch _ issued _ =>
        exact ⟨⟨Or.inr ⟨_, issued, rfl⟩, Or.inr haligned, hscoped⟩, rfl, hpending⟩
    | finalize _ _ => exact ⟨⟨Or.inl rfl, Or.inl rfl, hscoped⟩, rfl, hpending⟩
  · intro out s' hpost
    obtain ⟨htimed, ⟨haligned, art, ⟨-, hrouting, hscoped, hsummary⟩, hout⟩ |
      ⟨hfail, ⟨hleft, hblank, hscoped⟩, hout⟩⟩ := hpost
    · exact ⟨htimed, Or.inl ⟨haligned, art, hrouting, hscoped, hsummary, hout⟩⟩
    · exact ⟨htimed, Or.inr ⟨hfail, hleft, hblank, hscoped, hout⟩⟩

/-- **Every visit**: a run that returns ends in one of the four ways, and a
run that raises did so because the clock stepped back. -/
theorem spec_visit_effect (mayRaise : Prop) (node : AgentName)
    (hsuits : Suits allows emits rt s node)
    (hclock : ∀ startedAt now, allows ⟨.utcNow (.finished startedAt), now⟩ →
      startedAt ≤ now ∨ mayRaise) :
    Spec allows emits s (run rt (agentAt rt node))
      (fun out _ => VisitEffect allows rt s node out ∧ Timed allows out)
      fun _ _ => mayRaise := by
  by_cases hnode : node = .orchestrator
  · subst hnode
    refine Spec.mono (spec_run_orchestrator (covers_true allows)
      (fun _ _ _ => Or.inr trivial) (hsuits.approvals rfl) ?_ (fun _ => trivial) (Or.inr trivial)
      (Or.inr trivial)) ?_ fun _ _ h => h
    · exact fun startedAt now h => (hclock startedAt now h).imp_right fun h => ⟨trivial, h⟩
    · intro out _ hpost
      obtain ⟨htimed, ⟨haligned, art, hrouting, hscoped, hsummary, hout⟩ |
        ⟨-, hleft, hblank, hscoped, hout⟩⟩ := hpost
      · exact ⟨.routed haligned hrouting hscoped hsummary hout, htimed⟩
      · exact ⟨.routeFailed hleft hblank hscoped hout, htimed⟩
  · exact Spec.mono (spec_run_specialist hnode hsuits hclock) (fun _ _ h => h.2) fun _ _ h => h

omit [Permissive emits] in
/-- Every visit, with the command text the node may hand to the shell. -/
theorem spec_visit (allows : Event Services → Prop) (mayRaise : Prop) (node : AgentName)
    (hclock : ∀ startedAt now, allows ⟨.utcNow (.finished startedAt), now⟩ →
      startedAt ≤ now ∨ mayRaise) :
    Spec allows (RunsOnly (shellText s node)) s (run rt (agentAt rt node))
      (fun out _ => VisitOutcome allows rt s node out) fun _ _ => mayRaise :=
  Spec.mono (spec_visit_effect mayRaise node (suits_shellText allows rt s node) hclock)
    (fun _ _ h => h.1.outcome) fun _ _ h => h

omit [Permissive emits] in
/-- A specialist during whose visit the clock steps back raises. -/
theorem spec_visit_steppedBack {node : AgentName} (hnode : node ≠ .orchestrator)
    (hclock : ∀ startedAt now, allows ⟨.utcNow (.finished startedAt), now⟩ → now < startedAt) :
    Spec allows (RunsOnly (shellText s node)) s (run rt (agentAt rt node)) (fun _ _ => False)
      fun _ _ => True := by
  refine spec_run_steppedBack hclock fun context hcontext => ?_
  rw [agentAt_name] at hcontext
  exact Spec.mono (steady_specialist hnode hcontext (suits_shellText allows rt s node))
    (fun _ _ h => h.2.2.issuesPending) fun _ _ _ => trivial

omit [Permissive emits] in
/-- A plan of known specialists and scores in range: where nothing goes wrong
outside the process, the orchestrator completes. -/
theorem spec_run_orchestrator_calm (hallows : ∀ ev, allows ev → Calm ev)
    (hblank : blank s.objective.val = false) {plan : List Specialist}
    (hplan : Orchestrator.plan? rt s = some plan) (hrange : s.stats.InRange) :
    Spec allows (RunsOnly none) s (run rt (agentAt rt .orchestrator))
      (fun out _ => ∃ art s', Routing allows rt s art s' ∧ CompletedAs .orchestrator s' art out)
      fun _ _ => False := by
  refine Spec.mono (spec_run_orchestrator
    (covers_of_answered fun ev h => (hallows ev h).answered)
    (fun d now h => Or.inl (hallows _ h).inTime)
    ((suits_shellText allows rt s .orchestrator).approvals rfl)
    (fun startedAt now h => Or.inl (hallows _ h).clockSane)
    (fun h => by simp [hblank] at h) (Or.inl ⟨plan, hplan⟩) (Or.inl hrange)) ?_ fun _ _ h => h
  intro out s' hpost
  obtain ⟨-, ⟨-, art, hrouting, -, -, hout⟩ | ⟨h, -⟩⟩ := hpost
  · exact ⟨art, s', hrouting, hout⟩
  · exact h.elim

end Runs

/-! ## what all outcomes have in common -/

/-- An update of the state: approvals are issued, messages, artifacts and a
report are merged, and the metadata changes. -/
structure Update (allows : Event Services → Prop) (rt : Runtime) (node : AgentName)
    (s out : GestaltGraphState) where
  issued : List EventApproval
  messages : List GestaltMessage
  artifacts : AgentArtifacts
  report : AgentExecutionReport
  metadata : Dict Value
  approved : ∀ a ∈ issued, Issued allows rt s a
  traced_messages : ∀ m ∈ messages, m.traceId = s.traceId
  traced_artifacts : artifacts.Traced s.traceId
  reported : ∃ status, ReportOf node status artifacts s report
  out_eq : out =
    { applyStateUpdate { s with approvals := s.approvals ++ issued } messages artifacts report with
      metadata := metadata }

theorem traced_failureArtifacts (rt : Runtime) (a : AgentName) (e : Exc) (t : Uuid) :
    (failureArtifacts rt a e).Traced t := by
  constructor <;> simp [failureArtifacts]

/-- What an invocation leaves behind in the state object is an approval or nothing. -/
theorem AtMostIssued.exists_issued {allows : Event Services → Prop} {rt : Runtime}
    {s s' : GestaltGraphState} (h : AtMostIssued allows rt s s') :
    ∃ issued, (∀ a ∈ issued, Issued allows rt s a) ∧
      s' = { s with approvals := s.approvals ++ issued } := by
  rcases h with rfl | ⟨approval, hissued, rfl⟩
  · exact ⟨[], by simp, by simp⟩
  · exact ⟨[approval], by simpa using hissued, rfl⟩

theorem Routing.atMostIssued {allows : Event Services → Prop} {rt : Runtime}
    {s s' : GestaltGraphState} {art : AgentArtifacts} (h : Routing allows rt s art s') :
    AtMostIssued allows rt s s' := by
  cases h with
  | dispatch _ issued _ => exact Or.inr ⟨_, issued, rfl⟩
  | finalize _ _ => exact Or.inl rfl

theorem Routing.traced {allows : Event Services → Prop} {rt : Runtime}
    {s s' : GestaltGraphState} {art : AgentArtifacts} (h : Routing allows rt s art s') :
    art.Traced s.traceId := by
  cases h with
  | dispatch _ _ dispatches => exact dispatches.traced
  | finalize _ finalizes => exact finalizes.traced

section Update

variable {allows : Event Services → Prop} {rt : Runtime} {s out : GestaltGraphState}
variable {node : AgentName}

theorem CompletedAs.update {art : AgentArtifacts} {issued : List EventApproval}
    (hissued : ∀ a ∈ issued, Issued allows rt s a) (htraced : art.Traced s.traceId)
    (h : CompletedAs node { s with approvals := s.approvals ++ issued } art out) :
    Nonempty (Update allows rt node s out) := by
  obtain ⟨messages, report, hmessages, hreport, rfl⟩ := h
  refine ⟨⟨issued, messages ++ art.messages, art, report, _, hissued, ?_, htraced,
    ⟨_, ⟨hreport.traceId, hreport.agentName, hreport.status_eq, hreport.summary,
      hreport.commands, hreport.memories⟩⟩, rfl⟩⟩
  intro m hm
  exact (List.mem_append.mp hm).elim (hmessages m) (htraced.messages m)

theorem FailedAs.update {issued : List EventApproval}
    (hissued : ∀ a ∈ issued, Issued allows rt s a)
    (h : FailedAs rt node { s with approvals := s.approvals ++ issued } out) :
    Nonempty (Update allows rt node s out) := by
  obtain ⟨e, report, hreport, rfl⟩ := h
  exact ⟨⟨issued, [], failureArtifacts rt node e, report, _, hissued, by simp,
    traced_failureArtifacts rt node e _,
    ⟨_, ⟨hreport.traceId, hreport.agentName, hreport.status_eq, hreport.summary,
      hreport.commands, hreport.memories⟩⟩, rfl⟩⟩

/-- Every outcome is an update. -/
theorem VisitOutcome.update (h : VisitOutcome allows rt s node out) :
    Nonempty (Update allows rt node s out) := by
  have hself : s = { s with approvals := s.approvals ++ [] } := by simp
  cases h with
  | completed _ _ artifacts update =>
      rw [hself] at update
      exact CompletedAs.update (by simp) artifacts.traced update
  | failed _ update =>
      rw [hself] at update
      exact FailedAs.update (by simp) update
  | routed _ routing update =>
      obtain ⟨issued, hissued, rfl⟩ := routing.atMostIssued.exists_issued
      exact CompletedAs.update hissued routing.traced update
  | routeFailed left update =>
      obtain ⟨issued, hissued, rfl⟩ := left.exists_issued
      exact FailedAs.update hissued update

/-- What a specialist's visit leaves as it was, however it ended. -/
structure SpecialistVisit (node : AgentName) (s out : GestaltGraphState) : Prop where
  reported : ∃ status artifacts report, ReportOf node status artifacts s report ∧
    out.executionReports = s.executionReports ++ [report]
  decisions : out.decisions = s.decisions
  summary : out.latestSummary = s.latestSummary
  metadata : ∀ key, key ≠ "last_error" → out.metadata.get? key = s.metadata.get? key

theorem VisitOutcome.specialistVisit (h : VisitOutcome allows rt s node out)
    (hnode : node ≠ .orchestrator) : SpecialistVisit node s out := by
  cases h with
  | completed _ _ artifacts update =>
      obtain ⟨messages, report, -, hreport, rfl⟩ := update
      exact ⟨⟨_, _, report, hreport, rfl⟩, by simp [applyStateUpdate, artifacts.decisions],
        by simp [applyStateUpdate, artifacts.summary],
        by simp [applyStateUpdate, artifacts.metadata]⟩
  | failed _ update =>
      obtain ⟨e, report, hreport, rfl⟩ := update
      exact ⟨⟨_, _, report, hreport, rfl⟩, by simp [applyStateUpdate, failureArtifacts],
        by simp [applyStateUpdate, failureArtifacts],
        fun key hkey => Table.get?_set_of_ne (Ne.symm hkey) _⟩
  | routed _ _ _ => contradiction
  | routeFailed _ _ => contradiction

/-- A specialist approves nothing, however its visit ended. -/
theorem VisitOutcome.approvals_of_specialist (h : VisitOutcome allows rt s node out)
    (hnode : node ≠ .orchestrator) : out.approvals = s.approvals := by
  cases h with
  | completed _ _ _ update =>
      obtain ⟨messages, report, -, -, rfl⟩ := update
      rfl
  | failed _ update =>
      obtain ⟨e, report, -, rfl⟩ := update
      rfl
  | routed _ _ _ => contradiction
  | routeFailed _ _ => contradiction

/-- A dispatch leads to the specialist it names. -/
theorem CompletedAs.route_of_dispatches {art : AgentArtifacts} {s' : GestaltGraphState}
    {next : Value} {rest : List Value} {a : Specialist} (h : CompletedAs node s art out)
    (hart : Dispatches s' next rest a art) : routeFromOrchestrator out = some a.name := by
  obtain ⟨messages, report, -, -, rfl⟩ := h
  have hname := Specialist.asStr?_of_ofValue? hart.known
  simp [routeFromOrchestrator, applyStateUpdate, hart.metadata, hname]

/-- A finalized cycle leads to the end. -/
theorem CompletedAs.route_of_finalizes {art : AgentArtifacts} {s' : GestaltGraphState}
    (h : CompletedAs node s art out) (hart : Finalizes s' art) :
    routeFromOrchestrator out = some "__end__" := by
  obtain ⟨messages, report, -, -, rfl⟩ := h
  simp [routeFromOrchestrator, applyStateUpdate, hart.metadata, Value.asStr?]

/-- A failed visit keeps the route. -/
theorem FailedAs.route (h : FailedAs rt node s out) :
    routeFromOrchestrator out = routeFromOrchestrator s := by
  obtain ⟨e, report, -, rfl⟩ := h
  simp [routeFromOrchestrator]

theorem AtMostIssued.route {s' : GestaltGraphState} (h : AtMostIssued allows rt s s') :
    routeFromOrchestrator s' = routeFromOrchestrator s := by
  rcases h with rfl | ⟨approval, -, rfl⟩ <;> rfl

end Update

end Gestalt
