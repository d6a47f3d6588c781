import Gestalt.Agents.Spec
import Gestalt.Orchestrator

/-!
# Gestalt.Orchestrator.Spec

What the orchestrator's artifact builder can do.  It either dispatches the
head of its plan, after registering one approval, or finalizes the cycle when
the plan is empty; where it raises it has at most registered that approval.
With a plan of known specialists it raises only when a call fails.
-/

namespace Gestalt

open Effects Program

/-! ## plans -/

/-- The specialist a plan element names. -/
def Specialist.ofValue? (v : Value) : Option Specialist := v.asStr?.bind ofName?

@[simp] theorem Specialist.ofValue?_str (a : Specialist) : ofValue? (.str a.name) = some a :=
  ofName?_name a

/-- The plan of an invocation, when it is a list of known specialists. -/
def Orchestrator.plan? (rt : Runtime) (s : GestaltGraphState) : Option (List Specialist) :=
  (pendingAgents rt s).bind fun pending => pending.mapM Specialist.ofValue?

/-- A known specialist is a string. -/
theorem Specialist.asStr?_of_ofValue? {v : Value} {a : Specialist} (h : ofValue? v = some a) :
    v.asStr? = some a.name := by
  obtain ⟨name, hname, ha⟩ := Option.bind_eq_some_iff.mp h
  rw [hname, name_of_ofName? ha]

/-- Specialists have different names. -/
theorem Specialist.eq_of_name_eq {a b : Specialist} (h : a.name = b.name) : a = b := by
  have hof := ofName?_name a
  rw [h, ofName?_name] at hof
  exact (Option.some.inj hof).symm

/-- Known specialists are strings. -/
theorem Specialist.mapM_asStr? {vs : List Value} {plan : List Specialist}
    (h : vs.mapM ofValue? = some plan) : vs.mapM Value.asStr? = some (plan.map name) := by
  induction vs generalizing plan with
  | nil => simp_all
  | cons v vs ih =>
      simp only [List.mapM_cons, Option.bind_eq_bind, Option.bind_eq_some_iff] at h
      obtain ⟨a, ha, rest, hrest, h⟩ := h
      obtain rfl := Option.some.inj h
      simp [List.mapM_cons, asStr?_of_ofValue? ha, ih hrest]

theorem Specialist.two_le_length_name (a : Specialist) : 2 ≤ a.name.length :=
  a.agent.two_le_length_name

/-- The value passes where the name of an agent is validated. -/
def Nameable (v : Value) : Prop := ∃ name, v.asStr? = some name ∧ 2 ≤ name.length

theorem Specialist.nameable_of_ofValue? {v : Value} {a : Specialist} (h : ofValue? v = some a) :
    Nameable v :=
  ⟨a.name, asStr?_of_ofValue? h, a.two_le_length_name⟩

/-! ## what the builder leaves behind -/

/-- The state object with one more approval. -/
def GestaltGraphState.withApproval (s : GestaltGraphState) (approval : EventApproval) :
    GestaltGraphState :=
  { s with approvals := s.approvals ++ [approval] }

/-- An approval the orchestrator issued: traced, and valid for the configured
lifetime from a reading of the clock. -/
structure Issued (allows : Event Services → Prop) (rt : Runtime) (s : GestaltGraphState)
    (approval : EventApproval) : Prop where
  traceId : approval.traceId = s.traceId
  expiresAt : ∃ now, allows ⟨.utcNow .stamp, now⟩ ∧
    approval.expiresAt = now + rt.settings.events.approvalTtl

/-- An issued approval that lets the orchestrator, and nobody else, send peer
signals to the plan element `next`. -/
structure Scoped (allows : Event Services → Prop) (rt : Runtime) (s : GestaltGraphState)
    (next : Value) (approval : EventApproval) : Prop extends Issued allows rt s approval where
  sourceAgent : approval.sourceAgent = AgentName.orchestrator.field
  permittedEvent : approval.permittedEvent = .peerSignal
  targetAgent : next.asStr? = some approval.targetAgent.val

/-- The state object as it was, or with one issued approval. -/
def AtMostIssued (allows : Event Services → Prop) (rt : Runtime) (s s' : GestaltGraphState) :
    Prop :=
  s' = s ∨ ∃ approval, Issued allows rt s approval ∧ s' = s.withApproval approval

/-- The artifacts of a dispatch to `a`. -/
structure Dispatches (s : GestaltGraphState) (next : Value) (rest : List Value) (a : Specialist)
    (art : AgentArtifacts) : Prop where
  known : Specialist.ofValue? next = some a
  traced : art.Traced s.traceId
  decisions : art.decisions = [a.decision]
  metadata : art.metadataUpdates =
    [("current_node", next), ("pending_agents", .list rest), ("next_node", next)]
  summary : art.latestSummary = none
  stats : art.statsReport = none
  audit : art.auditReport = none

/-- The artifacts of a finalized cycle. -/
structure Finalizes (s : GestaltGraphState) (art : AgentArtifacts) : Prop where
  traced : art.Traced s.traceId
  decisions : art.decisions = [.finalize]
  metadata : art.metadataUpdates =
    [("current_node", .str AgentName.orchestrator.name), ("next_node", .str "__end__"),
     ("pending_agents", .list [])]
  summary : ∃ summary, art.latestSummary = some summary ∧
    summary.decisions = s.decisions ++ [.finalize]
  stats : art.statsReport = none
  audit : art.auditReport = none

/-- What the builder returned, and the state object it left. -/
inductive Routing (allows : Event Services → Prop) (rt : Runtime) (s : GestaltGraphState) :
    AgentArtifacts → GestaltGraphState → Prop where
  | dispatch {next : Value} {rest : List Value} {a : Specialist} {approval : EventApproval}
      {art : AgentArtifacts} (pending : Orchestrator.pendingAgents rt s = some (next :: rest))
      (issued : Issued allows rt s approval) (dispatches : Dispatches s next rest a art) :
      Routing allows rt s art (s.withApproval approval)
  | finalize {art : AgentArtifacts} (pending : Orchestrator.pendingAgents rt s = some [])
      (finalizes : Finalizes s art) : Routing allows rt s art s

/-- The approvals the builder put into the state object are scoped to the head
of the plan. -/
def ScopedToHead (allows : Event Services → Prop) (rt : Runtime) (s s' : GestaltGraphState) :
    Prop :=
  ∀ approval, s' = s.withApproval approval →
    ∃ next rest, Orchestrator.pendingAgents rt s = some (next :: rest) ∧
      Scoped allows rt s next approval

theorem scopedToHead_self (allows : Event Services → Prop) (rt : Runtime) (s : GestaltGraphState) :
    ScopedToHead allows rt s s := by
  intro approval heq
  have hlength := congrArg (fun s => s.approvals.length) heq
  simp [GestaltGraphState.withApproval] at hlength

theorem Scoped.toHead {allows : Event Services → Prop} {rt : Runtime} {s : GestaltGraphState}
    {next : Value} {rest : List Value} {approval : EventApproval}
    (hpending : Orchestrator.pendingAgents rt s = some (next :: rest))
    (h : Scoped allows rt s next approval) :
    ScopedToHead allows rt s (s.withApproval approval) := by
  intro approval' heq
  obtain rfl : approval = approval' := by simpa [GestaltGraphState.withApproval] using heq
  exact ⟨next, rest, hpending, h⟩

/-- A summary of the state: it takes over the risk score, and names nothing as
pending. -/
structure SummaryOf (s : GestaltGraphState) (summary : GestaltSummary) : Prop where
  risk : summary.securityRiskScore.val = s.stats.securityRiskScore
  pending : summary.pendingActions = []

/-- A summary among the artifacts is one of the state, and no command goes with
it. -/
structure Summarizes (s : GestaltGraphState) (art : AgentArtifacts) : Prop where
  summary : ∀ summary, art.latestSummary = some summary → SummaryOf s summary
  commands : art.commands = []

/-- Only approvals scoped to the head of the plan may be registered. -/
def RegistersScoped (allows emits : Event Services → Prop) (rt : Runtime)
    (s : GestaltGraphState) : Prop :=
  ∀ next rest approval answer, Orchestrator.pendingAgents rt s = some (next :: rest) →
    Scoped allows rt s next approval → emits ⟨.call (.approve approval), answer⟩

/-! ## the builder -/

namespace Orchestrator

section Spec

variable {allows : Event Services → Prop} {mayRaise : Prop} {s : GestaltGraphState}
variable {emits : Event Services → Prop} [Permissive emits]
variable {rt : Runtime} {context : AgentContextEnvelope}

omit [Permissive emits] in
theorem steady_validateName {targetAgent : Value} {model path problem : String}
    (htarget : Nameable targetAgent ∨ mayRaise) :
    Steady allows emits mayRaise s
      (Program.ofExcept (validate model path problem
        (targetAgent.asStr?.bind (MinStr.check? 2))))
      fun target => targetAgent.asStr? = some target.val := by
  refine steady_ofExcept ?_ fun e he => htarget.elim ?_ fun h => h
  · intro target htarget
    obtain ⟨name, hname, hchecked⟩ :=
      Option.bind_eq_some_iff.mp (eq_some_of_validate htarget)
    rw [hname, MinStr.val_of_check? hchecked]
  · intro h
    obtain ⟨name, hname, hlength⟩ := h
    simp [hname, MinStr.check?_of_le hlength, validate] at he

theorem steady_newApproval {targetAgent : Value} {rationale : MinStr 8} {expiresAt : Int}
    {traceId : Uuid} (htarget : Nameable targetAgent ∨ mayRaise)
    (hexpiry : ∀ now, allows ⟨.utcNow (.expiry expiresAt), now⟩ → now < expiresAt ∨ mayRaise) :
    Steady allows emits mayRaise s (newApproval traceId targetAgent rationale expiresAt)
      fun approval => approval.traceId = traceId ∧ approval.expiresAt = expiresAt ∧
        approval.sourceAgent = AgentName.orchestrator.field ∧
        approval.permittedEvent = .peerSignal ∧
        targetAgent.asStr? = some approval.targetAgent.val := by
  refine steady_bind (steady_validateName htarget) fun target hvalid => ?_
  refine steady_bind (steady_utcNow _) fun now hnow => ?_
  split
  · next h => exact steady_raise ((hexpiry now hnow).resolve_left (Int.not_lt.mpr h))
  · exact steady_bind steady_uuid4 fun approvalId _ => steady_pure ⟨rfl, rfl, rfl, rfl, hvalid⟩

/-- The approval is in the state object exactly when the bus registered it. -/
theorem spec_issuePeerApproval (hcovers : Covers allows mayRaise)
    (hexpiry : ∀ d now, allows ⟨.utcNow (.expiry d), now⟩ → now < d ∨ mayRaise)
    {targetAgent : Value} {rationale : MinStr 8}
    (happrove : ∀ approval answer, Scoped allows rt s targetAgent approval →
      emits ⟨.call (.approve approval), answer⟩)
    (htarget : Nameable targetAgent ∨ mayRaise) :
    Spec allows emits s (issuePeerApproval rt targetAgent rationale)
      (fun approval s' => Scoped allows rt s targetAgent approval ∧ s' = s.withApproval approval)
      fun _ s' => s' = s ∧ mayRaise := by
  have herr : mayRaise → ∀ _ : Exc, s = s ∧ mayRaise := fun h _ => ⟨rfl, h⟩
  refine spec_read_bind ?_
  refine Steady.spec_bind (steady_utcNow _) herr fun now hnow => ?_
  refine Steady.spec_bind (steady_newApproval htarget (hexpiry _)) herr fun approval hbuilt => ?_
  obtain ⟨htrace, hexpires, hsource, hevent, hvalid⟩ := hbuilt
  have hscoped : Scoped allows rt s targetAgent approval :=
    ⟨⟨htrace, now, hnow, hexpires⟩, hsource, hevent, hvalid⟩
  refine Steady.spec_bind
    (steady_send (hcovers.call _) fun answer => happrove _ answer hscoped) herr fun _ _ => ?_
  refine Program.spec_bind spec_modify ?_
  intro _ _ heq
  obtain rfl := heq
  exact spec_pure ⟨hscoped, rfl⟩

theorem spec_dispatch (hcovers : Covers allows mayRaise)
    (hexpiry : ∀ d now, allows ⟨.utcNow (.expiry d), now⟩ → now < d ∨ mayRaise)
    {next : Value} {rest : List Value}
    (happrove : ∀ approval answer, Scoped allows rt s next approval →
      emits ⟨.call (.approve approval), answer⟩)
    (hplan : (∃ plan, (next :: rest).mapM Specialist.ofValue? = some plan) ∨ mayRaise) :
    Spec allows emits s (dispatch rt context next rest)
      (fun art s' => ∃ a approval, Scoped allows rt s next approval ∧
        Dispatches s next rest a art ∧ Summarizes s art ∧ s' = s.withApproval approval)
      fun _ s' => (s' = s ∨ ∃ approval, Scoped allows rt s next approval ∧
        s' = s.withApproval approval) ∧ mayRaise := by
  have htarget : (∃ a, Specialist.ofValue? next = some a) ∨ mayRaise := by
    refine hplan.imp_left ?_
    intro h
    obtain ⟨plan, h⟩ := h
    simp only [List.mapM_cons, Option.bind_eq_bind, Option.bind_eq_some_iff] at h
    exact ⟨h.choose, h.choose_spec.1⟩
  have hnameable : Nameable next ∨ mayRaise := by
    refine htarget.imp_left ?_
    intro h
    obtain ⟨a, ha⟩ := h
    exact Specialist.nameable_of_ofValue? ha
  have herr : mayRaise → ∀ _ : Exc, (s = s ∨ ∃ approval, Scoped allows rt s next approval ∧
      s = s.withApproval approval) ∧ mayRaise := fun h _ => ⟨Or.inl rfl, h⟩
  refine spec_read_bind ?_
  refine Steady.spec_bind (steady_completeStructured hcovers.completions ?_) herr
    fun reasoning _ => ?_
  · intro _ e he
    refine hplan.elim ?_ fun h => h
    intro h
    obtain ⟨plan, h⟩ := h
    simp [mockReasoning, Specialist.mapM_asStr? h, validate] at he
  refine Program.spec_bind (Spec.mono (spec_issuePeerApproval hcovers hexpiry happrove hnameable)
    (fun _ _ h => h) ?_) ?_
  · intro _ _ hpost
    obtain ⟨rfl, h⟩ := hpost
    exact ⟨Or.inl rfl, h⟩
  intro approval _ hpost
  obtain ⟨hscoped, rfl⟩ := hpost
  -- from here on the approval is in the state object, whatever happens
  have herr' : mayRaise → ∀ _ : Exc, (s.withApproval approval = s ∨
      ∃ approval', Scoped allows rt s next approval' ∧
        s.withApproval approval = s.withApproval approval') ∧ mayRaise :=
    fun h _ => ⟨Or.inr ⟨approval, hscoped, rfl⟩, h⟩
  refine Steady.spec_bind (steady_validateName hnameable) herr' fun recipient _ => ?_
  refine Steady.spec_bind steady_newMessage herr' fun message hmessage => ?_
  cases hname : Specialist.ofName? (elementText next) with
  | none =>
      refine spec_raise ⟨Or.inr ⟨approval, hscoped, rfl⟩, htarget.elim ?_ fun h => h⟩
      intro h
      obtain ⟨a, ha⟩ := h
      simp [elementText, Specialist.asStr?_of_ofValue? ha] at hname
  | some a =>
      have hknown : Specialist.ofValue? next = some a := by
        cases hstr : next.asStr? with
        | none => simp [elementText, hstr, Specialist.ofName?] at hname
        | some name => simpa [Specialist.ofValue?, elementText, hstr] using hname
      refine spec_pure ⟨a, approval, hscoped, ⟨hknown, ⟨?_, ?_, ?_, ?_, ?_, ?_, ?_⟩, rfl, rfl, rfl,
        rfl, rfl⟩, ⟨?_, rfl⟩, rfl⟩ <;> simp [hmessage]

theorem steady_evaluateCohesion (hcovers : Covers allows mayRaise) :
    Steady allows emits mayRaise s (evaluateCohesion rt) fun _ => True := by
  refine steady_read_bind ?_
  refine steady_bind
    (steady_send (hcovers.call _) fun _ => Permissive.ordinary trivial) fun inputs _ => ?_
  exact steady_pure trivial

theorem steady_finalize (hcovers : Covers allows mayRaise) (hrange : s.stats.InRange ∨ mayRaise) :
    Steady allows emits mayRaise s (finalize rt)
      fun art => Finalizes s art ∧ Summarizes s art := by
  refine steady_read_bind ?_
  refine steady_bind (steady_evaluateCohesion hcovers) fun cohesionScore _ => ?_
  have hrisk : Steady allows emits mayRaise s (Program.ofExcept (validate "GestaltSummary"
      "security_risk_score" "Input should be between 0 and 100"
      (Score.check? s.stats.securityRiskScore)))
      fun score => score.val = s.stats.securityRiskScore :=
    steady_ofExcept ?_ ?_
  · refine steady_bind hrisk fun securityRiskScore hrisk => ?_
    refine steady_bind steady_uuid4 fun cycleId _ => ?_
    refine steady_bind (steady_utcNow _) fun producedAt _ => ?_
    refine steady_pure ⟨⟨⟨?_, ?_, ?_, ?_, ?_, ?_, ?_⟩, rfl, rfl, ⟨_, rfl, rfl⟩, rfl, rfl⟩, ?_, rfl⟩
    · simp
    · simp
    · simp
    · simp
    · simp
    · simp
    · simp
    · intro summary hsummary
      obtain rfl := Option.some.inj hsummary
      exact ⟨hrisk, rfl⟩
  · intro score hscore
    exact Score.val_of_check? (eq_some_of_validate hscore)
  · intro e he
    refine hrange.elim ?_ fun h => h
    intro h
    obtain ⟨-, ⟨h0, h1⟩, -⟩ := h
    simp [Score.check?_of_mem h0 h1, validate] at he

/-- **The builder of the orchestrator.**  It raises only when a call fails, an
approval expires before it is built, the plan is not a list of known
specialists or the risk score is out of range. -/
theorem spec_produceArtifacts (hcovers : Covers allows mayRaise)
    (hexpiry : ∀ d now, allows ⟨.utcNow (.expiry d), now⟩ → now < d ∨ mayRaise)
    (happrove : RegistersScoped allows emits rt s)
    (hplan : (∃ plan, plan? rt s = some plan) ∨ mayRaise)
    (hrange : s.stats.InRange ∨ mayRaise) :
    Spec allows emits s (produceArtifacts rt context)
      (fun art s' => Routing allows rt s art s' ∧ ScopedToHead allows rt s s' ∧ Summarizes s art)
      fun _ s' => (AtMostIssued allows rt s s' ∧ ScopedToHead allows rt s s') ∧ mayRaise := by
  have hself : AtMostIssued allows rt s s ∧ ScopedToHead allows rt s s :=
    ⟨Or.inl rfl, scopedToHead_self allows rt s⟩
  refine spec_read_bind ?_
  cases hpending : pendingAgents rt s with
  | none =>
      refine spec_raise ⟨hself, hplan.elim ?_ fun h => h⟩
      intro h
      obtain ⟨plan, h⟩ := h
      simp [plan?, hpending] at h
  | some pending =>
      cases pending with
      | nil =>
          refine Spec.mono (steady_finalize hcovers hrange) ?_ ?_
          · intro art _ hpost
            obtain ⟨rfl, hfinal, hsummary⟩ := hpost
            exact ⟨.finalize hpending hfinal, hself.2, hsummary⟩
          · intro e _ hpost
            obtain ⟨rfl, h⟩ := hpost
            exact ⟨hself, h⟩
      | cons next rest =>
          have hplan' :
              (∃ plan, (next :: rest).mapM Specialist.ofValue? = some plan) ∨ mayRaise := by
            simpa [plan?, hpending] using hplan
          refine Spec.mono (spec_dispatch hcovers hexpiry
            (fun approval answer => happrove next rest approval answer hpending) hplan') ?_ ?_
          · intro art _ hpost
            obtain ⟨a, approval, hscoped, hdispatches, hsummarizes, rfl⟩ := hpost
            exact ⟨.dispatch hpending hscoped.toIssued hdispatches, hscoped.toHead hpending,
              hsummarizes⟩
          · intro e _ hpost
            obtain ⟨rfl | ⟨approval, hscoped, rfl⟩, h⟩ := hpost
            · exact ⟨hself, h⟩
            · exact ⟨⟨Or.inr ⟨approval, hscoped.toIssued, rfl⟩, hscoped.toHead hpending⟩, h⟩

end Spec

end Orchestrator

end Gestalt
