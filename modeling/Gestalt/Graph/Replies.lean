import Gestalt.Graph.Visit
import Gestalt.Reference

/-!
# Gestalt.Graph.Replies

Model replies and the decisions built from them.

The security audit, the analyzer and the optimizer each derive a value from
the evidence, offer it as the mock payload, and build their artifacts from the
reply.  In mock mode the reply is the payload.  Otherwise it is what the
provider sent, and the artifacts are as safe as that.
-/

namespace Gestalt

open Effects Program

/-! ## replies and telemetry -/

/-- The surroundings with `replies` for what the model provider replies and
`telemetry` for what Prometheus returns; what fails still fails. -/
def answering (replies : (m : ResponseModel) → m.Reply) (telemetry : String → Rat)
    (w : Surroundings Services) : Surroundings Services := fun n op =>
  match op with
  | .call (.acompletion request m) =>
      (w n (.call (.acompletion request m))).map fun parsed => parsed.map fun _ => replies m
  | .call (.prometheusQuery query) =>
      (w n (.call (.prometheusQuery query))).map fun _ => telemetry query.val
  | op => w n op

/-- The model provider replied with `replies`, and Prometheus with `telemetry`. -/
structure Answers (replies : (m : ResponseModel) → m.Reply) (telemetry : String → Rat)
    (ev : Event Services) : Prop where
  replies : ∀ request m reply, ev = ⟨.call (.acompletion request m), .ok (some reply)⟩ →
    reply = replies m
  telemetry : ∀ query value, ev = ⟨.call (.prometheusQuery query), .ok value⟩ →
    value = telemetry query.val

section Answering

variable {replies : (m : ResponseModel) → m.Reply} {telemetry : String → Rat}
variable {w : Surroundings Services} {s : GestaltGraphState}

theorem answers_of_answering {α : Type} (p : Action α) :
    ∀ ev ∈ (p.run (answering replies telemetry w) s).trace, Answers replies telemetry ev := by
  intro ev hev
  obtain ⟨n, hn⟩ := answer_of_mem_trace p _ s ev hev
  refine ⟨fun request m reply heq => ?_, fun query value heq => ?_⟩
  · subst heq
    have hanswer := eq_of_heq (Event.mk.inj hn).2
    simp only [answering] at hanswer
    cases hw : w n (.call (.acompletion request m)) with
    | error e => simp [hw, Except.map] at hanswer
    | ok parsed =>
        cases parsed with
        | none => simp [hw, Except.map] at hanswer
        | some _ => simpa [hw, Except.map] using hanswer
  · subst heq
    have hanswer := eq_of_heq (Event.mk.inj hn).2
    simp only [answering] at hanswer
    cases hw : w n (.call (.prometheusQuery query)) with
    | error e => simp [hw, Except.map] at hanswer
    | ok _ => simpa [hw, Except.map] using hanswer

/-- What a specialist emits is built from the replies and the telemetry. -/
theorem emits_of_answering {rt : Runtime} {a : AgentName} {objective : MinStr 3}
    {p : Action AgentArtifacts} {art : AgentArtifacts}
    (hp : Steady (Answers replies telemetry) (fun _ => True) True s p fun art =>
      SpecialistArtifacts rt a s art ∧ Emits (Answers replies telemetry) rt s objective a art)
    (hart : (p.run (answering replies telemetry w) s).result = .ok art) :
    Emits (Answers replies telemetry) rt s objective a art :=
  (Spec.of_ok hp (answers_of_answering p) hart).2.2

/-- The reply is the mock payload or the provider's. -/
theorem reply_of_replied {rt : Runtime} {a : AgentName} {stats : GestaltStats} {m : ResponseModel}
    {mock : Except Exc m.Reply} {reply : m.Reply}
    (h : Replied (Answers replies telemetry) rt a stats m mock reply) :
    (rt.mocks a stats = true ∧ mock = .ok reply) ∨
      (rt.mocks a stats = false ∧ reply = replies m) := by
  rcases h with h | h
  · exact Or.inl h
  · obtain ⟨hmocks, request, hanswers⟩ := h
    exact Or.inr ⟨hmocks, hanswers.replies request m reply rfl⟩

end Answering

/-! ## decisions -/

/-- The routes a model is selected by. -/
def modelRoutes : List String := ["low", "medium", "high", "critical"]

/-- The report is not below the risk its findings and the statistics amount to. -/
def SecurityAudit.UpholdsRisk (s : GestaltGraphState) (art : AgentArtifacts) : Prop :=
  ∃ report, art.auditReport = some report ∧
    (overallRisk s.stats.securityRiskScore report.findings.length).val ≤ report.overallRiskScore.val

/-- The command goes to a node of the graph, and demands an audit of the security
audit where the statistics demand one. -/
def Analyzer.UpholdsTarget (rt : Runtime) (s : GestaltGraphState) (art : AgentArtifacts) : Prop :=
  ∃ command, art.commands = [command] ∧
    (∃ a : Specialist, command.targetAgent.val = a.name) ∧
    (requiresSecurity rt s = true →
      command.commandType = .audit ∧ command.targetAgent.val = Specialist.securityAudit.name)

/-- The proposed route is one a model is selected by. -/
def Optimizer.UpholdsRoute (art : AgentArtifacts) : Prop :=
  ∃ proposal route, art.optimizationProposals = [proposal] ∧
    proposal.modelRoutingOverrides = [("default", route)] ∧
    proposal.configPatch = [("models", .dict [("preferred_route", .str route)])] ∧
    route ∈ modelRoutes

/-- **Safety decisions are upheld**: whatever the three agents produce. -/
structure DecisionsUpheld (rt : Runtime) (context : AgentContextEnvelope)
    (w : Surroundings Services) (s : GestaltGraphState) : Prop where
  securityAudit : ∀ art,
    ((SecurityAudit.produceArtifacts rt context).run w s).result = .ok art →
    SecurityAudit.UpholdsRisk s art
  analyzer : ∀ art, ((Analyzer.produceArtifacts rt context).run w s).result = .ok art →
    Analyzer.UpholdsTarget rt s art
  optimizer : ∀ art, ((Optimizer.produceArtifacts rt context).run w s).result = .ok art →
    Optimizer.UpholdsRoute art

/-- The replies uphold what the evidence says, each where its agent gets as far as
producing artifacts and the gateway is not in mock mode. -/
structure RepliesUphold (rt : Runtime) (context : AgentContextEnvelope)
    (replies : (m : ResponseModel) → m.Reply) (telemetry : String → Rat)
    (w : Surroundings Services) (s : GestaltGraphState) : Prop where
  securityAudit : ∀ art,
    ((SecurityAudit.produceArtifacts rt context).run w s).result = .ok art →
    rt.mocks .securityAudit s.stats = false →
    (SecurityAudit.overallRisk s.stats.securityRiskScore
      (SecurityAudit.findingCount rt s (telemetry "error_ratio"))).val ≤
        (replies .securityAuditReasoning).overallRiskScore.val
  analyzer : ∀ art, ((Analyzer.produceArtifacts rt context).run w s).result = .ok art →
    rt.mocks .analyzer s.stats = false →
    (∃ a : Specialist, (replies .analyzerReasoning).recommendedTarget.val = a.name) ∧
    (Analyzer.requiresSecurity rt s = true →
      (replies .analyzerReasoning).recommendedTarget.val = Specialist.securityAudit.name)
  optimizer : ∀ art, ((Optimizer.produceArtifacts rt context).run w s).result = .ok art →
    rt.mocks .optimizer s.stats = false →
    (replies .optimizerReasoning).preferredRoute.val ∈ modelRoutes

section Decisions

variable {rt : Runtime} {context : AgentContextEnvelope} {s : GestaltGraphState}
variable {replies : (m : ResponseModel) → m.Reply} {telemetry : String → Rat}
variable {objective : MinStr 3} {art : AgentArtifacts}

/-- The audit reports the risk of the reply. -/
theorem SecurityAudit.upholdsRisk_iff
    (h : Emits (Answers replies telemetry) rt s objective .securityAudit art) :
    UpholdsRisk s art ↔ (rt.mocks .securityAudit s.stats = false →
      (overallRisk s.stats.securityRiskScore (findingCount rt s (telemetry "error_ratio"))).val ≤
        (replies .securityAuditReasoning).overallRiskScore.val) := by
  cases h with
  | @securityAudit errorRatio mock reply report _ sampled replied assessed auditReport found risk =>
      obtain ⟨query, hquery, hanswers⟩ := sampled
      obtain rfl : errorRatio = telemetry "error_ratio" := by
        rw [hanswers.telemetry query errorRatio rfl, hquery]
      have hiff : UpholdsRisk s art ↔ (overallRisk s.stats.securityRiskScore
          (findingCount rt s (telemetry "error_ratio"))).val ≤ reply.overallRiskScore.val := by
        simp [UpholdsRisk, auditReport, found, risk]
      rw [hiff]
      rcases reply_of_replied replied with hreply | hreply
      · obtain ⟨hmocks, hmock⟩ := hreply
        obtain rfl := Except.ok.inj hmock
        simp [hmocks, assessed]
      · obtain ⟨hmocks, rfl⟩ := hreply
        simp [hmocks]

/-- The mock payload targets a specialist. -/
theorem Analyzer.exists_specialist (objective : String) (requiresSecurity : Bool) :
    ∃ a : Specialist, recommendedTarget objective requiresSecurity = a.name := by
  have hmem := recommendedTarget_mem objective requiresSecurity
  simp only [List.mem_cons, List.not_mem_nil, or_false] at hmem
  rcases hmem with h | h | h | h
  · exact ⟨.securityAudit, h⟩
  · exact ⟨.knowledge, h⟩
  · exact ⟨.optimizer, h⟩
  · exact ⟨.plannerExecutor, h⟩

/-- The analyzer commands the target of the reply. -/
theorem Analyzer.upholdsTarget_iff
    (h : Emits (Answers replies telemetry) rt s objective .analyzer art) :
    UpholdsTarget rt s art ↔ (rt.mocks .analyzer s.stats = false →
      (∃ a : Specialist, (replies .analyzerReasoning).recommendedTarget.val = a.name) ∧
      (requiresSecurity rt s = true →
        (replies .analyzerReasoning).recommendedTarget.val = Specialist.securityAudit.name)) := by
  cases h with
  | @analyzer topMatch latency reply command _ replied commands recommends =>
      have hiff : UpholdsTarget rt s art ↔
          (∃ a : Specialist, reply.recommendedTarget.val = a.name) ∧
          (requiresSecurity rt s = true →
            reply.recommendedTarget.val = Specialist.securityAudit.name) := by
        have htarget : command.targetAgent.val = reply.recommendedTarget.val := by
          rw [recommends.target_eq]
          rfl
        simp only [UpholdsTarget, commands, List.singleton_inj, exists_eq_left', htarget,
          recommends.type_eq]
        refine and_congr_right fun _ => imp_congr_right fun _ => and_iff_right_of_imp fun h => ?_
        rw [h]
        rfl
      rw [hiff]
      rcases reply_of_replied replied with hreply | hreply
      · obtain ⟨hmocks, hmock⟩ := hreply
        obtain ⟨payload, hpayload, htarget⟩ := exists_mockReasoning topMatch latency
          (rt.lower objective.val) (requiresSecurity rt s)
        obtain rfl : payload = reply := Except.ok.inj (hpayload.symm.trans hmock)
        rw [htarget]
        refine ⟨fun _ h => by simp [hmocks] at h, fun _ => ⟨exists_specialist _ _, ?_⟩⟩
        intro hrequires
        simp [recommendedTarget, hrequires]
        rfl
      · obtain ⟨hmocks, rfl⟩ := hreply
        simp [hmocks]

/-- The route of the statistics is one a model is selected by. -/
theorem Optimizer.preferredModelRoute_mem (stats : GestaltStats) :
    stats.preferredModelRoute ∈ modelRoutes := by
  unfold GestaltStats.preferredModelRoute
  split
  · decide
  · split
    · decide
    · split <;> decide

/-- The mock payload has the route it was built for. -/
theorem Optimizer.preferredRoute_of_mockReasoning {preferredRoute : String} {latency : Rat}
    {reply : OptimizerReasoning} (h : mockReasoning preferredRoute latency = .ok reply) :
    reply.preferredRoute.val = preferredRoute := by
  obtain ⟨route, hroute, h⟩ := Codec.exists_of_bind_eq_ok h
  obtain rfl := Except.ok.inj h
  exact MinStr.val_of_check? (eq_some_of_validate hroute)

/-- The optimizer proposes the route of the reply. -/
theorem Optimizer.upholdsRoute_iff
    (h : Emits (Answers replies telemetry) rt s objective .optimizer art) :
    UpholdsRoute art ↔ (rt.mocks .optimizer s.stats = false →
      (replies .optimizerReasoning).preferredRoute.val ∈ modelRoutes) := by
  cases h with
  | @optimizer latency reply proposal _ replied proposals route =>
      have hiff : UpholdsRoute art ↔ reply.preferredRoute.val ∈ modelRoutes := by
        obtain ⟨hroute, hpatch⟩ := route
        constructor
        · intro hupholds
          obtain ⟨proposal', route, heq, hroute', -, hmem⟩ := hupholds
          obtain rfl := List.singleton_inj.mp (proposals.symm.trans heq)
          obtain rfl : reply.preferredRoute.val = route := by simpa [hroute] using hroute'
          exact hmem
        · exact fun hmem => ⟨proposal, _, proposals, hroute, hpatch, hmem⟩
      rw [hiff]
      rcases reply_of_replied replied with hreply | hreply
      · obtain ⟨hmocks, hmock⟩ := hreply
        rw [preferredRoute_of_mockReasoning hmock]
        simp [hmocks, preferredModelRoute_mem, GestaltStats.deriveModelPolicy]
      · obtain ⟨hmocks, rfl⟩ := hreply
        simp [hmocks]

end Decisions

/-- **When replies cannot lower a decision.**  For every state, blackboard and
telemetry, and for all replies the schemas accept: the decisions are upheld exactly
when each reply that is used upholds what the evidence says. -/
theorem decisionsUpheld_iff (rt : Runtime) (context : AgentContextEnvelope)
    (replies : (m : ResponseModel) → m.Reply) (telemetry : String → Rat)
    (w : Surroundings Services) (s : GestaltGraphState) :
    DecisionsUpheld rt context (answering replies telemetry w) s ↔
      RepliesUphold rt context replies telemetry (answering replies telemetry w) s := by
  have haudit : ∀ art, ((SecurityAudit.produceArtifacts rt context).run
      (answering replies telemetry w) s).result = .ok art → _ := fun art hart =>
    SecurityAudit.upholdsRisk_iff
      (emits_of_answering (steady_securityAudit (covers_true _) (Or.inr trivial)) hart)
  have hanalyzer : ∀ art, ((Analyzer.produceArtifacts rt context).run
      (answering replies telemetry w) s).result = .ok art → _ := fun art hart =>
    Analyzer.upholdsTarget_iff
      (emits_of_answering (steady_analyzer (covers_true _) fun _ _ _ => trivial) hart)
  have hoptimizer : ∀ art, ((Optimizer.produceArtifacts rt context).run
      (answering replies telemetry w) s).result = .ok art → _ := fun art hart =>
    Optimizer.upholdsRoute_iff (emits_of_answering steady_optimizer hart)
  constructor
  · intro h
    exact ⟨fun art hart => (haudit art hart).mp (h.securityAudit art hart),
      fun art hart => (hanalyzer art hart).mp (h.analyzer art hart),
      fun art hart => (hoptimizer art hart).mp (h.optimizer art hart)⟩
  · intro h
    exact ⟨fun art hart => (haudit art hart).mpr (h.securityAudit art hart),
      fun art hart => (hanalyzer art hart).mpr (h.analyzer art hart),
      fun art hart => (hoptimizer art hart).mpr (h.optimizer art hart)⟩

/-! ## a reply that lowers the risk -/

/-- Where no call fails, none does with other replies and telemetry. -/
theorem answered_of_answering {α : Type} (p : Action α) (replies : (m : ResponseModel) → m.Reply)
    (telemetry : String → Rat) (s : GestaltGraphState) :
    ∀ ev ∈ (p.run (answering replies telemetry fun _ => Reference.answer fun _ => false) s).trace,
      Answered ev := by
  intro ev hev
  obtain ⟨n, hn⟩ := answer_of_mem_trace p _ s ev hev
  rw [hn]
  rcases ev.op with site | _ | call
  · trivial
  · trivial
  · cases call <;> exact ⟨_, rfl⟩

/-- **A reply below the evidence.**  Where no call fails, the report has the lower
risk of the reply. -/
theorem not_decisionsUpheld {rt : Runtime} {context : AgentContextEnvelope}
    {replies : (m : ResponseModel) → m.Reply} {telemetry : String → Rat} {s : GestaltGraphState}
    (htools : rt.AllowsAudit) (hmocks : rt.mocks .securityAudit s.stats = false)
    (hlower : (replies .securityAuditReasoning).overallRiskScore.val <
      (SecurityAudit.overallRisk s.stats.securityRiskScore
        (SecurityAudit.findingCount rt s (telemetry "error_ratio"))).val) :
    ¬ DecisionsUpheld rt context
      (answering replies telemetry fun _ => Reference.answer fun _ => false) s := by
  intro hupheld
  have hreturns : Steady Answered (fun _ => True) False s
      (SecurityAudit.produceArtifacts rt context) fun _ => True :=
    (steady_securityAudit (covers_of_answered fun _ h => h) (Or.inl htools)).mono
      fun _ _ => trivial
  have hspec : Spec Answered (fun _ => True) s (SecurityAudit.produceArtifacts rt context)
      (fun _ _ => True) fun _ _ => False :=
    Spec.mono hreturns (fun _ _ _ => trivial) fun _ _ h => h.2
  obtain ⟨art, hart, -⟩ := hspec.exists_ok (answered_of_answering _ replies telemetry s)
  have hemits := emits_of_answering (steady_securityAudit (covers_true _) (Or.inl htools)) hart
  have hupholds := (SecurityAudit.upholdsRisk_iff hemits).mp (hupheld.securityAudit art hart) hmocks
  omega

namespace Reference

/-- The settings of the test suite with a model provider behind every route. -/
def providerSettings : GestaltSettings :=
  { settings with
    models :=
      { enableMockLlm := false
        defaultAlias := .text "provider/default"
        routes :=
          { low := .text "provider/low"
            medium := .text "provider/medium"
            high := .text "provider/high"
            critical := .text "provider/critical" } } }

/-- The runtime of these settings. -/
def providerRuntime : Runtime := { runtime with settings := providerSettings }

/-- A state after an agent failed. -/
def failedState : GestaltGraphState where
  traceId := 1
  cycleId := 2
  objective := .text "Run a full Gestalt Security Audit and produce remediation guidance."
  stats := { lastUpdated := 0 }
  metadata := [("last_error", .str "boom")]

/-- The context of an agent at this state. -/
def failedContext : AgentContextEnvelope where
  traceId := failedState.traceId
  cycleId := failedState.cycleId
  objective := failedState.objective
  source := failedState.source
  latestStats := failedState.stats
  blackboardContext := []
  inboundCommands := []
  approvals := []
  metadata := failedState.metadata

end Reference

/-- One finding is evidence of a risk of twenty; the provider replies zero, and so
does the report. -/
theorem risk_lowered :
    ¬ DecisionsUpheld Reference.providerRuntime Reference.failedContext
      (answering Reference.modelReply Reference.prometheusValue fun _ =>
        Reference.answer fun _ => false) Reference.failedState :=
  not_decisionsUpheld (by decide) (by decide) (by decide +kernel)

end Gestalt
