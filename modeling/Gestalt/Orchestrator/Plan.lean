import Gestalt.Graph.Reference

/-!
# Gestalt.Orchestrator.Plan

The plan `determine_next_agents` derives from an objective.

Unless the metadata asks for one agent, six keyword tests each contribute at
most one specialist, in one order, and a fallback stands in when none does.  So
the plan keeps the order of the tests and names nobody twice.  Before the first
report the monitor is always in it and the fallback never is: then an objective
that says more is given at least the specialists of one that says less.
-/

namespace Gestalt

namespace Orchestrator

/-! ## the nodes -/

/-- `DECISION_TO_NODE`. -/
def decisionToNode : Dict AgentDecision :=
  [("monitor", .monitor), ("analyzer", .analyze), ("planner_executor", .planAndExecute),
    ("optimizer", .optimize), ("knowledge", .curateKnowledge),
    ("security_audit", .runSecurityAudit)]

/-- The entries are the names the dispatch knows, with their decisions. -/
theorem get?_decisionToNode (name : String) :
    decisionToNode.get? name = (Specialist.ofName? name).map Specialist.decision := by
  unfold Specialist.ofName?
  split
  · rfl
  · rfl
  · rfl
  · rfl
  · rfl
  · rfl
  · next hmonitor hanalyzer hplanner hoptimizer hknowledge haudit =>
      simp [decisionToNode, Ne.symm hmonitor, Ne.symm hanalyzer, Ne.symm hplanner,
        Ne.symm hoptimizer, Ne.symm hknowledge, Ne.symm haudit]

/-! ## what the metadata asks for -/

/-- `state.metadata.get("force_audit")`, as the condition it stands in. -/
def forcesAudit (state : GestaltGraphState) : Bool :=
  ((state.metadata.get? "force_audit").map Value.truthy).getD false

/-- The agent that is asked for whatever the objective says. -/
def requestedAgent (state : GestaltGraphState) : Option String :=
  match scheduledAgent state with
  | some scheduled => some scheduled
  | none => if forcesAudit state then some "security_audit" else none

theorem requestedAgent_eq_none_iff {state : GestaltGraphState} :
    requestedAgent state = none ↔ scheduledAgent state = none ∧ forcesAudit state = false := by
  unfold requestedAgent
  cases scheduledAgent state <;> simp

/-- The plan names the agent that is asked for, or is derived. -/
theorem determineNextAgents_eq_requestedAgent (rt : Runtime) (state : GestaltGraphState) :
    determineNextAgents rt state =
      match requestedAgent state with
      | some name => [name]
      | none =>
          let ordered := orderedAgents rt state
          (dedupe (if ordered.isEmpty then [.analyzer, .plannerExecutor, .optimizer, .knowledge]
            else ordered)).map Specialist.name := by
  rw [determineNextAgents_eq, requestedAgent]
  cases scheduledAgent state with
  | some scheduled => rfl
  | none =>
      unfold determineNextAgents.planned
      cases hforced : forcesAudit state <;> rw [forcesAudit] at hforced <;> simp [hforced]

/-! ## the tests -/

/-- The order of the tests. -/
def testOrder : List Specialist :=
  [.monitor, .securityAudit, .analyzer, .plannerExecutor, .optimizer, .knowledge]

/-- Keeping first occurrences changes nothing where there are no others. -/
theorem dedupe_eq_self {α : Type} [DecidableEq α] {xs : List α} (h : xs.Nodup) :
    dedupe xs = xs := by
  have hfold : ∀ (xs kept : List α), (kept ++ xs).Nodup →
      xs.foldl (fun kept x => if x ∈ kept then kept else kept ++ [x]) kept = kept ++ xs := by
    intro xs
    induction xs with
    | nil => simp
    | cons x xs ih =>
        intro kept hnodup
        have hx : x ∉ kept := fun hx => (List.nodup_append.mp hnodup).2.2 x hx x (by simp) rfl
        rw [List.foldl_cons, if_neg hx, ih _ (by simpa using hnodup)]
        simp
  exact hfold xs [] h

/-- What a test contributes. -/
theorem test_sublist (b : Bool) (a : Specialist) :
    (if b = true then [a] else []).Sublist [a] := by
  cases b <;> simp

/-- A test that passes more easily contributes no less. -/
theorem test_mono {b b' : Bool} (h : b = true → b' = true) (a : Specialist) :
    (if b = true then [a] else []).Sublist (if b' = true then [a] else []) := by
  cases b with
  | false => simp
  | true => simp [h rfl]

/-- The tests contribute in their order. -/
theorem orderedAgents_sublist (rt : Runtime) (state : GestaltGraphState) :
    (orderedAgents rt state).Sublist testOrder :=
  (((((test_sublist _ _).append (test_sublist _ _)).append (test_sublist _ _)).append
    (test_sublist _ _)).append (test_sublist _ _)).append (test_sublist _ _)

/-- A longer text has the keywords of a shorter one. -/
theorem mentions_mono {o o' : String} (h : occursIn o o' = true) (keywords : List String)
    (hmentions : (keywords.any fun k => occursIn k o) = true) :
    (keywords.any fun k => occursIn k o') = true := by
  obtain ⟨k, hk, hoccurs⟩ := List.any_eq_true.mp hmentions
  have hinfix : k.toList <:+: o'.toList :=
    (of_decide_eq_true hoccurs).trans (of_decide_eq_true h)
  exact List.any_eq_true.mpr ⟨k, hk, decide_eq_true hinfix⟩

/-- **Saying more passes no fewer tests.** -/
theorem orderedAgents_mono {rt : Runtime} {state state' : GestaltGraphState}
    (hreports : state'.executionReports.isEmpty = state.executionReports.isEmpty)
    (hstats : state'.stats = state.stats)
    (hoccurs : occursIn (rt.lower state.objective.val) (rt.lower state'.objective.val) = true) :
    (orderedAgents rt state).Sublist (orderedAgents rt state') := by
  have hmentions := mentions_mono hoccurs
  unfold orderedAgents
  rw [hreports, hstats]
  refine (((((List.Sublist.refl _).append ?_).append ?_).append ?_).append ?_).append ?_
  · exact test_mono (hmentions _) _
  · exact test_mono (hmentions _) _
  · exact test_mono (hmentions _) _
  · refine test_mono (fun h => ?_) _
    rw [Bool.or_eq_true] at h ⊢
    exact h.imp_left (hmentions _)
  · exact test_mono (hmentions _) _

/-- Before the first report the monitor is always in the plan. -/
theorem orderedAgents_ne_nil {rt : Runtime} {state : GestaltGraphState}
    (hfresh : state.executionReports = []) : (orderedAgents rt state).isEmpty = false := by
  simp [orderedAgents, hfresh]

/-! ## the plan -/

/-- The specialists of a derived plan. -/
theorem exists_derived (rt : Runtime) {state : GestaltGraphState}
    (hnone : requestedAgent state = none) :
    ∃ plan : List Specialist, determineNextAgents rt state = plan.map Specialist.name ∧
      plan ≠ [] ∧ plan.Sublist testOrder ∧
      (state.executionReports = [] → plan = orderedAgents rt state) := by
  have hordered := orderedAgents_sublist rt state
  have hnodup : testOrder.Nodup := by decide
  rw [determineNextAgents_eq_requestedAgent, hnone]
  cases hempty : (orderedAgents rt state).isEmpty with
  | true =>
      refine ⟨[.analyzer, .plannerExecutor, .optimizer, .knowledge], by simp [hempty]; rfl,
        by simp, by decide, fun hfresh => ?_⟩
      rw [orderedAgents_ne_nil hfresh] at hempty
      contradiction
  | false =>
      refine ⟨orderedAgents rt state, ?_, ?_, hordered, fun _ => rfl⟩
      · simp [hempty, dedupe_eq_self (hnodup.sublist hordered)]
      · rintro hnil
        simp [hnil] at hempty

/-- What a plan of the orchestrator should look like. -/
structure WellShaped (plan : List String) : Prop where
  ne_nil : plan ≠ []
  nodup : plan.Nodup
  ordered : plan.Sublist
    ["monitor", "security_audit", "analyzer", "planner_executor", "optimizer", "knowledge"]
  known : ∀ name ∈ plan, (decisionToNode.get? name).isSome
  length_le : plan.length ≤ 6

/-- A plan that keeps the order of the tests is well shaped. -/
theorem wellShaped_of_sublist {plan : List Specialist} (hne : plan ≠ [])
    (h : plan.Sublist testOrder) : WellShaped (plan.map Specialist.name) where
  ne_nil := by simpa using hne
  nodup := (by decide : (testOrder.map Specialist.name).Nodup).sublist (h.map _)
  ordered := h.map Specialist.name
  known := by
    intro name hmem
    obtain ⟨a, -, rfl⟩ := List.mem_map.mp hmem
    simp [get?_decisionToNode]
  length_le := by
    rw [List.length_map]
    exact h.length_le

/-- **Plan shape and monotonicity.**  A plan that is derived is well shaped, and
before the first report it only grows with the objective. -/
theorem determineNextAgents_shape_mono (rt : Runtime) :
    (∀ state, scheduledAgent state = none → forcesAudit state = false →
      WellShaped (determineNextAgents rt state)) ∧
    ∀ state state' : GestaltGraphState, requestedAgent state' = requestedAgent state →
      state.executionReports = [] → state'.executionReports = [] → state'.stats = state.stats →
      occursIn (rt.lower state.objective.val) (rt.lower state'.objective.val) = true →
      (determineNextAgents rt state).Sublist (determineNextAgents rt state') := by
  refine ⟨fun state hscheduled hforced => ?_,
    fun state state' hsame hfresh hfresh' hstats hoccurs => ?_⟩
  · have hnone := requestedAgent_eq_none_iff.mpr ⟨hscheduled, hforced⟩
    obtain ⟨plan, hplan, hne, hordered, -⟩ := exists_derived rt hnone
    rw [hplan]
    exact wellShaped_of_sublist hne hordered
  · cases hrequested : requestedAgent state with
    | some name =>
        rw [hrequested] at hsame
        rw [determineNextAgents_eq_requestedAgent, determineNextAgents_eq_requestedAgent,
          hrequested, hsame]
    | none =>
        obtain ⟨plan, hplan, -, -, hderived⟩ := exists_derived rt hrequested
        obtain ⟨plan', hplan', -, -, hderived'⟩ := exists_derived rt (hsame.trans hrequested)
        rw [hplan, hplan', hderived hfresh, hderived' hfresh']
        exact (orderedAgents_mono (by rw [hfresh, hfresh']) hstats hoccurs).map _

/-- The plan for watching the cluster, and for watching it for a regression. -/
theorem determineNextAgents_shape_mono_watch :
    let watch := buildGraphState Reference.fresh Reference.watchRequest
    let regression : GestaltGraphState :=
      { watch with objective := .text "Watch the cluster for a latency regression" }
    WellShaped (determineNextAgents Reference.runtime regression) ∧
      determineNextAgents Reference.runtime regression = ["monitor", "analyzer", "optimizer"] ∧
      (determineNextAgents Reference.runtime watch).Sublist
        (determineNextAgents Reference.runtime regression) := by
  intro watch regression
  have h := determineNextAgents_shape_mono Reference.runtime
  refine ⟨h.1 regression (by decide) (by decide), ?_, h.2 watch regression rfl rfl rfl rfl ?_⟩
  · decide +kernel
  · decide +kernel

end Orchestrator

end Gestalt
