import Gestalt.Graph.Ledger
import Gestalt.Events
import Gestalt.Graph.Dispatch

/-!
# Gestalt.Graph.Containment

What a failed invocation leaves behind.

`run` merges the failure into whatever the state object has become by then, and
nothing takes an approval back.  The orchestrator registers its approval before
the last things that can go wrong, so an exception after that point leaks it
into the state object and onto the bus.
-/

namespace Gestalt

open Effects Program

/-! ## the bus -/

/-- The table of a bus after the approvals. -/
def ApprovalTable.register (table : ApprovalTable) (approvals : List EventApproval) :
    ApprovalTable :=
  approvals.foldl (fun table approval => table.set approval.approvalId approval) table

/-- The in-memory bus registers the approval and does not fail. -/
theorem MemoryEventBus.run_approve (w : Surroundings Redis) (bus : MemoryEventBus)
    (approval : EventApproval) :
    ((approve approval).run w bus).result = .ok approval ∧
      ((approve approval).run w bus).state.approvals =
        ApprovalTable.register bus.approvals [approval] := ⟨rfl, rfl⟩

/-! ## failed invocations -/

/-- An exception leaves the body of the invocation. -/
def Raises (rt : Runtime) (node : AgentName) (s : GestaltGraphState) (w : Surroundings Services) :
    Prop :=
  ∃ e, (bodyRun rt node s w).result = .error e

/-- The invocation returns the state it was handed, but for one failure report
and the `last_error` marker, and leaves the state object and the bus as they
were. -/
structure Contained (rt : Runtime) (node : AgentName) (s : GestaltGraphState)
    (w : Surroundings Services) : Prop where
  returns : ∃ text report,
    ((run rt (agentAt rt node)).run w s).result = .ok { s with
      executionReports := s.executionReports ++ [report]
      metadata := s.metadata.set "last_error" (.str text) } ∧
    report.status = .failed ∧ report.emittedCommands = [] ∧ report.emittedMemories = []
  input : ((run rt (agentAt rt node)).run w s).state = s
  bus : ∀ table : ApprovalTable,
    table.register (handedToBus ((run rt (agentAt rt node)).run w s).trace) = table

/-- What can happen during an invocation: the clock does not step back, and an
in-memory bus does not fail. -/
structure Plausible (rt : Runtime) (events : List (Event Services)) : Prop where
  clock : (readings events).Pairwise (· ≤ ·)
  memoryBus : rt.settings.events.backend = .memory →
    ∀ approval e, ⟨.call (.approve approval), .error e⟩ ∉ events

/-- Every failure of the invocation is contained. -/
def ContainsFailures (rt : Runtime) (node : AgentName) (s : GestaltGraphState) : Prop :=
  ∀ w, Plausible rt ((run rt (agentAt rt node)).run w s).trace → Raises rt node s w →
    Contained rt node s w

section Runs

variable {rt : Runtime} {node : AgentName} {s : GestaltGraphState} {w : Surroundings Services}

/-- The events of a run that starts with a clock reading are later than it. -/
theorem started_le_of_mem {start now : Int} {site site' : ClockSite}
    {events : List (Event Services)}
    (hclock : (readings (⟨.utcNow site, start⟩ :: events)).Pairwise (· ≤ ·))
    (hnow : ⟨.utcNow site', now⟩ ∈ (⟨.utcNow site, start⟩ :: events : List (Event Services))) :
    start ≤ now := by
  have hmem := mem_readings hnow
  rw [readings, List.filterMap_cons] at hclock hmem
  rcases List.mem_cons.mp hmem with heq | hlater
  · exact Int.le_of_eq heq.symm
  · exact (List.pairwise_cons.mp hclock).1 now hlater

/-- Where the body raises, the failure is contained if the body has left the
state object and the bus alone. -/
theorem contained_of_raises {e : Exc} (h : (bodyRun rt node s w).result = .error e)
    (hclock : (readings ((run rt (agentAt rt node)).run w s).trace).Pairwise (· ≤ ·))
    (hstate : (bodyRun rt node s w).state = s)
    (hbus : ∀ ev ∈ (bodyRun rt node s w).trace, LeavesBus ev) : Contained rt node s w := by
  obtain ⟨w', hrun⟩ := run_of_raises h
  rw [hstate] at hrun
  have htrace := congrArg Outcome.trace hrun
  rw [htrace] at hclock
  -- the handler runs on the state as it was, and its clock reading is a later one
  have hstarted : ⟨.utcNow .started, w 0 (.utcNow .started)⟩ ∈
      ((run rt (agentAt rt node)).run w s).trace := by
    rw [htrace]
    exact List.mem_cons_self
  have hrecover : Spec (· ∈ ((run rt (agentAt rt node)).run w s).trace) LeavesBus s
      (recover rt node (w 0 (.utcNow .started)) e) _ fun _ _ => False :=
    spec_recover hstarted
      (fun now hnow => Or.inl (started_le_of_mem hclock (htrace ▸ hnow))) e
  have hallowed : ∀ ev ∈ ((recover rt node (w 0 (.utcNow .started)) e).run w' s).trace,
      ev ∈ ((run rt (agentAt rt node)).run w s).trace := by
    intro ev hev
    rw [htrace]
    exact List.mem_cons_of_mem _ (List.mem_append_right _ hev)
  obtain ⟨out, hout, hs, ⟨report, hreport, rfl⟩, -⟩ := hrecover.exists_ok hallowed
  have hquiet := hrecover.emits_of_mem hallowed
  refine ⟨⟨rt.excText e, report, ?_, hreport.status_eq, hreport.commands, hreport.memories⟩, ?_,
    fun table => ?_⟩
  · rw [hrun]
    simp [hout, applyStateUpdate, failureArtifacts]
  · rw [hrun]
    exact hs
  · rw [handedToBus_eq_nil_iff.mpr]
    · rfl
    · intro ev hev
      rw [htrace] at hev
      rcases List.mem_cons.mp hev with rfl | hev
      · exact Permissive.ordinary trivial
      · exact (List.mem_append.mp hev).elim (hbus ev) (hquiet ev)

/-- A specialist leaves the state object and the bus alone, whatever goes wrong. -/
theorem contained_specialist (hnode : node ≠ .orchestrator) : ContainsFailures rt node s := by
  intro w hworld hraises
  obtain ⟨e, he⟩ := hraises
  have hsuits : Suits (fun _ => True) LeavesBus rt s node :=
    ⟨fun _ _ _ _ _ h => by simp at h, fun h => absurd h hnode⟩
  have hbody : Spec (fun _ => True) LeavesBus s
      (lifecycle rt (agentAt rt node) (w 0 (.utcNow .started))) (fun _ _ => True)
      fun _ s' => s' = s := by
    refine Spec.mono (spec_lifecycle (· = s) (fun art s' => s' = s ∧ art.IssuesPending)
      (covers_true _) trivial (fun _ _ => Or.inr trivial) (fun _ => trivial) rfl ?_ ?_)
      (fun _ _ _ => trivial) fun _ _ h => h.1
    · intro context hcontext _
      rw [agentAt_name] at hcontext
      exact Spec.mono (steady_specialist hnode hcontext hsuits)
        (fun _ _ h => ⟨h.1, h.2.2.issuesPending⟩) fun _ _ h => h
    · intro art _ hpost
      obtain ⟨rfl, hpending⟩ := hpost
      exact ⟨rfl, rfl, hpending⟩
  exact contained_of_raises he hworld.clock (hbody.of_error (fun _ _ => trivial) he)
    (hbody.emits_of_mem fun _ _ => trivial)

end Runs

/-! ## when failures are contained -/

/-- The invocation can fail after its approval: the Redis bus may refuse it, and
a name that is no specialist's is only looked up afterwards. -/
def Leaks (rt : Runtime) (node : AgentName) (s : GestaltGraphState) : Prop :=
  node = .orchestrator ∧ ∃ name, Approves rt s name ∧
    (rt.settings.events.backend = .redis ∨ Specialist.ofName? name = none)

section Containment

variable {rt : Runtime} {s : GestaltGraphState}

/-- An orchestrator that cannot fail after its approval contains its failures. -/
theorem contained_orchestrator (h : ¬ Leaks rt .orchestrator s) :
    ContainsFailures rt .orchestrator s := by
  intro w hworld hraises
  obtain ⟨e, he⟩ := hraises
  obtain ⟨w', hrun⟩ := run_of_raises he
  have htrace := congrArg Outcome.trace hrun
  have hbody : ∀ ev ∈ (bodyRun rt .orchestrator s w).trace,
      ev ∈ ((run rt (agentAt rt .orchestrator)).run w s).trace := by
    intro ev hev
    rw [htrace]
    exact List.mem_cons_of_mem _ (List.mem_append_left _ hev)
  have hclock := hworld.clock
  rw [htrace] at hclock
  have hsafe : ∀ name, Approves rt s name →
      rt.settings.events.backend = .memory ∧ Specialist.ofName? name ≠ none := by
    intro name happroves
    refine ⟨?_, fun hunknown => h ⟨rfl, name, happroves, Or.inr hunknown⟩⟩
    cases hbackend : rt.settings.events.backend with
    | redis => exact absurd ⟨rfl, name, happroves, Or.inl hbackend⟩ h
    | memory => rfl
  have hwp : wp (· ∈ ((run rt (agentAt rt .orchestrator)).run w s).trace)
      (lifecycle rt (agentAt rt .orchestrator) (w 0 (.utcNow .started))) (fun _ _ _ => True)
      (fun _ s' t' => s' = s ∧ Extends LeavesBus [] t') s [] := by
    refine Orchestrator.wp_lifecycle (fun _ _ _ => trivial) (covers_true _).completions
      (fun _ _ _ _ _ _ => Or.inr trivial) (Or.inr trivial) (fun _ e t' ht' => ⟨rfl, ht'⟩)
      (fun _ _ _ _ => trivial) ?_ ?_
    · intro name next rest now clock approval e t' happroves _ _ _ hanswer
      exact absurd hanswer (hworld.memoryBus (hsafe name happroves).1 approval e)
    · intro name next rest reasoning messages now clock approval t' happroves hname _ _ _ _
      obtain ⟨a, ha⟩ := Option.ne_none_iff_exists'.mp (hsafe name happroves).2
      have hknown : Specialist.ofValue? next = some a := by
        rw [Specialist.ofValue?, hname, Option.bind_some, ha]
      have hrest : Steady (· ∈ ((run rt (agentAt rt .orchestrator)).run w s).trace) LeavesBus False
          (s.withApproval approval) (Orchestrator.announce s reasoning next rest >>=
            complete .orchestrator (w 0 (.utcNow .started)) messages) fun _ => True := by
        refine steady_bind (Orchestrator.steady_announce hknown) fun art hrows => ?_
        refine Orchestrator.steady_complete_of_rows_eq_nil hrows fun now hnow => ?_
        rw [htrace] at hnow
        exact started_le_of_mem hclock hnow
      exact wp_mono (fun _ _ _ _ => trivial) (fun _ _ _ hpost => hpost.2.2.elim) (hrest _)
  have hmeets := wp_run hwp hbody
  rw [bodyRun] at he
  simp only [Meets, he, List.nil_append] at hmeets
  obtain ⟨hstate, new, hnew, hleaves⟩ := hmeets
  refine contained_of_raises he hworld.clock hstate fun ev hev => hleaves ev ?_
  rwa [← List.nil_append new, ← hnew]

/-- The bus refuses approvals if it is the Redis one. -/
def Reference.refusing (backend : EventBackend) : Call → Bool
  | .approve _ => backend = .redis
  | _ => false

/-- A table with an approval in it is not empty. -/
theorem ApprovalTable.register_ne_nil {table : ApprovalTable} {approvals : List EventApproval}
    (h : approvals ≠ []) : table.register approvals ≠ [] := by
  obtain ⟨before, last, rfl⟩ := (List.eq_nil_or_concat approvals).resolve_left h
  rw [register, List.concat_eq_append, List.foldl_append, List.foldl_cons, List.foldl_nil]
  intro hnil
  have hget := Table.get?_set_self (before.foldl
    (fun table approval => table.set approval.approvalId approval) table) last.approvalId last
  rw [hnil] at hget
  contradiction

/-- Only one name can be the one approved. -/
theorem Approves.unique {name name' : String} (h : Approves rt s name) (h' : Approves rt s name') :
    name = name' := by
  obtain ⟨-, -, next, rest, hpending, hname, -⟩ := h
  obtain ⟨-, -, next', rest', hpending', hname', -⟩ := h'
  obtain ⟨rfl, -⟩ : next = next' ∧ rest = rest' := by simpa [hpending] using hpending'
  exact Option.some.inj (hname.symm.trans hname')

/-- What happens in a world in which nothing goes wrong but that the Redis bus
refuses approvals. -/
def Reference.Refuses (backend : EventBackend) (ev : Event Services) : Prop :=
  ∃ i, ev = ⟨ev.op, (Reference.frozen (refusing backend)).answers i ev.op⟩

theorem Reference.Refuses.answer_eq {backend : EventBackend} {c : Call}
    {answer : Except Exc c.Reply} (h : Refuses backend ⟨.call c, answer⟩) :
    answer = if refusing backend c then .error (.external "unavailable")
      else .ok (Reference.reply c) := by
  obtain ⟨i, hi⟩ := h
  simpa [Reference.frozen, Reference.answer] using hi

theorem Reference.Refuses.utcNow_eq {backend : EventBackend} {site : ClockSite} {now : Int}
    (h : Refuses backend ⟨.utcNow site, now⟩) : now = 0 := by
  obtain ⟨i, hi⟩ := h
  simpa [Reference.frozen] using hi

/-- In this world a run is plausible. -/
theorem Reference.plausible_of_refuses {α : Type} (body : Action α) :
    Plausible rt
      (body.run (Reference.frozen (refusing rt.settings.events.backend)).answers s).trace := by
  refine ⟨Reference.pairwise_readings (answer_of_mem_trace _ _ _), fun hmemory a e ha => ?_⟩
  have hrefuses : Refuses rt.settings.events.backend ⟨.call (.approve a), .error e⟩ :=
    answer_of_mem_trace _ _ _ _ ha
  simpa [refusing, hmemory] using hrefuses.answer_eq

/-- In this world an invocation that can leak fails once it has called the bus. -/
theorem wp_lifecycle_of_leaks {name : String} (happroves : Approves rt s name)
    (hleak : rt.settings.events.backend = .redis ∨ Specialist.ofName? name = none) :
    wp (Reference.Refuses rt.settings.events.backend) (lifecycle rt (agentAt rt .orchestrator) 0)
      (fun _ _ _ => False)
      (fun _ _ t' => ∃ approval answer, ⟨.call (.approve approval), answer⟩ ∈ t') s [] := by
  refine Orchestrator.wp_lifecycle ?_ ⟨?_, ?_⟩ ?_ (Or.inl ⟨name, happroves⟩)
    False.elim False.elim ?_ ?_
  · intro q e hallowed
    simpa [Reference.refusing] using hallowed.answer_eq
  · intro request m e hallowed
    simpa [Reference.refusing] using hallowed.answer_eq
  · intro request m hallowed
    simpa [Reference.refusing, Reference.reply] using hallowed.answer_eq
  · intro now d clock hnow hd hclock
    obtain rfl := hnow.utcNow_eq
    obtain rfl := hclock.utcNow_eq
    left
    rw [hd]
    change (0 : Int) < 0 + rt.settings.events.approvalTtl
    rw [Int.zero_add]
    exact rt.settings.events.approvalTtl_pos
  · intro _ _ _ now clock approval e t' _ _ _ _ _
    exact ⟨approval, .error e, by simp [issueEvents]⟩
  · intro name' next rest reasoning messages now clock approval t' happroves' hname' _ _ _
      hallowed
    obtain rfl := happroves.unique happroves'
    rcases hleak with hredis | hunknown
    · have hrefused := hallowed.answer_eq
      simp [Reference.refusing, hredis] at hrefused
    · have hrest : Steady (Reference.Refuses rt.settings.events.backend) LeavesBus True
          (s.withApproval approval)
          (Orchestrator.announce s reasoning next rest >>= complete .orchestrator 0 messages)
          fun _ => False :=
        steady_bind (Orchestrator.steady_announce_unknown (by
          rw [Orchestrator.elementText, hname', Option.getD_some, hunknown]))
          fun _ hfalse => hfalse.elim
      refine wp_mono (fun _ _ _ hpost => hpost.2.2) ?_ (hrest _)
      intro e _ t'' hpost
      obtain ⟨⟨new, rfl, -⟩, -⟩ := hpost
      exact ⟨approval, .ok (), by simp [issueEvents]⟩

/-- **A failure that leaks**: on a day on which nothing else goes wrong, the
orchestrator fails after its approval, which stays on the bus. -/
theorem not_containsFailures_of_leaks {node : AgentName} (h : Leaks rt node s) :
    ¬ ContainsFailures rt node s := by
  obtain ⟨rfl, name, happroves, hleak⟩ := h
  intro hcontains
  let w := (Reference.frozen (Reference.refusing rt.settings.events.backend)).answers
  have hbody : ∀ ev ∈ (bodyRun rt .orchestrator s w).trace,
      Reference.Refuses rt.settings.events.backend ev := by
    intro ev hev
    obtain ⟨i, hi⟩ := answer_of_mem_trace _ _ _ ev hev
    exact ⟨1 + i, hi⟩
  have hmeets := wp_run (wp_lifecycle_of_leaks happroves hleak) hbody
  have hrun : (lifecycle rt (agentAt rt .orchestrator) 0).run (w.drop 1) s =
      bodyRun rt .orchestrator s w := rfl
  rw [hrun] at hmeets
  cases hresult : (bodyRun rt .orchestrator s w).result with
  | ok out => simp only [Meets, hresult] at hmeets
  | error e =>
      simp only [Meets, hresult, List.nil_append] at hmeets
      obtain ⟨approval, answer, hsent⟩ := hmeets
      have hbus := (hcontains w (Reference.plausible_of_refuses _) ⟨e, hresult⟩).bus []
      obtain ⟨w', hfull⟩ := run_of_raises hresult
      refine ApprovalTable.register_ne_nil ?_ hbus
      rw [hfull, Ne, handedToBus_eq_nil_iff]
      intro hleaves
      exact hleaves _ (List.mem_cons_of_mem _ (List.mem_append_left _ hsent)) approval rfl

end Containment

/-- **When failures are contained.**  Let an agent be run on any state.  Every
failure of the invocation is contained, whatever raises and wherever, exactly
when the agent is a specialist or an orchestrator that cannot fail once it has
got as far as its approval: the bus is the in-memory one and the head of the
plan names a specialist. -/
theorem containsFailures_iff (rt : Runtime) (node : AgentName) (s : GestaltGraphState) :
    ContainsFailures rt node s ↔
      (node = .orchestrator → ∀ name, Approves rt s name →
        rt.settings.events.backend = .memory ∧ ∃ a, Specialist.ofName? name = some a) := by
  constructor
  · intro hcontains hnode name happroves
    constructor
    · cases hbackend : rt.settings.events.backend with
      | redis =>
          exact absurd hcontains
            (not_containsFailures_of_leaks ⟨hnode, name, happroves, Or.inl hbackend⟩)
      | memory => rfl
    · refine Option.ne_none_iff_exists'.mp fun hunknown => ?_
      exact not_containsFailures_of_leaks ⟨hnode, name, happroves, Or.inr hunknown⟩ hcontains
  · intro hsafe
    by_cases hnode : node = .orchestrator
    · subst hnode
      refine contained_orchestrator fun hleaks => ?_
      obtain ⟨-, name, happroves, hleak⟩ := hleaks
      obtain ⟨hmemory, a, hknown⟩ := hsafe rfl name happroves
      simp [hmemory, hknown] at hleak
    · exact contained_specialist hnode

/-- A request for an agent that does not exist. -/
def Reference.unknownRequest : CycleRequest :=
  { watchRequest with metadata := [("scheduled_agent", .str "observer")] }

/-- The approval for an agent that does not exist stays behind. -/
theorem failure_leaks :
    ¬ ContainsFailures Reference.runtime .orchestrator
      (buildGraphState Reference.fresh Reference.unknownRequest) := by
  refine not_containsFailures_of_leaks ⟨rfl, "observer", ⟨by decide, by decide, ?_⟩, Or.inr rfl⟩
  exact ⟨.str "observer", [], rfl, rfl, fun _ => ⟨["observer"], rfl⟩⟩

end Gestalt
