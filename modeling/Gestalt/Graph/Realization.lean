import Gestalt.Agents.Progress
import Gestalt.Graph.Grammar
import Gestalt.Graph.Journal

/-!
# Gestalt.Graph.Realization

Every journal the desk admits is kept by some cycle.

In a smooth visit nothing goes wrong and telemetry is plausible; its agent
completes.  In a visit without recall its agent fails.  So a journal tells what
visits lead to it, entry by entry, and the desk is no looser than the code: what
it admits are exactly the histories that can happen.
-/

namespace Gestalt

open Effects Program

/-! ## visits that complete -/

/-- Nothing goes wrong, and telemetry is plausible. -/
structure Smooth (ev : Event Services) : Prop extends Calm ev where
  reading : PlausibleReading ev

/-- A request that stands for a cycle which can be completed: the runtime is
equipped, the sandbox lets the objective pass, and the plan is known. -/
structure CycleRequest.Feasible (rt : Runtime) (fresh : Fresh) (request : CycleRequest) :
    Prop where
  equipped : rt.Equipped
  aligned : blank request.objective.val = false
  unblocked : rt.Unblocked (PlannerExecutor.commandText request.objective.val none)
  unrouted : request.metadata.get? "next_node" = none
  planned : ∃ plan : List Specialist,
    Orchestrator.agenda rt (buildGraphState fresh request) = plan.map some

/-- Every element of the plan is a known specialist. -/
def Desk.Known (d : Desk) : Prop := ∃ plan : List Specialist, d.todo = plan.map some

theorem Desk.Known.enter {d d' : Desk} {entry : Entry} (h : d.Known)
    (henter : d.enter entry = some d') : d'.Known := by
  obtain ⟨plan, hplan⟩ := h
  have htodo : d'.todo = d.todo ∨ d'.todo = d.todo.tail := by
    cases entry with
    | failed a =>
        obtain ⟨-, rfl⟩ : d.turn = some a ∧ _ = d' := by simpa [Desk.enter] using henter
        exact Or.inl rfl
    | worked a =>
        obtain ⟨-, rfl⟩ : d.turn = some a.agent ∧ _ = d' := by simpa [Desk.enter] using henter
        exact Or.inl rfl
    | dispatched a =>
        obtain ⟨-, rfl⟩ :
            (d.turn = some .orchestrator ∧ d.todo.head? = some (some a)) ∧ _ = d' := by
          simpa [Desk.enter] using henter
        exact Or.inr rfl
    | finalized =>
        obtain ⟨-, rfl⟩ : (d.turn = some .orchestrator ∧ d.todo = []) ∧ _ = d' := by
          simpa [Desk.enter] using henter
        exact Or.inl rfl
  rcases htodo with h | h
  · exact ⟨plan, h.trans hplan⟩
  · exact ⟨plan.tail, by rw [h, hplan, List.map_tail]⟩

/-- A plan without an unknown name is one the orchestrator can dispatch. -/
theorem Orchestrator.plan?_of_agenda {rt : Runtime} {s : GestaltGraphState}
    {plan : List Specialist} (h : agenda rt s = plan.map some) : plan? rt s = some plan := by
  cases hpending : pendingAgents rt s with
  | none =>
      rw [agenda, hpending] at h
      cases plan <;> simp at h
  | some pending =>
      rw [agenda, hpending] at h
      rw [plan?, hpending, Option.bind_some]
      -- the names are known one by one
      clear hpending
      induction pending generalizing plan with
      | nil =>
          cases plan with
          | nil => rfl
          | cons a plan => simp at h
      | cons next rest ih =>
          cases plan with
          | nil => simp at h
          | cons a plan =>
              obtain ⟨hnext, hrest⟩ : Specialist.ofValue? next = some a ∧ _ := by simpa using h
              simp [List.mapM_cons, hnext, ih hrest]

section Completion

variable {rt : Runtime} {fresh : Fresh} {request : CycleRequest} {c : Cycle} {v : Visit}

/-- The report of a completed invocation is the last one. -/
theorem CompletedAs.reports {a : AgentName} {s s' out : GestaltGraphState} {art : AgentArtifacts}
    (h : CompletedAs a s' art out) (hkept : s'.view = s.view) :
    out.view.reports = s.view.reports ++ [(a.name, .completed)] := by
  obtain ⟨messages, report, -, hreport, rfl⟩ := h
  rw [← hkept]
  simp [GestaltGraphState.view, applyStateUpdate, hreport.agentName, hreport.status_eq,
    AgentName.field]

theorem Routing.view_eq {allows : Event Services → Prop} {s s' : GestaltGraphState}
    {art : AgentArtifacts} (h : Routing allows rt s art s') : s'.view = s.view :=
  h.atMostIssued.view_eq

/-- The planner hands the echo of the objective to the shell. -/
theorem Cycle.shellText_after (visits : Nat → Visit) (n : Nat) :
    ∀ node text, shellText (after rt visits (start fresh request) n).state node = some text →
      text = PlannerExecutor.commandText request.objective.val none := by
  intro node text htext
  have hsound := sound_after rt fresh request visits n
  have hform := inForm_after rt fresh request visits n
  generalize after rt visits (start fresh request) n = c at *
  unfold shellText at htext
  split at htext
  · have hobjective : c.state.objective = request.objective := hsound.same.objective
    rw [← Option.some.inj htext, ← hobjective]
    refine PlannerExecutor.builtText_of_no_candidate fun inbound hmem => ?_
    obtain ⟨a, hissued⟩ := hform.commands inbound (List.mem_of_mem_filter hmem)
    exact hissued.candidateCommand
  · contradiction

/-- **A smooth visit completes**: its agent returns, and reports so. -/
theorem Cycle.completes {node : AgentName} (hequipped : rt.Equipped)
    (hrange : c.state.stats.InRange) (haligned : blank c.state.objective.val = false)
    (hshell : ∀ text, shellText c.state node = some text → rt.Unblocked text)
    (hplan : ∃ plan, Orchestrator.plan? rt c.state = some plan)
    (hsmooth : ∀ ev ∈ (c.agentRun rt v node).trace, Smooth ev) :
    ∃ out, (c.agentRun rt v node).result = .ok out ∧
      out.view.reports = c.state.view.reports ++ [(node.name, .completed)] := by
  by_cases hnode : node = .orchestrator
  · subst hnode
    obtain ⟨plan, hplan⟩ := hplan
    obtain ⟨out, hrun, art, s', hrouting, hout⟩ :=
      (spec_run_orchestrator_calm (fun _ h => h) haligned hplan hrange).exists_ok
        fun ev hev => (hsmooth ev hev).toCalm
    exact ⟨out, hrun, hout.reports hrouting.view_eq⟩
  · have hbuilder : ∀ context, ContextOf node c.state context →
        Steady Smooth (fun _ => True) False c.state
          ((agentAt rt node).produceArtifacts context) AgentArtifacts.IssuesPending := by
      intro context hcontext
      have hreturns : Returns Smooth c.state ((agentAt rt node).produceArtifacts context) :=
        returns_specialist hnode (fun _ h => h.answered) (fun _ h => h.reading) hequipped
          hcontext hshell
      have hbuilt : Steady Smooth (fun _ => True) True c.state _ _ :=
        steady_specialist hnode hcontext (suits_any Smooth rt c.state node)
      refine Spec.mono (hreturns.and hbuilt) ?_ fun _ _ h => h.1
      exact fun _ _ h => ⟨h.1.1, h.2.2.2.issuesPending⟩
    obtain ⟨out, hrun, art, -, hout⟩ := (spec_run_completed (fun _ h => h.answered)
      (fun _ h => h.clockSane) haligned hbuilder fun _ h => h).exists_ok hsmooth
    exact ⟨out, hrun, hout.reports rfl⟩

end Completion

/-! ## one entry -/

theorem Specialist.name_eq (a : Specialist) : a.name = a.agent.name := by
  cases a <;> rfl

/-- An entry is admitted on the turn of its agent. -/
theorem Desk.turn_of_enter {d d' : Desk} {entry : Entry} (h : d.enter entry = some d') :
    d.turn = some entry.agent := by
  cases entry with
  | failed a => exact (show d.turn = some a ∧ _ = d' by simpa [enter] using h).1
  | worked a => exact (show d.turn = some a.agent ∧ _ = d' by simpa [enter] using h).1
  | dispatched a =>
      exact (show (d.turn = some .orchestrator ∧ _) ∧ _ = d' by simpa [enter] using h).1.1
  | finalized =>
      exact (show (d.turn = some .orchestrator ∧ _) ∧ _ = d' by simpa [enter] using h).1.1

/-- The entry that is made at a desk is known from its report. -/
theorem Desk.eq_of_enter {d d₁ d₂ : Desk} {e₁ e₂ : Entry} (h₁ : d.enter e₁ = some d₁)
    (h₂ : d.enter e₂ = some d₂) (hreport : e₁.report = e₂.report) : e₁ = e₂ := by
  have hagent : e₁.agent = e₂.agent :=
    Option.some.inj ((turn_of_enter h₁).symm.trans (turn_of_enter h₂))
  cases e₁ with
  | failed a =>
      cases e₂ with
      | failed b => exact congrArg Entry.failed hagent
      | worked b => simp [Entry.report] at hreport
      | dispatched b => simp [Entry.report] at hreport
      | finalized => simp [Entry.report] at hreport
  | worked a =>
      cases e₂ with
      | failed b => simp [Entry.report] at hreport
      | worked b => exact congrArg Entry.worked (Specialist.agent_injective hagent)
      | dispatched b => exact absurd hagent a.agent_ne_orchestrator
      | finalized => exact absurd hagent a.agent_ne_orchestrator
  | dispatched a =>
      cases e₂ with
      | failed b => simp [Entry.report] at hreport
      | worked b => exact absurd hagent.symm b.agent_ne_orchestrator
      | dispatched b =>
          have hhead : d.todo.head? = some (some a) ∧ d.todo.head? = some (some b) := by
            simp only [enter, Option.ite_none_right_eq_some] at h₁ h₂
            exact ⟨h₁.1.2, h₂.1.2⟩
          simpa [hhead.1] using hhead.2
      | finalized =>
          simp only [enter, Option.ite_none_right_eq_some] at h₁ h₂
          simp [h₂.1.2] at h₁
  | finalized =>
      cases e₂ with
      | failed b => simp [Entry.report] at hreport
      | worked b => exact absurd hagent.symm b.agent_ne_orchestrator
      | dispatched b =>
          simp only [enter, Option.ite_none_right_eq_some] at h₁ h₂
          simp [h₁.1.2] at h₂
      | finalized => rfl

namespace Reference

/-- The calls that recall memories. -/
def recalls : Call → Bool
  | .queryMemory _ => true
  | _ => false

/-- Telemetry of the reference world is plausible. -/
theorem prometheusValue_bounds (query : String) :
    0 ≤ prometheusValue query ∧ (query = "error_ratio" → prometheusValue query ≤ 1) := by
  constructor
  · unfold prometheusValue
    split_ifs <;> norm_num
  · rintro rfl
    decide +kernel

/-- A calm visit is smooth. -/
theorem smooth_visit (rt : Runtime) (c : Cycle) (node : AgentName) :
    ∀ ev ∈ (c.agentRun rt (visit fun _ => false) node).trace, Smooth ev := by
  intro ev hev
  refine ⟨calm_visit rt c node ev hev, ?_⟩
  rw [eq_of_mem_trace hev]
  rcases ev.op with site | _ | call
  · trivial
  · trivial
  · cases call with
    | prometheusQuery query => exact prometheusValue_bounds query.val
    | _ => trivial

end Reference

/-- The visit leads to the entry: nothing goes wrong where its agent completes,
and nothing is recalled where it fails. -/
structure Cycle.Leads (rt : Runtime) (v : Visit) (c : Cycle) (entry : Entry) : Prop where
  handsOver : c.HandsOver v
  smooth : entry.report.2 = .completed → c.Allows Smooth rt v
  recallFails : entry.report.2 = .failed →
    ∃ e, ∀ q, v.answers 1 (.call (.queryMemory q)) = .error e
  clockSane : c.Allows ClockSane rt v

section Entries

variable {rt : Runtime} {fresh : Fresh} {request : CycleRequest} {visits : Nat → Visit}
variable {c : Cycle} {v : Visit} {d₀ d : Desk} {journal : List Entry} {entry : Entry}

/-- The desk of a journaled cycle has the plan of the state. -/
theorem Journaled.exists_plan (h : Journaled rt d₀ journal d c) (hturn : d.turn.isSome)
    (hknown : d.Known) : ∃ plan, Orchestrator.plan? rt c.state = some plan := by
  obtain ⟨plan, hplan⟩ := hknown
  exact ⟨plan, Orchestrator.plan?_of_agenda ((h.stands hturn).agenda.trans hplan)⟩

/-- A visit that leads to an entry of the desk returns, and reports the entry. -/
theorem Journaled.reports {n : Nat}
    (h : Journaled rt d₀ journal d (Cycle.after rt visits (Cycle.start fresh request) n))
    (hfeasible : request.Feasible rt fresh) (hturn : d.turn = some entry.agent)
    (hknown : d.Known)
    (hcursor : (Cycle.after rt visits (Cycle.start fresh request) n).cursor = .at entry.agent)
    (hleads : (Cycle.after rt visits (Cycle.start fresh request) n).Leads rt v entry) :
    let c := Cycle.after rt visits (Cycle.start fresh request) n
    ∃ out, (c.agentRun rt v entry.agent).result = .ok out ∧
      out.view.reports = c.state.view.reports ++ [entry.report] := by
  intro c
  have hcompletes : entry.report.2 = .completed →
      ∃ out, (c.agentRun rt v entry.agent).result = .ok out ∧
        out.view.reports = c.state.view.reports ++ [(entry.agent.name, .completed)] := by
    intro hcompleted
    have hsound := Cycle.sound_after rt fresh request visits n
    refine Cycle.completes hfeasible.equipped hsound.inRange (hsound.aligned hfeasible.aligned)
      (fun text htext => ?_) (h.exists_plan (by rw [hturn]; rfl) hknown)
      (hleads.smooth hcompleted _ hcursor)
    rw [Cycle.shellText_after visits n entry.agent text htext]
    exact hfeasible.unblocked
  cases entry with
  | failed a =>
      obtain ⟨e, hquery⟩ := hleads.recallFails rfl
      have hfails : ∃ out, (c.agentRun rt v a).result = .ok out ∧ FailedWith rt a e c.state out :=
        failedWith_of_unavailable hquery (hleads.clockSane _ hcursor)
      obtain ⟨out, hrun, hfailed⟩ := hfails
      exact ⟨out, hrun, hfailed.failedAs.enters.reports⟩
  | worked a =>
      obtain ⟨out, hrun, hreports⟩ := hcompletes rfl
      exact ⟨out, hrun, by rw [hreports, Entry.report, a.name_eq, Entry.agent]⟩
  | dispatched a => exact hcompletes rfl
  | finalized => exact hcompletes rfl

/-- **A cycle follows its visits**: if each leads to the entry that is next in a
journal the desk admits, the cycle keeps that journal. -/
theorem Cycle.follows (hfeasible : request.Feasible rt fresh)
    (h : (Desk.opening rt (buildGraphState fresh request)).replay journal = some d)
    (hleads : ∀ n (hn : n < journal.length),
      (after rt visits (start fresh request) n).Leads rt (visits n) journal[n]) :
    let c := after rt visits (start fresh request) journal.length
    Journaled rt (Desk.opening rt (buildGraphState fresh request)) journal d c ∧
      AtDesk journal d c := by
  -- after `n` steps the first `n` entries are made, and the desk admits the rest
  have hfirst : ∀ n ≤ journal.length, ∃ dₙ,
      Journaled rt (Desk.opening rt (buildGraphState fresh request)) (journal.take n) dₙ
        (after rt visits (start fresh request) n) ∧
      AtDesk (journal.take n) dₙ (after rt visits (start fresh request) n) ∧
      dₙ.Known ∧ dₙ.replay (journal.drop n) = some d := by
    intro n
    induction n with
    | zero =>
        intro _
        obtain ⟨hjournaled, hat⟩ := journaled_start rt fresh hfeasible.unrouted
        exact ⟨_, hjournaled, hat, hfeasible.planned, h⟩
    | succ n ih =>
        intro hn
        obtain ⟨dₙ, hjournaled, hat, hknown, hrest⟩ := ih (Nat.le_of_succ_le hn)
        rw [List.drop_eq_getElem_cons hn, Desk.replay_cons, Option.bind_eq_some_iff] at hrest
        obtain ⟨d', henter, hrest⟩ := hrest
        have hturn := Desk.turn_of_enter henter
        have hcursor : (after rt visits (start fresh request) n).cursor =
            .at journal[n].agent := by rw [hat.cursor, Desk.cursor, hturn]
        obtain ⟨out, hrun, hreports⟩ :=
          hjournaled.reports hfeasible hturn hknown hcursor (hleads n hn)
        obtain ⟨entry, d'', henters, henter', hjournaled', hat'⟩ :=
          hjournaled.visited hat hturn hrun
        obtain rfl : entry = journal[n] := by
          refine Desk.eq_of_enter henter' henter ?_
          rw [henters.reports] at hreports
          exact List.singleton_injective (List.append_cancel_left hreports)
        obtain rfl : d' = d'' := Option.some.inj (henter.symm.trans henter')
        have hstep : after rt visits (start fresh request) (n + 1) =
            (after rt visits (start fresh request) n).continued journal[n].agent out :=
          step_of_ok hcursor (sound_after rt fresh request visits n).inRange
            (hleads n hn).handsOver hrun
        rw [hstep, ← List.take_concat_get' journal n hn]
        exact ⟨d', hjournaled', hat', hknown.enter henter, hrest⟩
  obtain ⟨dₙ, hjournaled, hat, -, hrest⟩ := hfirst journal.length (Nat.le_refl _)
  rw [List.drop_length, Desk.replay_nil, Option.some.injEq] at hrest
  rw [List.take_length] at hjournaled hat
  rw [← hrest]
  exact ⟨hjournaled, hat⟩

/-! ## visits for every journal -/

/-- A visit that leads to the entry: without recall where the agent is to fail,
and calm where it is not. -/
def Entry.visit : Entry → Visit
  | .failed _ => Reference.visit Reference.recalls
  | .worked _ | .dispatched _ | .finalized => Reference.visit fun _ => false

theorem Entry.still_visit (entry : Entry) : Reference.Still entry.visit := by
  cases entry <;> exact Reference.still_visit _

theorem Entry.leads (entry : Entry) (hover : c.HandsOver entry.visit) :
    c.Leads rt entry.visit entry := by
  cases entry with
  | failed a =>
      exact ⟨hover, fun h => by contradiction, fun _ => ⟨_, fun q => rfl⟩,
        fun node _ => Reference.clockSane_visit rt Reference.recalls c node⟩
  | worked a | dispatched a | finalized =>
      exact ⟨hover, fun _ node _ => Reference.smooth_visit rt c node, fun h => by contradiction,
        fun node _ => Reference.clockSane_visit rt _ c node⟩

/-- The visits that lead to the entries of a journal, and calm ones afterwards. -/
def visitsOf (journal : List Entry) (n : Nat) : Visit :=
  (journal[n]?.map Entry.visit).getD (Reference.visit fun _ => false)

theorem still_visitsOf (journal : List Entry) (n : Nat) : Reference.Still (visitsOf journal n) := by
  unfold visitsOf
  cases journal[n]? with
  | none => exact Reference.still_visit _
  | some entry => exact entry.still_visit

/-- Every journal the desk admits is kept by a cycle. -/
theorem Cycle.realizes (hfeasible : request.Feasible rt fresh)
    (h : (Desk.opening rt (buildGraphState fresh request)).replay journal = some d) :
    let c := after rt (visitsOf journal) (start fresh request) journal.length
    Journaled rt (Desk.opening rt (buildGraphState fresh request)) journal d c ∧
      AtDesk journal d c := by
  refine follows hfeasible h fun n hn => ?_
  have hvisit : visitsOf journal n = journal[n].visit := by
    simp [visitsOf, List.getElem?_eq_getElem hn]
  have hover : (after rt (visitsOf journal) (start fresh request) n).HandsOver
      (visitsOf journal n) := Reference.handsOver_of_still (still_visitsOf journal) n
  rw [hvisit] at hover ⊢
  exact journal[n].leads hover

end Entries

/-! ## what cycles can show -/

/-- An entry is known from its report and what is decided from there on. -/
theorem Entry.eq_of_shown {e₁ e₂ : Entry} {rest₁ rest₂ : List AgentDecision}
    (hreport : e₁.report = e₂.report)
    (hdecisions : e₁.decisions ++ rest₁ = e₂.decisions ++ rest₂) : e₁ = e₂ := by
  have hstatus : e₁.report.2 = e₂.report.2 := congrArg Prod.snd hreport
  have hagent : e₁.agent = e₂.agent := by
    refine AgentName.name_injective ?_
    have hname : ∀ e : Entry, e.report.1 = e.agent.name := fun e => by
      cases e <;> simp [report, agent, Specialist.name_eq]
    rw [← hname, ← hname, hreport]
  cases e₁ with
  | failed a =>
      cases e₂ with
      | failed b => exact congrArg failed hagent
      | worked b => contradiction
      | dispatched b => contradiction
      | finalized => contradiction
  | worked a =>
      cases e₂ with
      | failed b => contradiction
      | worked b => exact congrArg worked (Specialist.agent_injective hagent)
      | dispatched b => exact absurd hagent a.agent_ne_orchestrator
      | finalized => exact absurd hagent a.agent_ne_orchestrator
  | dispatched a =>
      cases e₂ with
      | failed b => contradiction
      | worked b => exact absurd hagent.symm b.agent_ne_orchestrator
      | dispatched b =>
          exact congrArg dispatched (Specialist.decision_injective (List.cons.inj hdecisions).1)
      | finalized => exact absurd (List.cons.inj hdecisions).1 a.decision_ne_finalize
  | finalized =>
      cases e₂ with
      | failed b => contradiction
      | worked b => exact absurd hagent.symm b.agent_ne_orchestrator
      | dispatched b => exact absurd (List.cons.inj hdecisions).1.symm b.decision_ne_finalize
      | finalized => rfl

/-- A journal is known from the histories it amounts to. -/
theorem View.of_injective {j₁ j₂ : List Entry} (h : View.of j₁ = View.of j₂) : j₁ = j₂ := by
  have hreports : j₁.map Entry.report = j₂.map Entry.report := congrArg View.reports h
  have hdecisions : j₁.flatMap Entry.decisions = j₂.flatMap Entry.decisions :=
    congrArg View.decisions h
  clear h
  induction j₁ generalizing j₂ with
  | nil => simpa using hreports.symm
  | cons e₁ j₁ ih =>
      cases j₂ with
      | nil => contradiction
      | cons e₂ j₂ =>
          obtain ⟨hreport, hrest⟩ := List.cons.inj hreports
          obtain rfl := Entry.eq_of_shown hreport hdecisions
          rw [ih hrest (List.append_cancel_left hdecisions)]

/-- **The desk is exact.**  Every cycle of a feasible request keeps a journal that
its desk admits, in every run, and the histories its cycles can show, over all
runs, are those of the journals its desk admits. -/
theorem Cycle.shows_iff (rt : Runtime) (fresh : Fresh) (request : CycleRequest)
    (hfeasible : request.Feasible rt fresh) :
    (∀ visits n, ∃ journal d, Journaled rt (Desk.opening rt (buildGraphState fresh request))
      journal d (after rt visits (start fresh request) n)) ∧
    ∀ journal,
      (∃ visits n, (after rt visits (start fresh request) n).state.view = View.of journal) ↔
        ((Desk.opening rt (buildGraphState fresh request)).replay journal).isSome := by
  have hkeeps : ∀ visits n, ∃ journal d, Journaled rt
      (Desk.opening rt (buildGraphState fresh request)) journal d
      (after rt visits (start fresh request) n) :=
    fun visits n => journaled_after rt fresh visits n hfeasible.unrouted
  refine ⟨hkeeps, fun journal => ⟨?_, ?_⟩⟩
  · intro h
    obtain ⟨visits, n, hview⟩ := h
    obtain ⟨kept, d, hkept⟩ := hkeeps visits n
    obtain rfl : kept = journal := View.of_injective (hkept.view.symm.trans hview)
    rw [hkept.admitted]
    rfl
  · intro h
    obtain ⟨d, hadmitted⟩ := Option.isSome_iff_exists.mp h
    exact ⟨_, _, (realizes hfeasible hadmitted).1.view⟩

namespace Reference

/-- The reference runtime is equipped. -/
theorem equipped : runtime.Equipped where
  allowed a := by cases a <;> decide
  named := by decide
  contained := by decide

theorem feasible_monitorRequest : monitorRequest.Feasible runtime fresh where
  equipped := equipped
  aligned := by decide
  unblocked := by decide +kernel
  unrouted := rfl
  planned := ⟨[.monitor], rfl⟩

/-- The orchestrator fails once, and the monitor comes a second time. -/
def retried : List Entry :=
  [.dispatched .monitor, .worked .monitor, .failed .orchestrator, .worked .monitor, .finalized]

end Reference

/-- A cycle in which a specialist works twice for one dispatch, and the journal it
keeps after three visits. -/
theorem Cycle.shows_iff_retried :
    ((Desk.opening Reference.runtime
      (buildGraphState Reference.fresh Reference.monitorRequest)).replay
        Reference.retried).isSome ∧
    (∃ visits n, (after Reference.runtime visits
      (start Reference.fresh Reference.monitorRequest) n).state.view =
        View.of Reference.retried) ∧
    ∃ journal d, Journaled Reference.runtime
      (Desk.opening Reference.runtime (buildGraphState Reference.fresh Reference.monitorRequest))
      journal d (after Reference.runtime (visitsOf Reference.retried)
        (start Reference.fresh Reference.monitorRequest) 3) := by
  have hadmitted : ((Desk.opening Reference.runtime (buildGraphState Reference.fresh
      Reference.monitorRequest)).replay Reference.retried).isSome := by decide
  obtain ⟨hkeeps, hshows⟩ := shows_iff Reference.runtime Reference.fresh Reference.monitorRequest
    Reference.feasible_monitorRequest
  exact ⟨hadmitted, (hshows Reference.retried).mpr hadmitted, hkeeps _ 3⟩

end Gestalt
