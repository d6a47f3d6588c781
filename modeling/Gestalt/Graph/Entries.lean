import Gestalt.Agents.Forms
import Gestalt.Graph.Enablement

/-!
# Gestalt.Graph.Entries

What one visit enters into the state.

An invocation either fails, and leaves nothing but the report of its failure, or
it enters all that its agent produces at once.  So what a visit does to the
histories of the state is told by an `Entry`: who worked, and whom the
orchestrator dispatched.
-/

namespace Gestalt

open Effects Program

/-! ## entries -/

/-- What a visit enters. -/
inductive Entry where
  | failed (a : AgentName)
  | worked (a : Specialist)
  | dispatched (a : Specialist)
  | finalized
  deriving DecidableEq, Repr

namespace Entry

/-- The agent whose visit it was. -/
def agent : Entry → AgentName
  | failed a => a
  | worked a => a.agent
  | dispatched _ | finalized => .orchestrator

/-- The agent and the status of the report. -/
def report : Entry → String × CommandStatus
  | failed a => (a.name, .failed)
  | worked a => (a.name, .completed)
  | dispatched _ | finalized => (AgentName.orchestrator.name, .completed)

/-- The decisions of the orchestrator. -/
def decisions : Entry → List AgentDecision
  | dispatched a => [a.decision]
  | finalized => [.finalize]
  | failed _ | worked _ => []

/-- The headers of the messages. -/
def headers : Entry → List Header
  | failed _ => []
  | worked a => a.agent.opening
  | dispatched a => AgentName.orchestrator.opening ++ [⟨.orchestrator, "orchestrator", a.name⟩]
  | finalized => AgentName.orchestrator.opening

/-- The kind and the title of the memory. -/
def notes : Entry → List (MemoryKind × String)
  | worked a => a.agent.note.toList
  | failed _ | dispatched _ | finalized => []

end Entry

/-! ## views -/

/-- What the entries tell of a state: its histories without their contents. -/
@[ext]
structure View where
  reports : List (String × CommandStatus)
  decisions : List AgentDecision
  headers : List Header
  notes : List (MemoryKind × String)
  audits : Nat
  proposals : Nat
  deriving DecidableEq, Repr

/-- The view of a state. -/
def GestaltGraphState.view (s : GestaltGraphState) : View where
  reports := s.executionReports.map fun report => (report.agentName.val, report.status)
  decisions := s.decisions
  headers := s.messages.map GestaltMessage.header
  notes := s.memories.map fun memory => (memory.memoryKind, memory.title.val)
  audits := s.auditReports.length
  proposals := s.optimizationProposals.length

/-- The view the entries of a journal amount to. -/
def View.of (journal : List Entry) : View where
  reports := journal.map Entry.report
  decisions := journal.flatMap Entry.decisions
  headers := journal.flatMap Entry.headers
  notes := journal.flatMap Entry.notes
  audits := journal.count (.worked .securityAudit)
  proposals := journal.count (.worked .optimizer)

/-- The state one visit enters `entry` into. -/
structure Enters (s : GestaltGraphState) (entry : Entry) (out : GestaltGraphState) : Prop where
  reports : out.view.reports = s.view.reports ++ [entry.report]
  decisions : out.view.decisions = s.view.decisions ++ entry.decisions
  headers : out.view.headers = s.view.headers ++ entry.headers
  notes : out.view.notes = s.view.notes ++ entry.notes
  audits : out.view.audits = s.view.audits + [entry].count (.worked .securityAudit)
  proposals : out.view.proposals = s.view.proposals + [entry].count (.worked .optimizer)

/-- An entry extends the journal a state shows. -/
theorem Enters.view {s out : GestaltGraphState} {entry : Entry} {journal : List Entry}
    (h : Enters s entry out) (hs : s.view = View.of journal) :
    out.view = View.of (journal ++ [entry]) := by
  have hreports := h.reports
  have hdecisions := h.decisions
  have hheaders := h.headers
  have hnotes := h.notes
  have haudits := h.audits
  have hproposals := h.proposals
  rw [hs] at hreports hdecisions hheaders hnotes haudits hproposals
  ext1
  · simp [hreports, View.of]
  · simp [hdecisions, View.of]
  · simp [hheaders, View.of]
  · simp [hnotes, View.of]
  · rw [haudits]
    exact List.count_append.symm
  · rw [hproposals]
    exact List.count_append.symm

/-! ## invocations -/

/-- The state an invocation returns that completed with the artifacts. -/
def FormedAs (a : AgentName) (s : GestaltGraphState) (art : AgentArtifacts)
    (out : GestaltGraphState) : Prop :=
  ∃ messages report, messages.map GestaltMessage.header = a.opening ∧
    ReportOf a .completed art s report ∧
    out = applyStateUpdate s (messages ++ art.messages) art report

/-- One invocation, with the messages it opens with. -/
theorem spec_run_formed {rt : Runtime} {node : AgentName} {s : GestaltGraphState}
    (reached : GestaltGraphState → Prop) (done : AgentArtifacts → GestaltGraphState → Prop)
    (hreached : reached s) (hdone : ∀ art s', done art s' → reached s' ∧ art.IssuesPending)
    (hbuilder : ∀ context, ContextOf node s context →
      Spec (fun _ => True) (fun _ => True) s ((agentAt rt node).produceArtifacts context) done
        fun _ s' => reached s') :
    Spec (fun _ => True) (fun _ => True) s (run rt (agentAt rt node))
      (fun out s' => (∃ art, done art s' ∧ FormedAs node s' art out) ∨
        (reached s' ∧ FailedAs rt node s' out)) fun _ _ => True := by
  have hraise : True → ∀ _ : Exc, True := fun _ _ => trivial
  have hkept : True → ∀ _ : Exc, reached s := fun _ _ => hreached
  have hstarted : Steady (fun _ => True) (fun _ => True) True s (utcNow .started) fun _ => True :=
    (steady_utcNow _).mono fun _ _ => trivial
  refine hstarted.spec_bind hraise fun startedAt _ => ?_
  refine spec_tryCatch (fun _ s' => reached s') ?_ ?_
  · rw [lifecycle, agentAt_name]
    refine Steady.spec_bind (steady_prepareContext fun _ _ _ => trivial) hkept
      fun context hcontext => ?_
    refine Steady.spec_bind (steady_runAlignmentChecks hcontext fun _ => trivial) hkept
      fun _ _ => ?_
    refine Steady.spec_bind yields_buildInputMessages hkept fun messages hmessages => ?_
    refine Program.spec_bind (hbuilder context hcontext) fun art s' hart => ?_
    obtain ⟨hreached', hpending⟩ := hdone art s' hart
    have hraised : True → ∀ _ : Exc, reached s' := fun _ _ => hreached'
    have hpersisted : Yields s' (persistOutputs art) fun _ => True :=
      steady_persistOutputs (covers_true _) hpending
    refine hpersisted.spec_bind hraised fun _ _ => ?_
    refine Steady.spec_bind (steady_buildExecutionReport fun _ _ => Or.inr trivial) hraised
      fun report hreport => ?_
    refine spec_read_bind (spec_pure (Or.inl ⟨art, hart, messages, report, hmessages, ?_, rfl⟩))
    exact hreport.1
  · intro e s' hraised
    refine Spec.mono (spec_recover trivial (fun _ _ => Or.inr trivial) e) ?_ fun _ _ _ => trivial
    intro out s'' hpost
    obtain ⟨rfl, hfailed, -⟩ := hpost
    exact Or.inr ⟨hraised, agentAt_name rt node ▸ hfailed.failedAs⟩

/-- How a visit to a state comes to its entry. -/
inductive Produces (rt : Runtime) (s : GestaltGraphState) : Entry → GestaltGraphState → Prop where
  | failed {a : AgentName} {s' out : GestaltGraphState}
      (left : AtMostIssued (fun _ => True) rt s s') (update : FailedAs rt a s' out) :
      Produces rt s (.failed a) out
  | worked {a : Specialist} {art : AgentArtifacts} {out : GestaltGraphState}
      (artifacts : SpecialistArtifacts rt a.agent s art) (formed : Formed rt a.agent art)
      (update : FormedAs a.agent s art out) : Produces rt s (.worked a) out
  | dispatched {a : Specialist} {next : Value} {rest : List Value} {approval : EventApproval}
      {art : AgentArtifacts} {out : GestaltGraphState}
      (pending : Orchestrator.pendingAgents rt s = some (next :: rest))
      (dispatches : Dispatches s next rest a art) (formed : Formed rt .orchestrator art)
      (announces : art.messages.map GestaltMessage.header =
        [⟨.orchestrator, "orchestrator", a.name⟩])
      (update : FormedAs .orchestrator (s.withApproval approval) art out) :
      Produces rt s (.dispatched a) out
  | finalized {art : AgentArtifacts} {out : GestaltGraphState}
      (pending : Orchestrator.pendingAgents rt s = some []) (finalizes : Finalizes s art)
      (formed : Formed rt .orchestrator art) (silent : art.messages = [])
      (update : FormedAs .orchestrator s art out) : Produces rt s .finalized out

/-- A visit issues commands in the form of its agent. -/
theorem Produces.commands {rt : Runtime} {s out : GestaltGraphState} {entry : Entry}
    (h : Produces rt s entry out) : ∃ commands, out.commands = s.commands ++ commands ∧
      ∀ command ∈ commands, IssuedBy rt entry.agent command := by
  cases h with
  | failed left update =>
      obtain ⟨e, report, -, rfl⟩ := update
      refine ⟨[], ?_, by simp⟩
      rcases left with rfl | ⟨approval, -, rfl⟩ <;>
        simp [applyStateUpdate, failureArtifacts, GestaltGraphState.withApproval]
  | worked _ formed update =>
      obtain ⟨messages, report, -, -, rfl⟩ := update
      exact ⟨_, rfl, formed.commands⟩
  | dispatched _ _ formed _ update =>
      obtain ⟨messages, report, -, -, rfl⟩ := update
      exact ⟨_, rfl, formed.commands⟩
  | finalized _ _ formed _ update =>
      obtain ⟨messages, report, -, -, rfl⟩ := update
      exact ⟨_, rfl, formed.commands⟩

theorem Formed.issuesPending {rt : Runtime} {a : AgentName} {art : AgentArtifacts}
    (h : Formed rt a art) : art.IssuesPending :=
  fun command hmem => (h.commands command hmem).pending

theorem Specialist.exists_agent {node : AgentName} (h : node ≠ .orchestrator) :
    ∃ a : Specialist, a.agent = node := by
  cases node with
  | orchestrator => contradiction
  | monitor => exact ⟨.monitor, rfl⟩
  | analyzer => exact ⟨.analyzer, rfl⟩
  | plannerExecutor => exact ⟨.plannerExecutor, rfl⟩
  | optimizer => exact ⟨.optimizer, rfl⟩
  | knowledge => exact ⟨.knowledge, rfl⟩
  | securityAudit => exact ⟨.securityAudit, rfl⟩

theorem AgentName.name_injective {a b : AgentName} (h : a.name = b.name) : a = b := by
  cases a <;> cases b <;> first | rfl | exact absurd h (by decide)

/-- A specialist works or fails. -/
theorem spec_works (rt : Runtime) (a : Specialist) (s : GestaltGraphState) :
    Spec (fun _ => True) (fun _ => True) s (run rt (agentAt rt a.agent))
      (fun out _ => ∃ entry : Entry, entry.agent = a.agent ∧ Produces rt s entry out)
      fun _ _ => True := by
  refine Spec.mono (spec_run_formed (· = s)
    (fun art s' => s' = s ∧ SpecialistArtifacts rt a.agent s art ∧ Formed rt a.agent art)
    rfl ?_ ?_) ?_ fun _ _ h => h
  · intro art s' hpost
    obtain ⟨hkept, -, hformed⟩ := hpost
    exact ⟨hkept, hformed.issuesPending⟩
  · intro context hcontext
    have hbuilt : Steady (fun _ => True) (fun _ => True) True s _ _ :=
      steady_specialist a.agent_ne_orchestrator hcontext (suits_any _ rt s a.agent)
    refine Spec.mono (hbuilt.and (spec_formed rt a.agent context s)) ?_ fun _ _ h => h.1.1
    intro art s' hpost
    obtain ⟨⟨hkept, hart, -⟩, hformed⟩ := hpost
    exact ⟨hkept, hart, hformed⟩
  · intro out s' hpost
    obtain ⟨art, ⟨rfl, hart, hformed⟩, hout⟩ | ⟨rfl, hout⟩ := hpost
    · exact ⟨.worked a, rfl, .worked hart hformed hout⟩
    · exact ⟨.failed a.agent, rfl, .failed (Or.inl rfl) hout⟩

/-- The orchestrator dispatches, finalizes or fails. -/
theorem spec_routes (rt : Runtime) (s : GestaltGraphState) :
    Spec (fun _ => True) (fun _ => True) s (run rt (agentAt rt .orchestrator))
      (fun out _ => ∃ entry : Entry, entry.agent = .orchestrator ∧ Produces rt s entry out)
      fun _ _ => True := by
  refine Spec.mono (spec_run_formed (AtMostIssued (fun _ => True) rt s)
    (fun art s' => Routing (fun _ => True) rt s art s' ∧ Formed rt .orchestrator art ∧
      Announced art) (Or.inl rfl) ?_ ?_) ?_ fun _ _ h => h
  · intro art s' hpost
    obtain ⟨hrouting, hformed, -⟩ := hpost
    exact ⟨hrouting.atMostIssued, hformed.issuesPending⟩
  · intro context _
    have hrouted : Spec (fun _ => True) (fun _ => True) s
        (Orchestrator.produceArtifacts rt context) _ _ :=
      Orchestrator.spec_produceArtifacts (covers_true _) (fun _ _ _ => Or.inr trivial)
        ((suits_any _ rt s .orchestrator).approvals rfl) (Or.inr trivial) (Or.inr trivial)
    refine Spec.mono (hrouted.and Orchestrator.spec_announced) ?_ fun _ _ h => h.1.1.1
    intro art s' hpost
    obtain ⟨⟨hrouting, -⟩, hformed, hannounced⟩ := hpost
    exact ⟨hrouting, hformed, hannounced⟩
  · intro out s' hpost
    obtain ⟨art, ⟨hrouting, hformed, hannounced⟩, hout⟩ | ⟨hleft, hout⟩ := hpost
    · cases hrouting with
      | @dispatch next rest a approval _ pending _ dispatches =>
          obtain ⟨b, hdecisions, hheaders⟩ | ⟨hdecisions, -⟩ := hannounced
          · have hsame : a.decision = b.decision := by
              simpa [dispatches.decisions] using hdecisions
            obtain rfl : a = b := Specialist.decision_injective hsame
            exact ⟨.dispatched a, rfl, .dispatched pending dispatches hformed hheaders hout⟩
          · rw [dispatches.decisions] at hdecisions
            exact absurd hdecisions (by cases a <;> decide)
      | finalize pending finalizes =>
          obtain ⟨b, hdecisions, -⟩ | ⟨-, hsilent⟩ := hannounced
          · rw [finalizes.decisions] at hdecisions
            exact absurd hdecisions (by cases b <;> decide)
          · exact ⟨.finalized, rfl, .finalized pending finalizes hformed hsilent hout⟩
    · exact ⟨.failed .orchestrator, rfl, .failed hleft hout⟩

/-- **Every visit that returns has its entry.** -/
theorem spec_produces (rt : Runtime) (node : AgentName) (s : GestaltGraphState) :
    Spec (fun _ => True) (fun _ => True) s (run rt (agentAt rt node))
      (fun out _ => ∃ entry : Entry, entry.agent = node ∧ Produces rt s entry out)
      fun _ _ => True := by
  by_cases hnode : node = .orchestrator
  · rw [hnode]
    exact spec_routes rt s
  · obtain ⟨a, rfl⟩ := Specialist.exists_agent hnode
    exact spec_works rt a s

/-! ## what the entries show -/

section Produced

variable {rt : Runtime} {a : AgentName} {s s' out : GestaltGraphState} {art : AgentArtifacts}
variable {entry : Entry}

/-- An update with artifacts in form enters them. -/
theorem FormedAs.enters (hout : FormedAs a s art out) (hformed : Formed rt a art)
    (hagent : entry.report = (a.name, .completed)) (hdecisions : art.decisions = entry.decisions)
    (hheaders : a.opening ++ art.messages.map GestaltMessage.header = entry.headers)
    (hnotes : a.note.toList = entry.notes)
    (hworked : ∀ b : Specialist, .worked b = entry ↔ b.agent = a) :
    Enters s entry out := by
  obtain ⟨messages, report, hopening, hreport, rfl⟩ := hout
  have hmemories : art.memories.map (fun memory => (memory.memoryKind, memory.title.val)) =
      entry.notes := by
    rw [← hnotes]
    have happended := hformed.memories
    cases hnote : a.note with
    | none =>
        rw [hnote] at happended
        simpa [Appended] using happended
    | some note =>
        rw [hnote] at happended
        obtain ⟨memory, hmemory, hnoted⟩ : ∃ memory, art.memories = [memory] ∧ _ := happended
        have hsame : some note = some (memory.memoryKind, memory.title.val) := by
          rw [← hnote]
          exact hnoted.note
        simp [hmemory, Option.some.inj hsame]
  have haudits : art.auditReport.toList.length = [entry].count (.worked .securityAudit) := by
    rw [List.count_singleton, Option.length_toList]
    have haudit := hformed.audit
    by_cases ha : a = .securityAudit
    · simp [(hworked .securityAudit).mpr ha.symm, haudit.mpr ha]
    · have hnone : art.auditReport = none := by simpa [ha] using haudit
      have hother := mt (hworked .securityAudit).mp fun h => ha h.symm
      simp [hnone, Ne.symm hother]
  have hproposals : art.optimizationProposals.length = [entry].count (.worked .optimizer) := by
    rw [hformed.proposals.length_eq, List.count_singleton]
    by_cases ha : a = .optimizer
    · simp [(hworked .optimizer).mpr ha.symm, ha]
    · have hother := mt (hworked .optimizer).mp fun h => ha h.symm
      simp [ha, Ne.symm hother]
  constructor
  · simp [GestaltGraphState.view, applyStateUpdate, hreport.agentName, hreport.status_eq, hagent,
      AgentName.field]
  · simp [GestaltGraphState.view, applyStateUpdate, hdecisions]
  · simp [GestaltGraphState.view, applyStateUpdate, hopening, ← hheaders]
  · simp [GestaltGraphState.view, applyStateUpdate, hmemories]
  · simp [GestaltGraphState.view, applyStateUpdate, haudits]
  · simp [GestaltGraphState.view, applyStateUpdate, hproposals]

/-- A failure enters its report, and nothing else. -/
theorem FailedAs.enters (hout : FailedAs rt a s out) : Enters s (.failed a) out := by
  obtain ⟨e, report, hreport, rfl⟩ := hout
  constructor <;>
    simp [GestaltGraphState.view, applyStateUpdate, failureArtifacts, Entry.report,
      Entry.decisions, Entry.headers, Entry.notes, hreport.agentName, hreport.status_eq,
      AgentName.field]

theorem Enters.of_view_eq (h : Enters s' entry out) (hview : s'.view = s.view) :
    Enters s entry out := by
  obtain ⟨hreports, hdecisions, hheaders, hnotes, haudits, hproposals⟩ := h
  rw [hview] at hreports hdecisions hheaders hnotes haudits hproposals
  exact ⟨hreports, hdecisions, hheaders, hnotes, haudits, hproposals⟩

theorem AtMostIssued.view_eq {allows : Event Services → Prop} (h : AtMostIssued allows rt s s') :
    s'.view = s.view := by
  rcases h with rfl | ⟨approval, -, rfl⟩ <;> rfl

/-- **What a visit enters is what its entry shows.** -/
theorem Produces.enters (h : Produces rt s entry out) : Enters s entry out := by
  cases h with
  | failed left update => exact update.enters.of_view_eq left.view_eq
  | @worked b art out artifacts formed update =>
      refine update.enters formed rfl artifacts.decisions ?_ rfl fun c => ?_
      · simp [artifacts.messages, Entry.headers]
      · cases b <;> cases c <;> decide
  | @dispatched b next rest approval art out pending dispatches formed announces update =>
      have hentered : Enters (s.withApproval approval) (.dispatched b) out := by
        refine update.enters formed rfl dispatches.decisions ?_ rfl fun c => ?_
        · rw [announces, Entry.headers]
        · simpa using c.agent_ne_orchestrator
      exact hentered.of_view_eq rfl
  | finalized pending finalizes formed silent update =>
      refine update.enters formed rfl finalizes.decisions ?_ rfl fun c => ?_
      · simp [silent, Entry.headers]
      · simpa using c.agent_ne_orchestrator

end Produced

end Gestalt
