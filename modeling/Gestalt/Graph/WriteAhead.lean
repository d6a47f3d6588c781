import Gestalt.Graph.Conduct
import Gestalt.Graph.Lifecycle

/-!
# Gestalt.Graph.WriteAhead

The records a cycle holds and those in the blackboard.

An invocation writes its artifacts before it merges them, and nothing undoes a
write.  So among any number of cycles that share a blackboard, what the state of
one of them holds is there, in order; and what is there and not held is left over
from an invocation that failed.  Until one does, the blackboard alone tells the
records and the statistics of every cycle.
-/

namespace Gestalt

open Effects Program

/-! ## tables -/

/-- The trace id of the row. -/
def Row.traceId : Row → Uuid
  | .memory written => written.traceId
  | .command written => written.traceId
  | .statsReport written => written.traceId
  | .auditReport written => written.traceId
  | .proposal written => written.traceId

/-- Traced artifacts are traced rows. -/
theorem AgentArtifacts.Traced.rows {t : Uuid} {art : AgentArtifacts} (h : art.Traced t) :
    ∀ row ∈ art.rows, row.traceId = t := by
  intro row hrow
  simp only [AgentArtifacts.rows, List.mem_append, List.mem_map, Option.mem_toList] at hrow
  rcases hrow with ⟨memory, hmem, rfl⟩ | ⟨command, hmem, rfl⟩ | ⟨report, hmem, rfl⟩ |
    ⟨report, hmem, rfl⟩ | ⟨proposal, hmem, rfl⟩
  · exact h.memories memory hmem
  · exact h.commands command hmem
  · exact h.stats report hmem
  · exact (h.audit report hmem).traceId
  · exact h.proposals proposal hmem

/-- Records of the kinds that a state keeps. -/
@[ext]
structure Tables where
  memories : List BlackboardMemoryRecord
  commands : List GestaltCommand
  auditReports : List GestaltAuditReport
  proposals : List OptimizationProposal

namespace Tables

/-- The records in the rows. -/
def of (rows : List Row) : Tables where
  memories := rows.filterMap fun
    | .memory record => some record
    | _ => none
  commands := Blackboard.commandRows rows
  auditReports := Blackboard.auditRows rows
  proposals := rows.filterMap fun
    | .proposal proposal => some proposal
    | _ => none

/-- The stats reports in the rows. -/
def statsReports (rows : List Row) : List GestaltStatsReport :=
  rows.filterMap fun
    | .statsReport report => some report
    | _ => none

/-- The records of the one and then those of the other. -/
def append (a b : Tables) : Tables where
  memories := a.memories ++ b.memories
  commands := a.commands ++ b.commands
  auditReports := a.auditReports ++ b.auditReports
  proposals := a.proposals ++ b.proposals

/-- The records of `a` are among those of `b`, in the same order. -/
structure Within (a b : Tables) : Prop where
  memories : a.memories.Sublist b.memories
  commands : a.commands.Sublist b.commands
  auditReports : a.auditReports.Sublist b.auditReports
  proposals : a.proposals.Sublist b.proposals

@[simp] theorem of_nil : of [] = ⟨[], [], [], []⟩ := rfl

theorem of_append (rows rows' : List Row) : of (rows ++ rows') = (of rows).append (of rows') := by
  ext1 <;> simp [of, append, Blackboard.commandRows, Blackboard.auditRows]

@[simp] theorem append_nil (a : Tables) : a.append ⟨[], [], [], []⟩ = a := by
  ext1 <;> simp [append]

/-- The artifacts as they are written. -/
theorem of_rows (art : AgentArtifacts) :
    of art.rows =
      ⟨art.memories, art.commands, art.auditReport.toList, art.optimizationProposals⟩ := by
  ext1 <;>
    simp [of, AgentArtifacts.rows, Blackboard.commandRows, Blackboard.auditRows,
      List.filterMap_map]

theorem statsReports_append (rows rows' : List Row) :
    statsReports (rows ++ rows') = statsReports rows ++ statsReports rows' :=
  List.filterMap_append

theorem statsReports_rows (art : AgentArtifacts) :
    statsReports art.rows = art.statsReport.toList := by
  simp [statsReports, AgentArtifacts.rows, List.filterMap_map]

variable {a b : Tables}

theorem Within.refl (a : Tables) : a.Within a :=
  ⟨List.Sublist.refl _, List.Sublist.refl _, List.Sublist.refl _, List.Sublist.refl _⟩

/-- More rows hold what was there. -/
theorem Within.append_right (h : a.Within b) (c : Tables) : a.Within (b.append c) where
  memories := h.memories.trans (List.sublist_append_left _ _)
  commands := h.commands.trans (List.sublist_append_left _ _)
  auditReports := h.auditReports.trans (List.sublist_append_left _ _)
  proposals := h.proposals.trans (List.sublist_append_left _ _)

/-- What is added on both sides keeps its place. -/
theorem Within.append (h : a.Within b) (c : Tables) : (a.append c).Within (b.append c) where
  memories := h.memories.append (List.Sublist.refl _)
  commands := h.commands.append (List.Sublist.refl _)
  auditReports := h.auditReports.append (List.Sublist.refl _)
  proposals := h.proposals.append (List.Sublist.refl _)

end Tables

/-- The records a state holds. -/
def GestaltGraphState.held (s : GestaltGraphState) : Tables where
  memories := s.memories
  commands := s.commands
  auditReports := s.auditReports
  proposals := s.optimizationProposals

/-- The statistics `stats` after the stats reports in the rows. -/
def GestaltStats.replay (stats : GestaltStats) (rows : List Row) : GestaltStats :=
  (Tables.statsReports rows).foldl applyStatsReport stats

theorem GestaltStats.replay_append (stats : GestaltStats) (rows rows' : List Row) :
    stats.replay (rows ++ rows') = (stats.replay rows).replay rows' := by
  rw [replay, Tables.statsReports_append, List.foldl_append]
  rfl

/-- The state `out` is `s` with the rows taken in. -/
structure Absorbs (s out : GestaltGraphState) (rows : List Row) : Prop where
  held : out.held = s.held.append (Tables.of rows)
  stats : out.stats = s.stats.replay rows

theorem Absorbs.nil (s : GestaltGraphState) : Absorbs s s [] := by
  constructor
  · simp
  · rfl

theorem Merged.absorbs {art : AgentArtifacts} {s out : GestaltGraphState} (h : Merged art s out) :
    Absorbs s out art.rows := by
  constructor
  · rw [Tables.of_rows]
    ext1
    · exact h.memories
    · exact h.commands
    · exact h.audits
    · exact h.proposals
  · rw [h.stats, GestaltStats.replay, Tables.statsReports_rows]
    cases art.statsReport <;> rfl

theorem Unmerged.held {s out : GestaltGraphState} (h : Unmerged s out) : out.held = s.held := by
  ext1
  · exact h.memories
  · exact h.commands
  · exact h.audits
  · exact h.proposals

section AtMostIssued

variable {allows : Event Services → Prop} {rt : Runtime} {s s' out : GestaltGraphState}

theorem AtMostIssued.held (h : AtMostIssued allows rt s s') : s'.held = s.held := by
  rcases h with rfl | ⟨approval, -, rfl⟩ <;> rfl

theorem AtMostIssued.absorbs {rows : List Row} (h : AtMostIssued allows rt s s')
    (hrows : Absorbs s' out rows) : Absorbs s out rows := by
  rcases h with rfl | ⟨approval, -, rfl⟩
  · exact hrows
  · exact ⟨hrows.held, hrows.stats⟩

end AtMostIssued

/-! ## one invocation -/

/-- The builder asks for no write. -/
theorem storedRows_of_inRow {rt : Runtime} {context : AgentContextEnvelope} {a : AgentName}
    {ev : Event Services} (h : InRow rt context a ev.op) : storedRows ev = [] := by
  obtain ⟨op, answer⟩ := ev
  rcases op with site | _ | c
  · rfl
  · rfl
  · cases c <;> first | rfl | (cases a <;> exact h.elim)

/-- The builder stores nothing, and what it returns is traced. -/
theorem logs_builder {rt : Runtime} {node : AgentName} {s : GestaltGraphState}
    {context : AgentContextEnvelope} (hcontext : ContextOf node s context) :
    Logs storedRows s ((agentAt rt node).produceArtifacts context)
      (fun art s' log => log = [] ∧ AtMostIssued (fun _ => True) rt s s' ∧ art.Traced s.traceId)
      fun _ s' log => log = [] ∧ AtMostIssued (fun _ => True) rt s s' := by
  have hquiet : Logs storedRows s ((agentAt rt node).produceArtifacts context)
      (fun _ _ log => log = []) fun _ _ log => log = [] := by
    have hnone : Logs storedRows s ((agentAt rt node).produceArtifacts context)
        (fun _ _ log => ∀ row ∈ log, False) fun _ _ log => ∀ row ∈ log, False :=
      logs_of_asks (asks_builder rt node context) fun ev hrow row hmem => by
        simp [storedRows_of_inRow hrow] at hmem
    exact hnone.mono (fun _ _ _ h => List.eq_nil_iff_forall_not_mem.mpr h)
      fun _ _ _ h => List.eq_nil_iff_forall_not_mem.mpr h
  have hbuilt : Spec (fun _ => True) (fun _ => True) s
      ((agentAt rt node).produceArtifacts context)
      (fun art s' => AtMostIssued (fun _ => True) rt s s' ∧ art.Traced s.traceId)
      fun _ s' => AtMostIssued (fun _ => True) rt s s' := by
    by_cases hnode : node = .orchestrator
    · subst hnode
      have hrouted : Spec (fun _ => True) (fun _ => True) s
          (Orchestrator.produceArtifacts rt context) _ _ :=
        Orchestrator.spec_produceArtifacts (covers_true _) (fun _ _ _ => Or.inr trivial)
          ((suits_any _ rt s .orchestrator).approvals rfl) (Or.inr trivial) (Or.inr trivial)
      exact Spec.mono hrouted (fun _ _ h => ⟨h.1.atMostIssued, h.1.traced⟩) fun _ _ h => h.1.1
    · have hsteady : Steady (fun _ => True) (fun _ => True) True s _ _ :=
        steady_specialist hnode hcontext (suits_any _ rt s node)
      exact Spec.mono hsteady (fun _ _ h => ⟨Or.inl h.1, h.2.1.traced⟩) fun _ _ h => Or.inl h.1
  exact (hquiet.and (logs_of_spec hbuilt)).mono (fun _ _ _ h => h) fun _ _ _ h => h

/-- The rows of an invocation carry the trace id of the state.  The state takes
them in, or it takes in nothing and the invocation has failed. -/
structure Persists (s out : GestaltGraphState) (log : List Row) : Prop where
  traced : ∀ row ∈ log, row.traceId = s.traceId
  held : Absorbs s out log ∨
    (out.held = s.held ∧ ∃ report ∈ out.executionReports, report.status = .failed)

/-- **One invocation** writes first, and merges then. -/
theorem logs_run (rt : Runtime) (node : AgentName) (s : GestaltGraphState) :
    Logs storedRows s (run rt (agentAt rt node)) (fun out _ log => Persists s out log)
      fun _ _ log => ∀ row ∈ log, row.traceId = s.traceId := by
  -- what the body has written when it raises
  have hbody : ∀ startedAt, Logs storedRows s (lifecycle rt (agentAt rt node) startedAt)
      (fun out _ log => Persists s out log)
      fun _ s' log => AtMostIssued (fun _ => True) rt s s' ∧
        ∀ row ∈ log, row.traceId = s.traceId := by
    intro startedAt
    have hstop : ∀ (e : Exc) (s' : GestaltGraphState) (log : List Row), s' = s ∧ log <+: [] →
        AtMostIssued (fun _ => True) rt s s' ∧ ∀ row ∈ log, row.traceId = s.traceId := by
      intro e s' log hpost
      obtain ⟨rfl, hnil⟩ := hpost
      exact ⟨Or.inl rfl, by simp [List.prefix_nil.mp hnil]⟩
    rw [lifecycle, agentAt_name]
    have hprepared : Logs storedRows s (prepareContext rt node)
        (fun context s' log => s' = s ∧ log = [] ∧ ContextOf node s context)
        fun _ s' log => s' = s ∧ log <+: [] := by
      have hcontext : Steady (fun _ => True) (fun _ => True) True s (prepareContext rt node)
          (ContextOf node s) := steady_prepareContext fun _ _ _ => trivial
      exact (quiet_prepareContext.and (logs_of_spec hcontext)).mono
        (fun _ _ _ h => ⟨h.1.1, h.1.2.1, h.2.2⟩) fun _ _ _ h => h.1
    refine logs_bind hprepared hstop fun context _ _ hpost => ?_
    obtain ⟨rfl, rfl, hcontext⟩ := hpost
    refine logs_bind quiet_runAlignmentChecks hstop fun _ _ _ hpost => ?_
    obtain ⟨rfl, rfl, -⟩ := hpost
    refine logs_bind quiet_buildInputMessages hstop fun messages _ _ hpost => ?_
    obtain ⟨rfl, rfl, -⟩ := hpost
    simp only [List.nil_append]
    refine logs_bind (logs_builder hcontext) ?_ fun art s' _ hpost => ?_
    · intro e s' log hpost
      obtain ⟨rfl, hleft⟩ := hpost
      exact ⟨hleft, by simp⟩
    · obtain ⟨rfl, hleft, htraced⟩ := hpost
      simp only [List.nil_append]
      refine logsAll_complete.mono ?_ ?_
      · intro out _ log hpost
        obtain ⟨-, rfl, report, -, -, hmerged⟩ := hpost
        exact ⟨htraced.rows, Or.inl (hleft.absorbs hmerged.absorbs)⟩
      · intro e _ log hpost
        obtain ⟨rfl, hlog⟩ := hpost
        exact ⟨hleft, fun row hrow => htraced.rows row (hlog.subset hrow)⟩
  refine logs_bind (quiet_utcNow .started) (fun _ _ log h => ?_) fun startedAt _ _ hpost => ?_
  · simp [List.prefix_nil.mp h.2]
  · obtain ⟨rfl, rfl, -⟩ := hpost
    simp only [List.nil_append]
    refine logs_tryCatch _ (hbody startedAt) fun e s' log hpost => ?_
    obtain ⟨hleft, htraced⟩ := hpost
    refine quiet_recover.mono ?_ ?_
    · intro out _ _ hpost
      obtain ⟨-, rfl, hout⟩ := hpost
      obtain ⟨report, hreports, hstatus⟩ := hout.reported
      rw [List.append_nil]
      exact ⟨htraced, Or.inr ⟨by rw [hout.unmerged.held, hleft.held], report,
        by simp [hreports], hstatus⟩⟩
    · intro _ _ log hpost
      rw [List.prefix_nil.mp hpost.2, List.append_nil]
      exact htraced

/-! ## steps -/

/-- The cycle has crashed, or one of its invocations has failed. -/
def Cycle.Troubled (c : Cycle) : Prop :=
  (∃ e, c.cursor = .crashed e) ∨ ∃ report ∈ c.state.executionReports, report.status = .failed

section Steps

variable {rt : Runtime} {v : Visit} {c : Cycle}

/-- The rows a step stores. -/
def Cycle.stored (rt : Runtime) (v : Visit) (c : Cycle) : List Row :=
  (c.events rt v).flatMap storedRows

/-- Where no agent has its turn, nothing happens. -/
theorem Cycle.events_of_not_at (h : ∀ node, c.cursor ≠ .at node) : c.events rt v = [] := by
  unfold events
  cases hcursor : c.cursor with
  | «at» node => exact absurd hcursor (h node)
  | ended => rfl
  | crashed e => rfl

/-- A state that is not handed over reaches no agent. -/
theorem Cycle.events_of_lost (hrange : c.state.stats.InRange) (h : ¬ c.HandsOver v) :
    c.events rt v = [] := by
  unfold events
  cases hload : GestaltGraphState.modelValidate v.received c.state.modelDump with
  | error e => cases c.cursor <;> rfl
  | ok s => exact absurd ((modelValidate_modelDump_iff hrange _).mp hload).2 h

/-- Trouble stays. -/
theorem Cycle.Troubled.step (h : c.Troubled) (hrange : c.state.stats.InRange) :
    (c.step rt v).Troubled := by
  rcases h with h | h
  · obtain ⟨e, hcrashed⟩ := h
    exact Or.inl ⟨e, by simp [Cycle.step, hcrashed]⟩
  · obtain ⟨report, hmem, hfailed⟩ := h
    exact Or.inr ⟨report, (appendsTo_step hrange rt v).executionReports.subset hmem, hfailed⟩

/-- **One step** stores rows of its own trace: just those the state takes in, or
none are taken in and there is trouble. -/
theorem Cycle.stored_step (hrange : c.state.stats.InRange) (rt : Runtime) (v : Visit) :
    (∀ row ∈ c.stored rt v, row.traceId = c.state.traceId) ∧
    (Absorbs c.state (c.step rt v).state (c.stored rt v) ∨
      (c.step rt v).state.held = c.state.held ∧ (c.step rt v).Troubled) := by
  have hstored : ∀ {node}, c.cursor = .at node → c.HandsOver v →
      c.stored rt v = (c.agentRun rt v node).trace.flatMap storedRows :=
    fun hcursor hover => by rw [stored, events_of_handsOver hcursor hrange hover]
  have hmoves := moves hrange rt v
  generalize c.step rt v = c' at hmoves ⊢
  cases hmoves with
  | stays hcursor =>
      rw [stored, events_of_not_at hcursor]
      exact ⟨by simp, Or.inl (Absorbs.nil _)⟩
  | @rejected node e hcursor hlost =>
      rw [stored, events_of_lost hrange hlost]
      exact ⟨by simp, Or.inl (Absorbs.nil _)⟩
  | @raised node e hcursor hover hrun =>
      have hlog := logs_run rt node c.state v.answers
      rw [agentRun] at hrun
      simp only [hrun] at hlog
      rw [hstored hcursor hover]
      exact ⟨hlog, Or.inr ⟨rfl, Or.inl ⟨_, rfl⟩⟩⟩
  | @visited node out hcursor hover hrun =>
      have hlog := logs_run rt node c.state v.answers
      rw [agentRun] at hrun
      simp only [hrun] at hlog
      rw [hstored hcursor hover]
      exact ⟨hlog.traced, hlog.held.imp_right fun h => ⟨h.1, Or.inr h.2⟩⟩

end Steps

/-! ## boards -/

namespace SharedBoard

variable {ι : Type} [DecidableEq ι] {rt : Runtime} {fresh : ι → Fresh}
variable {request : ι → CycleRequest}

/-- The rows with the trace id of a cycle. -/
def traceRows (d : SharedBoard ι) (t : Uuid) : List Row :=
  d.rows.filter fun row => row.traceId = t

/-- The turn of a cycle adds the rows of the step to those of its trace. -/
theorem traceRows_step_self {d : SharedBoard ι} (h : d.Sound fresh request) (rt : Runtime) (i : ι)
    (v : Visit) :
    (d.step rt (i, v)).traceRows (fresh i).traceId =
      d.traceRows (fresh i).traceId ++ (d.cycles i).stored rt v := by
  have htrace : (d.cycles i).state.traceId = (fresh i).traceId := (h.cycles i).same.traceId
  have hstored := (Cycle.stored_step (h.cycles i).inRange rt v).1
  rw [traceRows, step, List.filter_append, traceRows, ← Cycle.stored]
  congr 1
  rw [List.filter_eq_self]
  intro row hrow
  simpa [← htrace] using hstored row hrow

/-- The turn of another cycle, with another trace, adds none. -/
theorem traceRows_step_other {d : SharedBoard ι} (h : d.Sound fresh request) (rt : Runtime)
    {i j : ι} (v : Visit) (hother : (fresh j).traceId ≠ (fresh i).traceId) :
    (d.step rt (j, v)).traceRows (fresh i).traceId = d.traceRows (fresh i).traceId := by
  have htrace : (d.cycles j).state.traceId = (fresh j).traceId := (h.cycles j).same.traceId
  have hstored := (Cycle.stored_step (h.cycles j).inRange rt v).1
  rw [traceRows, step, List.filter_append, traceRows, ← Cycle.stored]
  refine (congrArg _ ?_).trans (List.append_nil _)
  rw [List.filter_eq_nil_iff]
  intro row hrow
  rw [decide_eq_true_iff, hstored row hrow, htrace]
  exact hother

/-- What the state of a cycle holds is in the blackboard, and without trouble the
rows of its trace tell its records and its statistics. -/
structure Backed (fresh : ι → Fresh) (d : SharedBoard ι) (i : ι) : Prop where
  within : (d.cycles i).state.held.Within (Tables.of (d.traceRows (fresh i).traceId))
  held : ¬ (d.cycles i).Troubled →
    (d.cycles i).state.held = Tables.of (d.traceRows (fresh i).traceId)
  stats : ¬ (d.cycles i).Troubled → (d.cycles i).state.stats =
    GestaltStats.replay { lastUpdated := (fresh i).now } (d.traceRows (fresh i).traceId)

/-- A turn keeps every cycle backed. -/
theorem Backed.step {d : SharedBoard ι} (h : d.Sound fresh request)
    (hdistinct : Function.Injective fun i => (fresh i).traceId) {i : ι}
    (hbacked : d.Backed fresh i) (turn : ι × Visit) : (d.step rt turn).Backed fresh i := by
  obtain ⟨j, v⟩ := turn
  have hrange := (h.cycles i).inRange
  by_cases hj : j = i
  · subst hj
    have hcycle : (d.step rt (j, v)).cycles j = (d.cycles j).step rt v := by
      simp [SharedBoard.step]
    have hrows := traceRows_step_self h rt j v
    have hstep := (Cycle.stored_step hrange rt v).2
    have habsorbs : ¬ ((d.cycles j).step rt v).Troubled →
        ¬ (d.cycles j).Troubled ∧ Absorbs (d.cycles j).state ((d.cycles j).step rt v).state
          ((d.cycles j).stored rt v) := fun huntroubled =>
      ⟨mt (fun htrouble => htrouble.step hrange) huntroubled,
        hstep.resolve_right fun h => huntroubled h.2⟩
    constructor
    · rw [hcycle, hrows, Tables.of_append]
      rcases hstep with habsorbed | ⟨hheld, -⟩
      · rw [habsorbed.held]
        exact hbacked.within.append _
      · rw [hheld]
        exact hbacked.within.append_right _
    · rw [hcycle, hrows, Tables.of_append]
      intro huntroubled
      obtain ⟨hbefore, habsorbed⟩ := habsorbs huntroubled
      rw [habsorbed.held, hbacked.held hbefore]
    · rw [hcycle, hrows, GestaltStats.replay_append]
      intro huntroubled
      obtain ⟨hbefore, habsorbed⟩ := habsorbs huntroubled
      rw [habsorbed.stats, hbacked.stats hbefore]
  · have hcycle : (d.step rt (j, v)).cycles i = d.cycles i := by
      simp [SharedBoard.step, Function.update_of_ne (Ne.symm hj)]
    have hrows := traceRows_step_other h rt v (mt (fun h => hdistinct h) hj)
    constructor
    · rw [hcycle, hrows]
      exact hbacked.within
    · rw [hcycle, hrows]
      exact hbacked.held
    · rw [hcycle, hrows]
      exact hbacked.stats

/-- **The blackboard backs the cycles.**  Among any number of cycles with distinct
trace ids that share a blackboard, in whatever order they take their turns and
whatever fails: the memories, commands, audit reports and proposals in the state
of a cycle are rows of its trace, in the same order.  As long as none of its
invocations has failed and it has not crashed, they are all such rows there are,
and its statistics are those its stats rows lead to. -/
theorem backed_run (rt : Runtime) (fresh : ι → Fresh) (request : ι → CycleRequest)
    (turns : List (ι × Visit)) (i : ι)
    (hdistinct : Function.Injective fun i => (fresh i).traceId) :
    (run rt fresh request turns).Backed fresh i := by
  induction turns using List.reverseRecOn with
  | nil =>
      constructor
      · exact Tables.Within.refl _
      · exact fun _ => rfl
      · exact fun _ => rfl
  | append_singleton turns turn ih =>
      rw [run_snoc]
      exact ih.step (sound_run rt fresh request turns) hdistinct turn

end SharedBoard

/-- Two identities with traces of their own. -/
def Reference.freshPair (second : Bool) : Fresh := ⟨if second then 3 else 1, 2, 0⟩

/-- Two cycles of the reference world that take turns. -/
theorem SharedBoard.backed_run_pair :
    (run Reference.runtime Reference.freshPair (fun _ => Reference.monitorRequest)
      [(true, Reference.calm 0), (false, Reference.calm 0), (true, Reference.calm 1)]).Backed
        Reference.freshPair true :=
  backed_run Reference.runtime Reference.freshPair (fun _ => Reference.monitorRequest)
    [(true, Reference.calm 0), (false, Reference.calm 0), (true, Reference.calm 1)] true
    (by intro a b h; cases a <;> cases b <;> first | rfl | exact absurd h (by decide))

end Gestalt
