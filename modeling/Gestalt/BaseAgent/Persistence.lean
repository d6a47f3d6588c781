import Gestalt.BaseAgent.Spec
import Gestalt.Library.Log
import Gestalt.Reference

/-!
# Gestalt.BaseAgent.Persistence

The artifacts of an invocation, in the blackboard and in the state.

Every artifact is written on its own, in order, before the report is built and
the state merged, and nothing undoes a write.  A completed invocation has
written all of its artifacts and merged all of them; a failed one merges none,
but those written before the failure stay in the blackboard.
-/

namespace Gestalt

open Effects Program

/-! ## rows -/

/-- A row of the blackboard that an invocation writes. -/
inductive Row where
  | memory (record : BlackboardMemoryRecord)
  | command (command : GestaltCommand)
  | statsReport (report : GestaltStatsReport)
  | auditReport (report : GestaltAuditReport)
  | proposal (proposal : OptimizationProposal)

/-- The artifacts of an invocation, in the order in which they are written. -/
def AgentArtifacts.rows (artifacts : AgentArtifacts) : List Row :=
  artifacts.memories.map .memory ++ (artifacts.commands.map .command ++
    (artifacts.statsReport.toList.map .statsReport ++
      (artifacts.auditReport.toList.map .auditReport ++
        artifacts.optimizationProposals.map .proposal)))

/-- The rows an event stores: a write that succeeds stores its own, and one that
raises none. -/
def storedRows : Event Services → List Row
  | ⟨.call (.writeMemory record), .ok _⟩ => [.memory record]
  | ⟨.call (.writeCommand command), .ok _⟩ => [.command command]
  | ⟨.call (.writeStatsReport report), .ok _⟩ => [.statsReport report]
  | ⟨.call (.writeAuditReport report), .ok _⟩ => [.auditReport report]
  | ⟨.call (.writeOptimizationProposal proposal), .ok _⟩ => [.proposal proposal]
  | _ => []

/-- The event is no call that fails. -/
def succeeds : Event Services → Bool
  | ⟨.call _, .error _⟩ => false
  | _ => true

/-- The rows stored are the first of the artifacts', and all of them unless the
objective is blank or a call failed. -/
structure StoredFirst (artifacts : AgentArtifacts) (s : GestaltGraphState)
    (events : List (Event Services)) : Prop where
  first : events.flatMap storedRows <+: artifacts.rows
  whole : blank s.objective.val = false → (∀ ev ∈ events, succeeds ev) →
    events.flatMap storedRows = artifacts.rows

/-- Events that store nothing, before or after, change nothing. -/
theorem StoredFirst.quiet {artifacts : AgentArtifacts} {s : GestaltGraphState}
    {before events after : List (Event Services)} (h : StoredFirst artifacts s events)
    (hbefore : before.flatMap storedRows = []) (hafter : after.flatMap storedRows = []) :
    StoredFirst artifacts s (before ++ (events ++ after)) where
  first := by simpa [hbefore, hafter] using h.first
  whole hblank hall := by
    simpa [hbefore, hafter] using h.whole hblank fun ev hev => hall ev (by simp [hev])

/-- The artifacts are in the state `out`: appended to what `s` held or, in the
case of the stats report, merged into its statistics. -/
structure Merged (artifacts : AgentArtifacts) (s out : GestaltGraphState) : Prop where
  memories : out.memories = s.memories ++ artifacts.memories
  commands : out.commands = s.commands ++ artifacts.commands
  stats : out.stats = artifacts.statsReport.elim s.stats (applyStatsReport s.stats)
  audits : out.auditReports = s.auditReports ++ artifacts.auditReport.toList
  proposals : out.optimizationProposals =
    s.optimizationProposals ++ artifacts.optimizationProposals

/-- No artifact is in the state `out` that was not in `s`. -/
structure Unmerged (s out : GestaltGraphState) : Prop where
  memories : out.memories = s.memories
  commands : out.commands = s.commands
  stats : out.stats = s.stats
  audits : out.auditReports = s.auditReports
  proposals : out.optimizationProposals = s.optimizationProposals

theorem merged_applyStateUpdate (s : GestaltGraphState) (messages : List GestaltMessage)
    (artifacts : AgentArtifacts) (report : AgentExecutionReport) :
    Merged artifacts s (applyStateUpdate s messages artifacts report) := by
  refine ⟨rfl, rfl, ?_, rfl, rfl⟩
  cases hreport : artifacts.statsReport <;> simp [applyStateUpdate, hreport]

theorem FailedAs.unmerged {rt : Runtime} {a : AgentName} {s out : GestaltGraphState}
    (h : FailedAs rt a s out) : Unmerged s out := by
  obtain ⟨e, report, -, rfl⟩ := h
  constructor <;> simp [applyStateUpdate, failureArtifacts]

theorem FailedAs.reported {rt : Runtime} {a : AgentName} {s out : GestaltGraphState}
    (h : FailedAs rt a s out) :
    ∃ report, out.executionReports = s.executionReports ++ [report] ∧
      report.status = .failed := by
  obtain ⟨e, report, hreport, rfl⟩ := h
  exact ⟨report, rfl, hreport.status_eq⟩

/-! ## what the parts of the lifecycle store -/

section Parts

variable {s : GestaltGraphState} {rt : Runtime} {a : AgentName}

/-- A part of the lifecycle that stores nothing. -/
abbrev Quiet {α : Type} (s : GestaltGraphState) (p : Action α) (ok : α → Prop) : Prop :=
  LogsAll storedRows s p [] ok

theorem quiet_utcNow (site : ClockSite) : Quiet s (utcNow site) fun _ => True :=
  logs_query fun _ => ⟨rfl, rfl, trivial⟩

theorem quiet_uuid4 : Quiet s uuid4 fun _ => True :=
  logs_query fun _ => ⟨rfl, rfl, trivial⟩

/-- A call stores the rows it is for when it succeeds, and none when it fails. -/
theorem logsAll_send {c : Call} {rows : List Row} (hok : ∀ r, storedRows ⟨.call c, .ok r⟩ = rows)
    (herr : ∀ e, storedRows ⟨.call c, .error e⟩ = []) :
    LogsAll storedRows s (send c) rows fun _ => True := by
  have hasked : Logs storedRows s (query (I := Services) (.call c) : Action _)
      (fun answer s' log => s' = s ∧ log = storedRows ⟨.call c, answer⟩) fun _ _ _ => False :=
    logs_query fun _ => ⟨rfl, rfl⟩
  refine logs_bind hasked (fun _ _ _ h => h.elim) ?_
  intro answer _ _ hpost
  obtain ⟨rfl, rfl⟩ := hpost
  refine logs_ofExcept ?_ ?_
  · intro r heq
    obtain rfl := heq
    exact ⟨rfl, by rw [hok, List.append_nil], trivial⟩
  · intro e heq
    obtain rfl := heq
    exact ⟨rfl, by rw [herr]; exact List.nil_prefix⟩

/-- What follows a quiet part stores what the whole stores. -/
theorem quiet_bind {α β : Type} {p : Action β} {f : β → Action α} {rows : List Row}
    {mid : β → Prop} {ok : α → Prop} (hp : Quiet s p mid)
    (hf : ∀ b, mid b → LogsAll storedRows s (f b) rows ok) :
    LogsAll storedRows s (p >>= f) rows ok := by
  rw [← List.nil_append rows]
  exact logsAll_bind hp hf

theorem quiet_prepareContext : Quiet s (prepareContext rt a) fun _ => True := by
  refine logs_read_bind ?_
  refine quiet_bind (logsAll_send (fun _ => rfl) fun _ => rfl) fun result _ => ?_
  exact logs_pure ⟨rfl, rfl, trivial⟩

theorem quiet_runAlignmentChecks {context : AgentContextEnvelope} :
    Quiet s (runAlignmentChecks rt a context) fun _ => True := by
  refine logs_read_bind ?_
  split
  · exact logs_raise ⟨rfl, List.nil_prefix⟩
  split
  · exact logs_raise ⟨rfl, List.nil_prefix⟩
  split
  · exact logs_raise ⟨rfl, List.nil_prefix⟩
  · exact logs_pure ⟨rfl, rfl, trivial⟩

theorem quiet_buildInputMessages {context : AgentContextEnvelope} :
    Quiet s (buildInputMessages rt a context) fun _ => True := by
  have hmessage : ∀ {traceId role sender recipient content metadata},
      Quiet s (newMessage traceId role sender recipient content metadata) fun _ => True :=
    quiet_bind quiet_uuid4 fun _ _ => quiet_bind (quiet_utcNow _) fun _ _ =>
      logs_pure ⟨rfl, rfl, trivial⟩
  refine logs_read_bind ?_
  refine quiet_bind hmessage fun system _ => ?_
  refine quiet_bind hmessage fun task _ => ?_
  exact logs_pure ⟨rfl, rfl, trivial⟩

theorem quiet_buildExecutionReport {artifacts : AgentArtifacts} {startedAt : Int}
    {status : CommandStatus} :
    Quiet s (buildExecutionReport a artifacts startedAt status)
      (ReportOf a status artifacts s) := by
  refine logs_read_bind ?_
  refine quiet_bind (quiet_utcNow _) fun finishedAt _ => ?_
  refine quiet_bind quiet_uuid4 fun reportId _ => ?_
  split
  · exact logs_pure ⟨rfl, rfl, rfl, rfl, rfl, rfl, rfl, rfl⟩
  · exact logs_raise ⟨rfl, List.nil_prefix⟩

/-- The artifacts are stored in order, up to the first write that raises. -/
theorem logsAll_persistOutputs {artifacts : AgentArtifacts} :
    LogsAll storedRows s (persistOutputs artifacts) artifacts.rows fun _ => True := by
  refine logsAll_bind (logsAll_forEach fun memory => ?_) fun _ _ => ?_
  · exact logsAll_send (fun _ => rfl) fun _ => rfl
  refine logsAll_bind (logsAll_forEach fun command => ?_) fun _ _ => ?_
  · exact logsAll_send (fun _ => rfl) fun _ => rfl
  refine logsAll_bind (logsAll_forEach fun report => ?_) fun _ _ => ?_
  · exact logsAll_send (fun _ => rfl) fun _ => rfl
  refine logsAll_bind (logsAll_forEach fun report => ?_) fun _ _ => ?_
  · exact logsAll_send (fun _ => rfl) fun _ => rfl
  refine logsAll_forEach fun proposal => ?_
  exact logsAll_send (fun _ => rfl) fun _ => rfl

/-- Once the artifacts are there, they are stored, reported and merged. -/
theorem logsAll_complete {startedAt : Int} {messages : List GestaltMessage}
    {artifacts : AgentArtifacts} :
    LogsAll storedRows s (complete a startedAt messages artifacts) artifacts.rows
      fun out => ∃ report, out.executionReports = s.executionReports ++ [report] ∧
        report.status = .completed ∧ Merged artifacts s out := by
  rw [← List.append_nil artifacts.rows]
  refine logsAll_bind logsAll_persistOutputs fun _ _ => ?_
  refine quiet_bind quiet_buildExecutionReport fun report hreport => ?_
  refine logs_read_bind ?_
  have hmerged : Merged artifacts s
      (applyStateUpdate s (messages ++ artifacts.messages) artifacts report) :=
    merged_applyStateUpdate _ _ _ _
  exact logs_pure ⟨rfl, rfl, report, rfl, hreport.status_eq, hmerged⟩

/-- The body of the `try`, where the builder returns the artifacts. -/
theorem logsAll_lifecycle {startedAt : Int} {artifacts : AgentArtifacts} :
    LogsAll storedRows s (lifecycle rt ⟨a, fun _ => pure artifacts⟩ startedAt) artifacts.rows
      fun out => ∃ report, out.executionReports = s.executionReports ++ [report] ∧
        report.status = .completed ∧ Merged artifacts s out := by
  refine quiet_bind quiet_prepareContext fun context _ => ?_
  refine quiet_bind quiet_runAlignmentChecks fun _ _ => ?_
  refine quiet_bind quiet_buildInputMessages fun messages _ => ?_
  have hbuilt : Quiet s (pure artifacts) (artifacts = ·) := logs_pure ⟨rfl, rfl, rfl⟩
  refine quiet_bind hbuilt fun built heq => ?_
  subst heq
  exact logsAll_complete

/-- The `except` branch stores nothing. -/
theorem quiet_recover {startedAt : Int} {e : Exc} :
    Quiet s (recover rt a startedAt e) (FailedAs rt a s) := by
  refine quiet_bind quiet_buildExecutionReport fun report hreport => ?_
  refine logs_read_bind ?_
  exact logs_pure ⟨rfl, rfl, e, report, hreport, rfl⟩

end Parts

/-! ## what is stored when every call succeeds -/

section Succeeding

variable {s : GestaltGraphState} {rt : Runtime} {a : AgentName}

/-- `p` stores `rows` if every call succeeds. -/
abbrev StoresAll {α : Type} (mayRaise : Prop) (s : GestaltGraphState) (p : Action α)
    (rows : List Row) (ok : α → Prop) : Prop :=
  LogsWhole (fun ev => succeeds ev) storedRows mayRaise s p rows ok

/-- Where every call succeeds, no call has to be covered. -/
theorem not_succeeds {c : Call} {e : Exc} : ¬ (succeeds ⟨.call c, .error e⟩ = true) := by
  simp [succeeds]

theorem storesAll_persistOutputs {artifacts : AgentArtifacts} :
    StoresAll False s (persistOutputs artifacts) artifacts.rows fun _ => True := by
  have hsteady : Steady (fun ev => succeeds ev) (fun _ => True) False s
      (persistOutputs artifacts) fun _ => True :=
    steady_persistOutputs_of_calls (fun _ _ h => not_succeeds h) fun _ _ _ => trivial
  exact logsAll_persistOutputs.whole hsteady False.elim

/-- With a quiet program nothing is left to be stored, whether it raises or not. -/
theorem storesAll_of_quiet {α : Type} {mayRaise : Prop} {p : Action α} {ok ok' : α → Prop}
    (h : Quiet s p ok) (hsteady : Steady (fun ev => succeeds ev) (fun _ => True) mayRaise s p ok') :
    StoresAll mayRaise s p [] ok' :=
  h.whole hsteady fun _ => rfl

/-- What follows a part that stores nothing stores what the whole stores. -/
theorem storesAll_bind {α β : Type} {mayRaise : Prop} {p : Action β} {f : β → Action α}
    {rows : List Row} {mid : β → Prop} {ok : α → Prop} (hp : StoresAll False s p [] mid)
    (hf : ∀ b, mid b → StoresAll mayRaise s (f b) rows ok) :
    StoresAll mayRaise s (p >>= f) rows ok := by
  rw [← List.nil_append rows]
  exact logsWhole_bind hp hf

/-- Where every call succeeds only the report can fail, and by then all artifacts
are stored. -/
theorem storesAll_complete {startedAt : Int} {messages : List GestaltMessage}
    {artifacts : AgentArtifacts} :
    StoresAll True s (complete a startedAt messages artifacts) artifacts.rows fun _ => True := by
  have hquiet : ∀ report, Quiet s (do
      return applyStateUpdate (← Program.read) (messages ++ artifacts.messages) artifacts report)
      fun _ => True :=
    fun _ => logs_read_bind (logs_pure ⟨rfl, rfl, trivial⟩)
  rw [← List.append_nil artifacts.rows]
  refine logsWhole_bind storesAll_persistOutputs fun _ _ => ?_
  refine storesAll_of_quiet (quiet_bind quiet_buildExecutionReport fun report _ => hquiet report) ?_
  refine steady_bind (steady_buildExecutionReport fun _ _ => Or.inr trivial) fun _ _ => ?_
  exact steady_read_bind (steady_pure trivial)

/-- Before the artifacts are there, only a blank objective or a call that fails
ends the body of the `try`. -/
theorem storesAll_lifecycle {startedAt : Int} {artifacts : AgentArtifacts}
    (hblank : blank s.objective.val = false) :
    StoresAll True s (lifecycle rt ⟨a, fun _ => pure artifacts⟩ startedAt) artifacts.rows
      fun _ => True := by
  have hcontext : StoresAll False s (prepareContext rt a) [] (ContextOf a s) :=
    storesAll_of_quiet quiet_prepareContext (steady_prepareContext fun _ _ => not_succeeds)
  refine storesAll_bind hcontext fun context hcontext => ?_
  have hchecks : StoresAll False s (runAlignmentChecks rt a context) []
      fun _ => blank s.objective.val = false :=
    storesAll_of_quiet quiet_runAlignmentChecks
      (steady_runAlignmentChecks hcontext (by simp [hblank]))
  refine storesAll_bind hchecks fun _ _ => ?_
  refine storesAll_bind (storesAll_of_quiet quiet_buildInputMessages
    (steady_buildInputMessages hcontext)) fun messages _ => ?_
  have hquiet : Quiet s (pure artifacts) fun _ => True := logs_pure ⟨rfl, rfl, trivial⟩
  have hbuilt : StoresAll False s (pure artifacts) [] (artifacts = ·) :=
    storesAll_of_quiet hquiet (steady_pure rfl)
  refine storesAll_bind hbuilt fun built heq => ?_
  subst heq
  exact storesAll_complete

end Succeeding

/-! ## the invocation -/

/-- Where the body of the `try` raises, the rows stored are the first of the
artifacts', and all of them if only the report failed. -/
theorem logs_lifecycle {s : GestaltGraphState} {rt : Runtime} {a : AgentName} {startedAt : Int}
    {artifacts : AgentArtifacts} :
    Logs (fun ev => [ev]) s (lifecycle rt ⟨a, fun _ => pure artifacts⟩ startedAt)
      (fun out _ events => events.flatMap storedRows = artifacts.rows ∧
        ∃ report, out.executionReports = s.executionReports ++ [report] ∧
          report.status = .completed ∧ Merged artifacts s out)
      fun _ s' events => s' = s ∧ StoredFirst artifacts s events := by
  by_cases hblank : blank s.objective.val = false
  · refine (logsAll_lifecycle.events.and (storesAll_lifecycle hblank)).mono ?_ ?_
    · exact fun _ _ _ hpost => hpost.1.2
    · intro _ s' events hpost
      obtain ⟨⟨hs, hfirst⟩, hwhole⟩ := hpost
      exact ⟨hs, hfirst, fun _ hall => (hwhole hall).2.2⟩
  · refine logsAll_lifecycle.events.mono (fun _ _ _ hpost => hpost.2) ?_
    exact fun _ _ _ hpost => ⟨hpost.1, hpost.2, fun h => (hblank h).elim⟩

/-- What an invocation has stored by its end, and what it has merged. -/
theorem logs_invocation {s : GestaltGraphState} {rt : Runtime} {a : AgentName}
    {artifacts : AgentArtifacts} :
    Logs (fun ev => [ev]) s (run rt ⟨a, fun _ => pure artifacts⟩)
      (fun out _ events => StoredFirst artifacts s events ∧
        ∃ report, out.executionReports = s.executionReports ++ [report] ∧
          ((report.status = .completed ∧ events.flatMap storedRows = artifacts.rows ∧
              Merged artifacts s out) ∨
            (report.status = .failed ∧ Unmerged s out)))
      fun _ _ events => StoredFirst artifacts s events := by
  have hstarted : Logs (fun ev => [ev]) s (utcNow .started)
      (fun _ s' events => s' = s ∧ events.flatMap storedRows = []) fun _ _ _ => False :=
    logs_query fun _ => ⟨rfl, rfl⟩
  refine logs_bind hstarted (fun _ _ _ h => h.elim) ?_
  intro startedAt s' before hpost
  obtain ⟨rfl, hbefore⟩ := hpost
  refine logs_tryCatch (fun _ s'' events => s'' = s' ∧ StoredFirst artifacts s' events) ?_ ?_
  · -- the body of the `try`
    refine logs_lifecycle.mono ?_ fun _ _ _ hpost => hpost
    intro out _ events hpost
    obtain ⟨hstored, report, hreports, hstatus, hmerged⟩ := hpost
    have hall : (before ++ events).flatMap storedRows = artifacts.rows := by
      rw [List.flatMap_append, hbefore, hstored, List.nil_append]
    exact ⟨⟨hall ▸ List.prefix_rfl, fun _ _ => hall⟩, report, hreports,
      Or.inl ⟨hstatus, hall, hmerged⟩⟩
  · -- the `except` branch
    intro e s'' events hpost
    obtain ⟨rfl, hfirst⟩ := hpost
    refine quiet_recover.events.mono ?_ ?_
    · intro out _ after hpost
      obtain ⟨-, hafter, hout⟩ := hpost
      obtain ⟨report, hreports, hstatus⟩ := hout.reported
      exact ⟨hfirst.quiet hbefore hafter, report, hreports, Or.inr ⟨hstatus, hout.unmerged⟩⟩
    · intro _ _ after hpost
      exact hfirst.quiet hbefore (List.prefix_nil.mp hpost.2)

/-- **Artifacts in the blackboard and in the state.**  Let the builder return
any artifacts, and let anything fail.  A completed invocation has stored all
artifacts and merged all of them; a failed one has merged none and stored those
written before the failure, as has one that raises.  Those are all artifacts if
the objective is not blank and every call succeeded, so that only the report
failed. -/
theorem artifacts_stored (rt : Runtime) (a : AgentName) (artifacts : AgentArtifacts)
    (w : Surroundings Services) (s : GestaltGraphState) :
    let outcome := (run rt ⟨a, fun _ => pure artifacts⟩).run w s
    let stored := outcome.trace.flatMap storedRows
    (match outcome.result with
      | .ok out => ∃ report, out.executionReports = s.executionReports ++ [report] ∧
          ((report.status = .completed ∧ stored = artifacts.rows ∧ Merged artifacts s out) ∨
            (report.status = .failed ∧ stored <+: artifacts.rows ∧ Unmerged s out))
      | .error _ => stored <+: artifacts.rows) ∧
    (blank s.objective.val = false → (∀ ev ∈ outcome.trace, succeeds ev) →
      stored = artifacts.rows) := by
  intro outcome stored
  have hw := @logs_invocation s rt a artifacts w
  rw [List.flatMap_singleton'] at hw
  cases hresult : outcome.result with
  | ok out =>
      rw [show (Program.run _ w s).result = .ok out from hresult] at hw
      obtain ⟨hfirst, report, hreports, hcases⟩ := hw
      refine ⟨⟨report, hreports, ?_⟩, hfirst.whole⟩
      exact hcases.imp_right fun hfailed => ⟨hfailed.1, hfirst.first, hfailed.2⟩
  | error e =>
      rw [show (Program.run _ w s).result = .error e from hresult] at hw
      exact ⟨hw.first, hw.whole⟩

/-- An invocation with a memory and a command. -/
def Reference.noteAndCommand : AgentArtifacts where
  summary := .text "Took a note."
  memories := [{
    recordId := 10
    traceId := 1
    memoryKind := .fact
    title := .text "Note"
    content := .text "The cluster is quiet."
    createdAt := 0 }]
  commands := [{
    commandId := 11
    traceId := 1
    commandType := .analyze
    issuedBy := .text "monitor"
    targetAgent := .text "analyzer"
    rationale := .text "Look into the note."
    createdAt := 0 }]

/-- The reference world, where the clock steps back for the report: its reading
is the ninth question of `noteAndCommand`. -/
def Reference.steppingBack (n : Nat) : (op : ServiceOp) → op.Answer
  | .utcNow _ => if n = 8 then 0 else 1
  | op => Reference.answer (fun _ => false) op

/-- When only the report fails, because the clock stepped back while it was
built, the invocation is reported as failed and its state holds no memory, but
all artifacts are stored. -/
theorem artifacts_stored_note :
    let s : GestaltGraphState := {
      traceId := 1, cycleId := 2, source := .api
      objective := .text "Watch the cluster", stats := { lastUpdated := 0 } }
    let outcome := (run Reference.runtime ⟨.monitor, fun _ => pure Reference.noteAndCommand⟩).run
      Reference.steppingBack s
    ∃ out report, outcome.result = .ok out ∧ out.executionReports = [report] ∧
      report.status = .failed ∧ out.memories = [] ∧
      outcome.trace.flatMap storedRows = Reference.noteAndCommand.rows :=
  ⟨_, _, rfl, rfl, rfl, rfl, (artifacts_stored Reference.runtime .monitor Reference.noteAndCommand
    Reference.steppingBack _).2 (by decide) (List.all_eq_true.mp rfl)⟩

/-- When the command cannot be written, the invocation is reported as failed and
its state holds no memory, but the blackboard does. -/
theorem stored_but_failed :
    let s : GestaltGraphState := {
      traceId := 1, cycleId := 2, source := .api
      objective := .text "Watch the cluster", stats := { lastUpdated := 0 } }
    let outcome := (run Reference.runtime ⟨.monitor, fun _ => pure Reference.noteAndCommand⟩).run
      (fun _ op => Reference.answer (fun call => match call with
        | .writeCommand _ => true
        | _ => false) op) s
    ∃ out report, outcome.result = .ok out ∧ out.executionReports = [report] ∧
      report.status = .failed ∧ out.memories = [] ∧
      outcome.trace.flatMap storedRows = Reference.noteAndCommand.memories.map .memory :=
  ⟨_, _, rfl, rfl, rfl, rfl, rfl⟩

end Gestalt
