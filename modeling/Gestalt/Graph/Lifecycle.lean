import Gestalt.Blackboard
import Gestalt.Graph.Delivery
import Gestalt.Graph.Ledger
import Gestalt.Graph.Risk

/-!
# Gestalt.Graph.Lifecycle

The life of a command, from the invocation that finds it in its context to the
table the orchestrator counts failures in.

Commands are pending when they are issued, and nothing changes a command that
is in the state or in the blackboard.  So a command that was processed is still
pending, is found again by the next invocation of its target, and is never
counted as failed.
-/

namespace Gestalt

open Effects Program

/-! ## processing -/

/-- The commands the step finds in its context. -/
def Cycle.received (rt : Runtime) (v : Visit) (c : Cycle) : List GestaltCommand :=
  match c.context? rt v with
  | some context => context.inboundCommands
  | none => []

/-- The report the step enters. -/
def Cycle.report? (rt : Runtime) (v : Visit) (c : Cycle) : Option AgentExecutionReport :=
  ((c.step rt v).state.executionReports.drop c.state.executionReports.length).head?

/-- The commands an invocation with a report has processed, with its outcome. -/
def Cycle.outcomes (rt : Runtime) (v : Visit) (c : Cycle) : List (Uuid × CommandStatus) :=
  match c.report? rt v with
  | some report => (c.received rt v).map fun command => (command.commandId, report.status)
  | none => []

section Steps

variable {rt : Runtime} {v : Visit} {c : Cycle}

/-- A step with a report visits a node in time, and reports a completed or a
failed invocation. -/
theorem Cycle.visited_of_report {report : AgentExecutionReport}
    (h : c.report? rt v = some report) (hrange : c.state.stats.InRange) :
    ∃ node, c.cursor = .at node ∧ c.HandsOver v ∧
      (report.status = .completed ∨ report.status = .failed) := by
  unfold report? at h
  obtain hkept | ⟨node, hcursor, hover, hrun⟩ := (moves hrange rt v).state_cases
  · simp [hkept] at h
  · obtain ⟨entry, hentered⟩ := (visitEffect_of_ok hrun).1.entered
    obtain rfl : entry = report := by simpa [hentered.reports] using h
    exact ⟨node, hcursor, hover, hentered.marker.imp And.left And.left⟩

/-- An undisturbed visit reports. -/
theorem Cycle.exists_report_of_undisturbed {node : AgentName} (h : c.Undisturbed rt v)
    (hrange : c.state.stats.InRange) (hcursor : c.cursor = .at node) :
    ∃ report, c.report? rt v = some report := by
  obtain ⟨out, hrun, -, hstep⟩ := step_of_undisturbed h hrange hcursor
  obtain ⟨report, hentered⟩ := (visitEffect_of_ok hrun).1.entered
  exact ⟨report, by simp [report?, hstep, hentered.reports]⟩

/-- What a step finds in its context waits in the state for the agent. -/
theorem Cycle.mem_of_received {command : GestaltCommand} (h : command ∈ c.received rt v)
    (hrange : c.state.stats.InRange) :
    ∃ node, c.cursor = .at node ∧ c.Recalls rt v ∧
      command ∈ inboundCommands node c.state.commands := by
  unfold received at h
  cases hcontext : c.context? rt v with
  | none => simp [hcontext] at h
  | some context =>
      obtain ⟨node, hcursor, -, hrecalls, hinbound⟩ := prepared_of_context? hcontext hrange
      simp only [hcontext, hinbound] at h
      exact ⟨node, hcursor, hrecalls, h⟩

/-- Where the blackboard answers in time, the step finds all that wait. -/
theorem Cycle.received_of_recalls {node : AgentName} (hcursor : c.cursor = .at node)
    (hrange : c.state.stats.InRange) (hover : c.HandsOver v) (hrecalls : c.Recalls rt v) :
    c.received rt v = inboundCommands node c.state.commands := by
  obtain ⟨result, hanswer⟩ := hrecalls
  rw [received, context?_of_handsOver hcursor hrange hover, result_preparation, hanswer]
  rfl

/-- Restricts the commands written to pending ones. -/
def WritesPending (ev : Event Services) : Prop :=
  ∀ command, ev.op = .call (.writeCommand command) → command.status = .pending

instance : Permissive WritesPending where
  ordinary := by
    intro ev h command hop
    obtain ⟨op, answer⟩ := ev
    subst hop
    exact h

/-- **A step writes pending commands only.** -/
theorem Cycle.pending_of_stored {command : GestaltCommand}
    (h : .command command ∈ (c.events rt v).flatMap storedRows) : command.status = .pending := by
  obtain ⟨ev, hev, hrow⟩ := List.mem_flatMap.mp h
  have hwrites : WritesPending ev := by
    unfold events at hev
    cases hcursor : c.cursor with
    | ended => simp [hcursor] at hev
    | crashed e => simp [hcursor] at hev
    | «at» node =>
        cases hload : GestaltGraphState.modelValidate v.received c.state.modelDump with
        | error e => simp [hcursor, hload] at hev
        | ok s =>
            simp only [hcursor, hload] at hev
            have hsuits : Suits (fun _ => True) WritesPending rt s node :=
              ⟨fun _ _ _ _ _ h => by simp at h, fun _ _ _ _ _ _ _ _ h => by simp at h⟩
            exact (spec_visit_effect True node hsuits fun _ _ _ => Or.inr trivial).emits_of_mem
              (fun _ _ => trivial) ev hev
  obtain ⟨op, answer⟩ := ev
  cases op with
  | call call =>
      cases call <;> cases answer <;> simp [storedRows] at hrow
      subst hrow
      exact hwrites _ rfl
  | utcNow site => simp [storedRows] at hrow
  | uuid4 => simp [storedRows] at hrow

end Steps

/-! ## cycles that share a blackboard -/

/-- Any number of cycles, the rows they wrote to the blackboard, and what became
of the commands they processed. -/
structure SharedBoard (ι : Type) where
  cycles : ι → Cycle
  rows : List Row
  processed : List (Uuid × CommandStatus)

namespace SharedBoard

variable {ι : Type} [DecidableEq ι]

/-- The turn of one cycle. -/
def step (rt : Runtime) (d : SharedBoard ι) (turn : ι × Visit) : SharedBoard ι where
  cycles := Function.update d.cycles turn.1 ((d.cycles turn.1).step rt turn.2)
  rows := d.rows ++ ((d.cycles turn.1).events rt turn.2).flatMap storedRows
  processed := d.processed ++ (d.cycles turn.1).outcomes rt turn.2

/-- The cycles of the requests and an empty blackboard, after the turns. -/
def run (rt : Runtime) (fresh : ι → Fresh) (request : ι → CycleRequest)
    (turns : List (ι × Visit)) : SharedBoard ι :=
  turns.foldl (step rt) ⟨fun i => .start (fresh i) (request i), [], []⟩

/-- **The life of a command.**  Once an invocation that found the command in its
context has reported, the command has the status of the report, in the state
and in the blackboard; no invocation finds a command whose life is over; and of
the commands `compute_cohesion_inputs` looks at it counts those whose processing
failed. -/
structure Lawful (rt : Runtime) (fresh : ι → Fresh) (request : ι → CycleRequest)
    (turns : List (ι × Visit)) : Prop where
  settled : ∀ before i v after, turns = before ++ (i, v) :: after →
    ∀ report, ((run rt fresh request before).cycles i).report? rt v = some report →
    ∀ command ∈ ((run rt fresh request before).cycles i).received rt v,
      (∀ held ∈ (((run rt fresh request before).cycles i).step rt v).state.commands,
        held.commandId = command.commandId → held.status = report.status) ∧
      ∀ row ∈ Blackboard.commandRows (run rt fresh request (before ++ [(i, v)])).rows,
        row.commandId = command.commandId → row.status = report.status
  live : ∀ before i v after, turns = before ++ (i, v) :: after →
    ∀ command ∈ ((run rt fresh request before).cycles i).received rt v,
      command.status ≠ .completed ∧ command.status ≠ .failed
  counted : ∀ before after, turns = before ++ after →
    (Blackboard.computeCohesionInputs (run rt fresh request before).rows).failedCommands =
      (Blackboard.recentCommands (run rt fresh request before).rows).countP fun command =>
        (command.commandId, .failed) ∈ (run rt fresh request before).processed

variable {rt : Runtime} {fresh : ι → Fresh} {request : ι → CycleRequest}
variable {turns : List (ι × Visit)}

theorem run_snoc (turn : ι × Visit) :
    run rt fresh request (turns ++ [turn]) = (run rt fresh request turns).step rt turn := by
  rw [run, List.foldl_append]
  rfl

/-- Every row was stored in one of the turns. -/
theorem exists_turn_of_mem_rows {row : Row} (h : row ∈ (run rt fresh request turns).rows) :
    ∃ before i v after, turns = before ++ (i, v) :: after ∧
      row ∈ (((run rt fresh request before).cycles i).events rt v).flatMap storedRows := by
  induction turns using List.reverseRecOn with
  | nil => simp [run] at h
  | append_singleton turns turn ih =>
      rw [run_snoc] at h
      rcases List.mem_append.mp h with h | h
      · obtain ⟨before, i, v, after, rfl, hrow⟩ := ih h
        exact ⟨before, i, v, after ++ [turn], by simp, hrow⟩
      · exact ⟨turns, turn.1, turn.2, [], rfl, h⟩

/-- What holds of the cycles and of the rows at all times. -/
structure Sound (fresh : ι → Fresh) (request : ι → CycleRequest) (d : SharedBoard ι) : Prop where
  cycles : ∀ i, (d.cycles i).Sound (fresh i) (request i)
  commands : ∀ i, (d.cycles i).state.CommandsPending
  rows : ∀ command, .command command ∈ d.rows → command.status = .pending

/-- A turn keeps what holds of the cycles and of the rows. -/
theorem Sound.step {d : SharedBoard ι} (h : d.Sound fresh request) (turn : ι × Visit) :
    (d.step rt turn).Sound fresh request := by
  have hmoved := (h.cycles turn.1).step rt turn.2
  have hpending : ((d.cycles turn.1).step rt turn.2).state.CommandsPending :=
    (h.commands turn.1).step (h.cycles turn.1).inRange
  refine ⟨?_, ?_, fun command hmem => ?_⟩
  · exact (Function.forall_update_iff _ fun i c => Cycle.Sound (fresh i) (request i) c).mpr
      ⟨hmoved, fun i _ => h.cycles i⟩
  · exact (Function.forall_update_iff _ fun _ (c : Cycle) => c.state.CommandsPending).mpr
      ⟨hpending, fun i _ => h.commands i⟩
  · rcases List.mem_append.mp hmem with hmem | hmem
    · exact h.rows command hmem
    · exact Cycle.pending_of_stored hmem

theorem sound_run (rt : Runtime) (fresh : ι → Fresh) (request : ι → CycleRequest)
    (turns : List (ι × Visit)) : (run rt fresh request turns).Sound fresh request := by
  induction turns using List.reverseRecOn with
  | nil =>
      refine ⟨fun i => Cycle.sound_start (fresh i) (request i), ?_, ?_⟩
      · intro i command hmem
        simp [run, Cycle.start, buildGraphState] at hmem
      · intro command hmem
        simp [run] at hmem
  | append_singleton turns turn ih =>
      rw [run_snoc]
      exact ih.step turn

/-- No invocation that reports finds commands: none wait for an agent that is
asked and whose blackboard answers. -/
def Idle (rt : Runtime) (fresh : ι → Fresh) (request : ι → CycleRequest)
    (turns : List (ι × Visit)) : Prop :=
  ∀ before i v after, turns = before ++ (i, v) :: after →
    ∀ node, ((run rt fresh request before).cycles i).cursor = .at node →
    ((run rt fresh request before).cycles i).Recalls rt v →
    (∃ report, ((run rt fresh request before).cycles i).report? rt v = some report) →
    inboundCommands node ((run rt fresh request before).cycles i).state.commands = []

/-- A command that was processed would have to change. -/
theorem Lawful.idle (h : Lawful rt fresh request turns) : Idle rt fresh request turns := by
  intro before i v after hturns node hcursor hrecalls hreport
  obtain ⟨report, hreport⟩ := hreport
  have hsound := sound_run rt fresh request before
  have hrange := (hsound.cycles i).inRange
  obtain ⟨node', hcursor', hover, hstatus⟩ := Cycle.visited_of_report hreport hrange
  refine List.eq_nil_iff_forall_not_mem.mpr fun command hmem => ?_
  have hreceived := Cycle.received_of_recalls hcursor hrange hover hrecalls
  have hheld : command ∈ (((run rt fresh request before).cycles i).step rt v).state.commands :=
    (Cycle.appendsTo_step hrange rt v).commands.subset (List.mem_of_mem_filter hmem)
  have hsettled := (h.settled before i v after hturns report hreport command
    (by rw [hreceived]; exact hmem)).1 command hheld rfl
  rw [(hsound.commands i).step hrange command hheld] at hsettled
  rw [← hsettled] at hstatus
  rcases hstatus with h | h <;> contradiction

/-- Where no invocation finds commands, none is processed. -/
theorem Idle.received_eq_nil (h : Idle rt fresh request turns) {before : List (ι × Visit)}
    {i : ι} {v : Visit} {after : List (ι × Visit)} (hturns : turns = before ++ (i, v) :: after)
    {report : AgentExecutionReport}
    (hreport : ((run rt fresh request before).cycles i).report? rt v = some report) :
    ((run rt fresh request before).cycles i).received rt v = [] := by
  refine List.eq_nil_iff_forall_not_mem.mpr fun command hmem => ?_
  obtain ⟨node, hcursor, hrecalls, hinbound⟩ :=
    Cycle.mem_of_received hmem ((sound_run rt fresh request before).cycles i).inRange
  rw [h before i v after hturns node hcursor hrecalls ⟨report, hreport⟩] at hinbound
  contradiction

theorem Idle.processed_eq_nil (h : Idle rt fresh request turns) {before after : List (ι × Visit)}
    (hturns : turns = before ++ after) : (run rt fresh request before).processed = [] := by
  induction before using List.reverseRecOn generalizing after with
  | nil => rfl
  | append_singleton before turn ih =>
      obtain ⟨i, v⟩ := turn
      have hsplit : turns = before ++ (i, v) :: after := by simpa using hturns
      have hnone : ((run rt fresh request before).cycles i).outcomes rt v = [] := by
        unfold Cycle.outcomes
        cases hreport : ((run rt fresh request before).cycles i).report? rt v with
        | none => rfl
        | some report => simp [h.received_eq_nil hsplit hreport]
      rw [run_snoc]
      simp [step, ih hsplit, hnone]

/-- **The condition is enough.** -/
theorem Idle.lawful (h : Idle rt fresh request turns) : Lawful rt fresh request turns where
  settled before i v after hturns report hreport command hmem := by
    rw [h.received_eq_nil hturns hreport] at hmem
    contradiction
  live before i v _ _ command hmem := by
    have hsound := sound_run rt fresh request before
    obtain ⟨node, -, -, hinbound⟩ := Cycle.mem_of_received hmem (hsound.cycles i).inRange
    simp [hsound.commands i command (List.mem_of_mem_filter hinbound)]
  counted before after hturns := by
    rw [h.processed_eq_nil hturns, Blackboard.failedCommands_eq_zero]
    · simp
    · intro command hmem
      obtain ⟨row, hrow, hcommand⟩ := List.mem_filterMap.mp hmem
      cases row with
      | command written =>
          obtain rfl := Option.some.inj hcommand
          simp [(sound_run rt fresh request before).rows written hrow]
      | _ => contradiction

/-- **When commands live by the law.**  Among any number of cycles that share a
blackboard, in whatever order they take their turns and whatever fails: every
command is settled by the invocation that processes it, none is found again
after that, and failures are counted, exactly when no invocation that reports
finds a command in its context. -/
theorem lawful_iff (rt : Runtime) (fresh : ι → Fresh) (request : ι → CycleRequest)
    (turns : List (ι × Visit)) :
    Lawful rt fresh request turns ↔ Idle rt fresh request turns :=
  ⟨Lawful.idle, Idle.lawful⟩

/-- The turns of a single cycle. -/
theorem cycles_run_single (rt : Runtime) (fresh : Fresh) (request : CycleRequest)
    (visits : Nat → Visit) (n : Nat) :
    (run rt (fun _ : Unit => fresh) (fun _ => request)
      ((List.range n).map fun k => ((), visits k))).cycles () =
        Cycle.after rt visits (.start fresh request) n := by
  induction n with
  | zero => rfl
  | succ n ih =>
      rw [List.range_succ, List.map_append, List.map_singleton, run_snoc, Cycle.after, ← ih]
      simp [step]

/-- **An unsettled command.**  Under the mock gateway an undisturbed cycle that is
planned for the security audit alone, and starts with the text of a failure,
leaves the command of the audit as it was. -/
theorem not_lawful_of_lastError {rt : Runtime} {fresh : Fresh} {request : CycleRequest}
    {visits : Nat → Visit}
    (hundisturbed : ∀ n, (Cycle.after rt visits (.start fresh request) n).Undisturbed rt (visits n))
    (hrecalls : ∀ n, (Cycle.after rt visits (.start fresh request) n).Recalls rt (visits n))
    (haligned : blank request.objective.val = false)
    (hplan : Orchestrator.plan? rt (buildGraphState fresh request) = some [.securityAudit])
    (htools : rt.AllowsAudit) (hmocks : rt.settings.models.enableMockLlm = true)
    {lastError : String} (hnonempty : lastError ≠ "")
    (herror : request.metadata.get? "last_error" = some (.str lastError)) :
    ¬ Lawful rt (fun _ : Unit => fresh) (fun _ => request)
      ((List.range 3).map fun k => ((), visits k)) := by
  intro hlawful
  obtain ⟨-, hat, -, command, hmem, htarget⟩ :=
    Cycle.audited_of_lastError hundisturbed haligned hplan htools hmocks hnonempty herror
  have hidle := hlawful.idle ((List.range 2).map fun k => ((), visits k)) () (visits 2) [] rfl
    .orchestrator
  rw [cycles_run_single] at hidle
  have hnone := hidle hat.cursor (hrecalls 2) (Cycle.exists_report_of_undisturbed (hundisturbed 2)
    (Cycle.sound_after rt fresh request visits 2).inRange hat.cursor)
  have hwaits : command ∈ inboundCommands .orchestrator
      (Cycle.after rt visits (.start fresh request) 2).state.commands := by
    refine List.mem_filter.mpr ⟨hmem, ?_⟩
    simp [htarget, Cycle.pending_after 2 command hmem, AgentName.field]
  rw [hnone] at hwaits
  contradiction

/-- On a calm day the orchestrator that finalizes finds a command of the security
audit, which stays as it was. -/
theorem command_unsettled :
    ¬ Lawful Reference.runtime (fun _ : Unit => Reference.fresh)
      (fun _ => triggerAudit Reference.afterFailure)
      ((List.range 3).map fun k => ((), Reference.calm k)) :=
  not_lawful_of_lastError Reference.undisturbed_calm (fun _ => ⟨{}, rfl⟩)
    (aligned_triggerAudit Reference.afterFailure)
    ((plan?_triggerAudit Reference.runtime Reference.fresh Reference.afterFailure).trans
      (by decide)) (by decide) rfl (by decide : "boom" ≠ "") rfl

end SharedBoard

end Gestalt
