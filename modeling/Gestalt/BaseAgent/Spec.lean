import Gestalt.BaseAgent
import Gestalt.Library.Spec

/-!
# Gestalt.BaseAgent.Spec

What one invocation of an agent can do to the state, whatever its artifact
builder is.

The specifications are stated for an arbitrary restriction `allows` on the
answers and a proposition `mayRaise` that covers every reason to raise, so one
proof serves both for runs in which anything may fail (`mayRaise` is `True`)
and for runs in which nothing does (`mayRaise` is `False`).
-/

namespace Gestalt

open Effects Program

/-! ## events -/

/-- The only command handed to the shell is `text`. -/
def RunsOnly (text : Option String) (ev : Event Services) : Prop :=
  ∀ command cwd timeoutSeconds, ev.op = .call (.bash command cwd timeoutSeconds) →
    text = some command

/-- An event that neither hands a command to the shell nor registers an
approval, and writes no command but a pending one. -/
def Ordinary : Event Services → Prop
  | ⟨.call (.bash _ _ _), _⟩ => False
  | ⟨.call (.approve _), _⟩ => False
  | ⟨.call (.writeCommand command), _⟩ => command.status = .pending
  | _ => True

/-- A restriction on events that only concerns the shell, approvals and the
status of commands. -/
class Permissive (emits : Event Services → Prop) : Prop where
  ordinary : ∀ {ev}, Ordinary ev → emits ev

instance : Permissive fun _ => True := ⟨fun _ => trivial⟩

instance (text : Option String) : Permissive (RunsOnly text) where
  ordinary := by
    intro ev h command cwd timeoutSeconds hop
    obtain ⟨op, answer⟩ := ev
    subst hop
    exact h.elim

/-- Calls `allows` lets fail, and completions it lets come back unparsed, are
covered by `mayRaise`. -/
structure Covers (allows : Event Services → Prop) (mayRaise : Prop) : Prop where
  call : ∀ c e, allows ⟨.call c, .error e⟩ → mayRaise
  parsed : ∀ request responseModel,
    allows ⟨.call (.acompletion request responseModel), .ok none⟩ → mayRaise

/-- Completions `allows` lets fail or come back unparsed are covered. -/
structure CoversCompletions (allows : Event Services → Prop) (mayRaise : Prop) : Prop where
  call : ∀ request responseModel e,
    allows ⟨.call (.acompletion request responseModel), .error e⟩ → mayRaise
  parsed : ∀ request responseModel,
    allows ⟨.call (.acompletion request responseModel), .ok none⟩ → mayRaise

theorem Covers.completions {allows : Event Services → Prop} {mayRaise : Prop}
    (h : Covers allows mayRaise) : CoversCompletions allows mayRaise :=
  ⟨fun _ _ => h.call _, h.parsed⟩

/-- Anything may be answered when anything may raise. -/
theorem covers_true (allows : Event Services → Prop) : Covers allows True :=
  ⟨fun _ _ _ => trivial, fun _ _ _ => trivial⟩

/-! ## completions -/

/-- Whether the gateway answers the agent from the mock payload. -/
def Runtime.mocks (rt : Runtime) (a : AgentName) (stats : GestaltStats) : Bool :=
  rt.settings.models.mocks
    (rt.settings.models.selectModel stats (some (rt.settings.policy a).modelPreference.value))

/-- A reply of the gateway: the mock payload, or what the provider answered. -/
def Replied (allows : Event Services → Prop) (rt : Runtime) (a : AgentName) (stats : GestaltStats)
    (responseModel : ResponseModel) (mock : Except Exc responseModel.Reply)
    (reply : responseModel.Reply) : Prop :=
  (rt.mocks a stats = true ∧ mock = .ok reply) ∨
  (rt.mocks a stats = false ∧
    ∃ request, allows ⟨.call (.acompletion request responseModel), .ok (some reply)⟩)

/-! ## services -/

section Services

variable {allows : Event Services → Prop} {mayRaise : Prop} {s : GestaltGraphState}
variable {emits : Event Services → Prop} [Permissive emits]

theorem steady_utcNow (site : ClockSite) :
    Steady allows emits mayRaise s (utcNow site)
      fun now => allows ⟨.utcNow site, now⟩ :=
  steady_query fun _ _ => Permissive.ordinary trivial

theorem steady_uuid4 : Steady allows emits mayRaise s uuid4 fun _ => True :=
  Steady.mono (steady_query fun _ _ => Permissive.ordinary trivial) fun _ _ => trivial

omit [Permissive emits] in
/-- A call returns an allowed reply. -/
theorem steady_send {c : Call} (hfails : ∀ e, allows ⟨.call c, .error e⟩ → mayRaise)
    (hc : ∀ answer, emits ⟨.call c, answer⟩) :
    Steady allows emits mayRaise s (send c) fun reply => allows ⟨.call c, .ok reply⟩ := by
  refine steady_bind (steady_query fun answer _ => hc answer) fun answer hallowed => ?_
  refine steady_ofExcept (fun reply hreply => ?_) fun e he => ?_
  · rw [← hreply]
    exact hallowed
  · subst he
    exact hfails e hallowed

/-- A structured completion returns the mock reply, or the one of the provider. -/
theorem steady_completeStructured (hcovers : CoversCompletions allows mayRaise) {rt : Runtime}
    {a : AgentName} {userPrompt : String} {responseModel : ResponseModel} {stats : GestaltStats}
    {mock : Except Exc responseModel.Reply}
    (hmock : rt.mocks a stats = true → ∀ e, mock = .error e → mayRaise) :
    Steady allows emits mayRaise s
      (completeStructured rt a userPrompt responseModel stats mock)
      (Replied allows rt a stats responseModel mock) := by
  unfold completeStructured
  dsimp only
  split
  · next h => exact steady_ofExcept (fun _ hreply => Or.inl ⟨h, hreply⟩) (hmock h)
  · next h =>
      refine steady_bind (steady_send (hcovers.call _ _) fun _ => Permissive.ordinary trivial)
        fun parsed hparsed => ?_
      cases parsed with
      | none => exact steady_raise (hcovers.parsed _ _ hparsed)
      | some reply => exact steady_pure (Or.inr ⟨eq_false_of_ne_true h, _, hparsed⟩)

omit [Permissive emits] in
/-- A tool returns only to an agent whose allowlist names it. -/
theorem steady_executeAllowed {α : Type} {rt : Runtime} {a : AgentName} {toolName : String}
    {tool : Action α} {ok : α → Prop}
    (hallowed : toolName ∉ (rt.settings.policy a).toolAllowlist → mayRaise)
    (htool : Steady allows emits mayRaise s tool ok) :
    Steady allows emits mayRaise s (executeAllowed rt a toolName tool)
      fun r => ok r ∧ toolName ∈ (rt.settings.policy a).toolAllowlist := by
  unfold executeAllowed
  split
  · next h => exact htool.mono fun _ hr => ⟨hr, h⟩
  · next h => exact steady_raise (hallowed h)

theorem steady_newMessage {traceId : Uuid} {role : GestaltMessageRole}
    {sender recipient : MinStr 2} {content : MinStr 1} {metadata : Dict Value} :
    Steady allows emits mayRaise s
      (newMessage traceId role sender recipient content metadata)
      fun message => message.traceId = traceId :=
  steady_bind steady_uuid4 fun _ _ => steady_bind (steady_utcNow _) fun _ _ => steady_pure rfl

end Services

/-! ## the parts of the lifecycle -/

/-- What the context of an invocation takes from the state. -/
structure ContextOf (a : AgentName) (s : GestaltGraphState) (context : AgentContextEnvelope) :
    Prop where
  traceId : context.traceId = s.traceId
  objective : context.objective = s.objective
  inbound : context.inboundCommands = inboundCommands a s.commands

/-- What a report says about the invocation it reports. -/
structure ReportOf (a : AgentName) (status : CommandStatus) (artifacts : AgentArtifacts)
    (s : GestaltGraphState) (report : AgentExecutionReport) : Prop where
  traceId : report.traceId = s.traceId
  agentName : report.agentName = a.field
  status_eq : report.status = status
  summary : report.summary = artifacts.summary
  commands : report.emittedCommands = artifacts.commands
  memories : report.emittedMemories = artifacts.memories

section Parts

variable {allows : Event Services → Prop} {mayRaise : Prop} {s : GestaltGraphState}
variable {emits : Event Services → Prop} [Permissive emits] {rt : Runtime} {a : AgentName}

theorem steady_prepareContext
    (hquery : ∀ q e, allows ⟨.call (.queryMemory q), .error e⟩ → mayRaise) :
    Steady allows emits mayRaise s (prepareContext rt a) (ContextOf a s) := by
  refine steady_read_bind ?_
  refine steady_bind (steady_send (hquery _) fun _ => Permissive.ordinary trivial)
    fun result _ => ?_
  exact steady_pure ⟨rfl, rfl, rfl⟩

omit [Permissive emits] in
/-- Alignment fails only on a blank objective: every agent is configured and
the context has the trace id of the state. -/
theorem steady_runAlignmentChecks {context : AgentContextEnvelope}
    (hcontext : ContextOf a s context) (hblank : blank s.objective.val = true → mayRaise) :
    Steady allows emits mayRaise s (runAlignmentChecks rt a context)
      fun _ => blank s.objective.val = false := by
  refine steady_read_bind ?_
  have hconfigured : rt.settings.agents.contains a.name = true := rt.settings.validate_agents a
  rw [hcontext.objective, hcontext.traceId]
  cases hb : blank s.objective.val with
  | true =>
      rw [if_pos rfl]
      exact steady_raise (hblank hb)
  | false =>
      rw [if_neg Bool.false_ne_true, if_neg (not_not_intro hconfigured), if_neg (not_not_intro rfl)]
      exact steady_pure rfl

theorem steady_buildInputMessages {context : AgentContextEnvelope}
    (hcontext : ContextOf a s context) :
    Steady allows emits mayRaise s (buildInputMessages rt a context)
      fun messages => ∀ m ∈ messages, m.traceId = s.traceId := by
  refine steady_read_bind ?_
  refine steady_bind steady_newMessage fun system hsystem => ?_
  refine steady_bind steady_newMessage fun task htask => ?_
  refine steady_pure ?_
  simp [hsystem, htask, hcontext.traceId]

/-- Every command among the artifacts is pending. -/
def AgentArtifacts.IssuesPending (artifacts : AgentArtifacts) : Prop :=
  ∀ command ∈ artifacts.commands, command.status = .pending

theorem AgentArtifacts.issuesPending_of_nil {artifacts : AgentArtifacts}
    (h : artifacts.commands = []) : artifacts.IssuesPending := by
  simp [IssuesPending, h]

/-- Persisting raises only what a write raises. -/
theorem steady_persistOutputs_of_calls (hfails : ∀ c e, allows ⟨.call c, .error e⟩ → mayRaise)
    {artifacts : AgentArtifacts} (hcommands : ∀ command ∈ artifacts.commands,
      ∀ answer, emits ⟨.call (.writeCommand command), answer⟩) :
    Steady allows emits mayRaise s (persistOutputs artifacts) fun _ => True := by
  have hwrite : ∀ {β : Type} (xs : List β) (f : β → Action Unit),
      (∀ x, Steady allows emits mayRaise s (f x) fun _ => True) →
      Steady allows emits mayRaise s (forEach f xs) fun _ => True :=
    fun xs f hf => steady_forEach fun x _ => hf x
  have hsend : ∀ {c : Call}, (∀ answer, emits ⟨.call c, answer⟩) →
      Steady allows emits mayRaise s (send c) fun _ => True :=
    fun hc => (steady_send (hfails _) hc).mono fun _ _ => trivial
  refine steady_bind (hwrite _ _ fun _ => hsend fun _ => Permissive.ordinary trivial) fun _ _ => ?_
  refine steady_bind (steady_forEach fun command hmem => hsend (hcommands command hmem))
    fun _ _ => ?_
  refine steady_bind (hwrite _ _ fun _ => hsend fun _ => Permissive.ordinary trivial) fun _ _ => ?_
  refine steady_bind (hwrite _ _ fun _ => hsend fun _ => Permissive.ordinary trivial) fun _ _ => ?_
  exact hwrite _ _ fun _ => hsend fun _ => Permissive.ordinary trivial

theorem steady_persistOutputs (hcovers : Covers allows mayRaise) {artifacts : AgentArtifacts}
    (hpending : artifacts.IssuesPending) :
    Steady allows emits mayRaise s (persistOutputs artifacts) fun _ => True :=
  steady_persistOutputs_of_calls hcovers.call fun command hmem _ =>
    Permissive.ordinary (hpending command hmem)

/-- A report is rejected only when the clock stepped back. -/
theorem steady_buildExecutionReport {artifacts : AgentArtifacts} {startedAt : Int}
    {status : CommandStatus}
    (hclock : ∀ now, allows ⟨.utcNow (.finished startedAt), now⟩ → startedAt ≤ now ∨ mayRaise) :
    Steady allows emits mayRaise s (buildExecutionReport a artifacts startedAt status)
      fun report => ReportOf a status artifacts s report ∧ report.startedAt = startedAt ∧
        allows ⟨.utcNow (.finished startedAt), report.finishedAt⟩ := by
  refine steady_read_bind ?_
  refine steady_bind (steady_utcNow _) fun finishedAt hfinished => ?_
  refine steady_bind steady_uuid4 fun reportId _ => ?_
  split
  · exact steady_pure ⟨⟨rfl, rfl, rfl, rfl, rfl, rfl⟩, rfl, hfinished⟩
  · next h => exact steady_raise ((hclock _ hfinished).resolve_left h)

end Parts

/-! ## one invocation -/

/-- The state a completed invocation returns, where its builder left the state
object `s` and returned `artifacts`. -/
def CompletedAs (a : AgentName) (s : GestaltGraphState) (artifacts : AgentArtifacts)
    (out : GestaltGraphState) : Prop :=
  ∃ messages report, (∀ m ∈ messages, m.traceId = s.traceId) ∧
    ReportOf a .completed artifacts s report ∧
    out = applyStateUpdate s (messages ++ artifacts.messages) artifacts report

/-- The state a failed invocation returns, where the exception left the state
object `s`. -/
def FailedAs (rt : Runtime) (a : AgentName) (s out : GestaltGraphState) : Prop :=
  ∃ e report, ReportOf a .failed (failureArtifacts rt a e) s report ∧
    out = { applyStateUpdate s [] (failureArtifacts rt a e) report with
      metadata := s.metadata.set "last_error" (.str (rt.excText e)) }

/-- The state an invocation returns that failed with the exception `e`. -/
def FailedWith (rt : Runtime) (a : AgentName) (e : Exc) (s out : GestaltGraphState) : Prop :=
  ∃ report, ReportOf a .failed (failureArtifacts rt a e) s report ∧
    out = { applyStateUpdate s [] (failureArtifacts rt a e) report with
      metadata := s.metadata.set "last_error" (.str (rt.excText e)) }

theorem FailedWith.failedAs {rt : Runtime} {a : AgentName} {e : Exc} {s out : GestaltGraphState}
    (h : FailedWith rt a e s out) : FailedAs rt a s out :=
  ⟨e, h⟩

/-- The clock read the times of the last report when the invocation started and
when its report was built. -/
def Timed (allows : Event Services → Prop) (out : GestaltGraphState) : Prop :=
  ∃ report, out.executionReports.getLast? = some report ∧
    allows ⟨.utcNow .started, report.startedAt⟩ ∧
    allows ⟨.utcNow (.finished report.startedAt), report.finishedAt⟩

section Run

variable {allows : Event Services → Prop} {mayFail mayRaise : Prop} {s : GestaltGraphState}
variable {emits : Event Services → Prop} [Permissive emits] {rt : Runtime} {agent : Agent}

/-- The rest of the invocation once the builder returned. -/
theorem spec_complete (hcovers : Covers allows mayFail) {startedAt : Int}
    (hstarted : allows ⟨.utcNow .started, startedAt⟩)
    (hclock : ∀ now, allows ⟨.utcNow (.finished startedAt), now⟩ → startedAt ≤ now ∨ mayFail)
    {messages : List GestaltMessage} {artifacts : AgentArtifacts} {a : AgentName}
    (hmessages : ∀ m ∈ messages, m.traceId = s.traceId) (hpending : artifacts.IssuesPending) :
    Steady allows emits mayFail s (complete a startedAt messages artifacts)
      fun out => CompletedAs a s artifacts out ∧ Timed allows out := by
  refine steady_bind (steady_persistOutputs hcovers hpending) fun _ _ => ?_
  refine steady_bind (steady_buildExecutionReport hclock) fun report hbuilt => ?_
  obtain ⟨hreport, rfl, hfinished⟩ := hbuilt
  refine steady_read_bind ?_
  exact steady_pure ⟨⟨messages, report, hmessages, hreport, rfl⟩, report,
    by simp [applyStateUpdate], hstarted, hfinished⟩

/-- The `except` branch reports the failure, unless the clock stepped back. -/
theorem spec_recover {startedAt : Int} {a : AgentName}
    (hstarted : allows ⟨.utcNow .started, startedAt⟩)
    (hclock : ∀ now, allows ⟨.utcNow (.finished startedAt), now⟩ → startedAt ≤ now ∨ mayRaise)
    (e : Exc) :
    Spec allows emits s (recover rt a startedAt e)
      (fun out s' => s' = s ∧ FailedWith rt a e s out ∧ Timed allows out) fun _ _ => mayRaise := by
  refine Steady.spec_bind (steady_buildExecutionReport hclock) (fun h _ => h)
    fun report hbuilt => ?_
  obtain ⟨hreport, rfl, hfinished⟩ := hbuilt
  refine spec_read_bind ?_
  exact spec_pure ⟨rfl, ⟨report, hreport, rfl⟩, report, by simp [applyStateUpdate], hstarted,
    hfinished⟩

/-- The body of the `try`.  Let the builder leave the state object in a state
`reached` holds of, and return only artifacts `done` holds of.  Then the body
returns the completed update of such a state, the objective being aligned. -/
theorem spec_lifecycle (reached : GestaltGraphState → Prop)
    (done : AgentArtifacts → GestaltGraphState → Prop) (hcovers : Covers allows mayFail)
    {startedAt : Int} (hstarted : allows ⟨.utcNow .started, startedAt⟩)
    (hclock : ∀ now, allows ⟨.utcNow (.finished startedAt), now⟩ → startedAt ≤ now ∨ mayFail)
    (hblank : blank s.objective.val = true → mayFail)
    (hreached : reached s)
    (hbuilder : ∀ context, ContextOf agent.name s context → blank s.objective.val = false →
      Spec allows emits s (agent.produceArtifacts context) done
        fun _ s' => reached s' ∧ mayFail)
    (hdone : ∀ artifacts s', done artifacts s' →
      reached s' ∧ s'.traceId = s.traceId ∧ artifacts.IssuesPending) :
    Spec allows emits s (lifecycle rt agent startedAt)
      (fun out s' => Timed allows out ∧ blank s.objective.val = false ∧
        ∃ artifacts, done artifacts s' ∧ CompletedAs agent.name s' artifacts out)
      fun _ s' => reached s' ∧ mayFail := by
  have herr : mayFail → ∀ _ : Exc, reached s ∧ mayFail := fun h _ => ⟨hreached, h⟩
  refine Steady.spec_bind (steady_prepareContext fun _ => hcovers.call _) herr
    fun context hcontext => ?_
  refine Steady.spec_bind (steady_runAlignmentChecks hcontext hblank) herr fun _ haligned => ?_
  refine Steady.spec_bind (steady_buildInputMessages hcontext) herr fun messages hmessages => ?_
  refine Program.spec_bind (hbuilder context hcontext haligned) fun artifacts s' hartifacts => ?_
  obtain ⟨hreached', htrace, hpending⟩ := hdone artifacts s' hartifacts
  refine Spec.mono (spec_complete hcovers hstarted hclock ?_ hpending) ?_ ?_
  · exact fun m hm => (hmessages m hm).trans htrace.symm
  · intro out _ hpost
    obtain ⟨rfl, hout, htimed⟩ := hpost
    exact ⟨htimed, haligned, artifacts, hartifacts, hout⟩
  · intro e _ hpost
    obtain ⟨rfl, hfail⟩ := hpost
    exact ⟨hreached', hfail⟩

/-- **One invocation.**  It returns the completed update of a state the builder
left, or, where something failed, the failed one, with the times the clock
read; it raises only when the clock stepped back. -/
theorem spec_run (reached : GestaltGraphState → Prop)
    (done : AgentArtifacts → GestaltGraphState → Prop) (hcovers : Covers allows mayFail)
    (hclock : ∀ startedAt now, allows ⟨.utcNow (.finished startedAt), now⟩ →
      startedAt ≤ now ∨ (mayFail ∧ mayRaise))
    (hblank : blank s.objective.val = true → mayFail)
    (hreached : reached s)
    (hbuilder : ∀ context, ContextOf agent.name s context → blank s.objective.val = false →
      Spec allows emits s (agent.produceArtifacts context) done
        fun _ s' => reached s' ∧ mayFail)
    (hdone : ∀ artifacts s', done artifacts s' →
      reached s' ∧ s'.traceId = s.traceId ∧ artifacts.IssuesPending) :
    Spec allows emits s (run rt agent)
      (fun out s' => Timed allows out ∧
        ((blank s.objective.val = false ∧
          ∃ artifacts, done artifacts s' ∧ CompletedAs agent.name s' artifacts out) ∨
        (mayFail ∧ reached s' ∧ FailedAs rt agent.name s' out)))
      fun _ _ => mayRaise := by
  have hstart : Steady allows emits (mayFail ∧ mayRaise) s (utcNow .started) _ :=
    steady_utcNow _
  refine hstart.spec_bind (fun h _ => h.2) fun startedAt hstarted => ?_
  refine spec_tryCatch (fun _ s' => reached s' ∧ mayFail) (Spec.mono
    (spec_lifecycle reached done hcovers hstarted
      (fun now h => (hclock startedAt now h).imp_right And.left) hblank hreached hbuilder hdone)
    ?_ fun _ _ h => h) ?_
  · intro out _ hpost
    obtain ⟨htimed, hout⟩ := hpost
    exact ⟨htimed, Or.inl hout⟩
  · -- the `except` branch
    intro e s' hpost
    obtain ⟨hreached', hfail⟩ := hpost
    refine Spec.mono (spec_recover hstarted
      (fun now h => (hclock startedAt now h).imp_right And.right) e) ?_ fun _ _ h => h
    intro out _ hpost
    obtain ⟨rfl, hout, htimed⟩ := hpost
    exact ⟨htimed, Or.inr ⟨hfail, hreached', hout.failedAs⟩⟩

/-- An invocation whose blackboard query fails reports the failure. -/
theorem spec_run_unavailable (hquery : ∀ q r, ¬ allows ⟨.call (.queryMemory q), .ok r⟩)
    (hclock : ∀ startedAt now, allows ⟨.utcNow (.finished startedAt), now⟩ → startedAt ≤ now) :
    Spec allows emits s (run rt agent)
      (fun out _ => FailedAs rt agent.name s out) fun _ _ => False := by
  have hstarted : Steady allows emits False s (utcNow .started) _ := steady_utcNow _
  refine hstarted.spec_bind (fun h _ => h.elim) fun startedAt hread => ?_
  refine spec_tryCatch (fun _ s' => s' = s) ?_ ?_
  · have hcontext : Steady allows emits True s (prepareContext rt agent.name)
        fun _ => False := by
      refine steady_read_bind ?_
      refine steady_bind (steady_send (fun _ _ => trivial) fun _ => Permissive.ordinary trivial)
        fun result hresult => ?_
      exact (hquery _ _ hresult).elim
    exact Steady.spec_bind hcontext (fun _ _ => rfl) fun _ h => h.elim
  · intro e _ heq
    obtain rfl := heq
    exact Spec.mono (spec_recover hread (fun now h => Or.inl (hclock startedAt now h)) e)
      (fun _ _ h => h.2.1.failedAs) fun _ _ h => h

/-- An invocation during which the clock steps back raises. -/
theorem spec_run_steppedBack
    (hclock : ∀ startedAt now, allows ⟨.utcNow (.finished startedAt), now⟩ → now < startedAt)
    (hbuilder : ∀ context, ContextOf agent.name s context →
      Spec allows emits s (agent.produceArtifacts context)
        (fun artifacts _ => artifacts.IssuesPending) fun _ _ => True) :
    Spec allows emits s (run rt agent) (fun _ _ => False) fun _ _ => True := by
  have hreport : ∀ {s artifacts startedAt status}, Steady allows emits True s
      (buildExecutionReport agent.name artifacts startedAt status) fun _ => False := by
    intro s artifacts startedAt status
    refine steady_read_bind ?_
    refine steady_bind (steady_utcNow _) fun finishedAt hfinished => ?_
    refine steady_bind steady_uuid4 fun reportId _ => ?_
    split
    · next h => exact absurd h (Int.not_le.mpr (hclock _ _ hfinished))
    · exact steady_raise trivial
  have hraise : True → ∀ _ : Exc, True := fun _ _ => trivial
  have hstarted : Steady allows emits True s (utcNow .started) _ := steady_utcNow _
  refine hstarted.spec_bind hraise fun startedAt _ => ?_
  refine spec_tryCatch (fun _ _ => True) ?_ ?_
  · refine Steady.spec_bind (steady_prepareContext fun _ _ _ => trivial) hraise
      fun context hcontext => ?_
    refine Steady.spec_bind (steady_runAlignmentChecks hcontext fun _ => trivial) hraise
      fun _ _ => ?_
    refine Steady.spec_bind (steady_buildInputMessages hcontext) hraise fun messages _ => ?_
    refine Program.spec_bind (hbuilder context hcontext) fun artifacts s' hpending => ?_
    refine Steady.spec_bind (steady_persistOutputs (covers_true allows) hpending) hraise
      fun _ _ => ?_
    exact Steady.spec_bind hreport hraise fun _ h => h.elim
  · intro e s' _
    exact Steady.spec_bind hreport hraise fun _ h => h.elim

end Run

end Gestalt
