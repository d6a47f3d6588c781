import Gestalt.Agents.Access
import Gestalt.Agents.Forms
import Gestalt.Graph.Delivery

/-!
# Gestalt.Graph.Conduct

What the visits of a cycle call.

Beside the calls in its row of the access matrix an invocation recalls memories
for its context and writes the rows its agent produces, and that is all: whatever
is answered and whatever fails, no other call leaves the process.
-/

namespace Gestalt

open Effects Program

/-! ## calls of an invocation -/

/-- The call that writes a row. -/
def Row.call : Row → Call
  | .memory written => .writeMemory written
  | .command written => .writeCommand written
  | .statsReport written => .writeStatsReport written
  | .auditReport written => .writeAuditReport written
  | .proposal written => .writeOptimizationProposal written

/-- The calls granted to an invocation of the agent on the state. -/
inductive Granted (rt : Runtime) (a : AgentName) (s : GestaltGraphState) : Call → Prop where
  | recalls : Granted rt a s (.queryMemory (contextQuery rt s))
  | consults {context : AgentContextEnvelope} {c : Call} (prepared : ContextOf a s context)
      (inRow : Consults rt context a c) : Granted rt a s c
  | writes {row : Row} (written : row.WrittenBy rt a) : Granted rt a s row.call

/-- An event of an invocation: its calls are granted. -/
def Conducted (rt : Runtime) (a : AgentName) (s : GestaltGraphState) (ev : Event Services) :
    Prop :=
  ∀ c, ev.op = .call c → Granted rt a s c

/-- A question that makes no call. -/
def Inward : ServiceOp → Prop
  | .call _ => False
  | _ => True

theorem Inward.conducted {rt : Runtime} {a : AgentName} {s : GestaltGraphState}
    {ev : Event Services} (h : Inward ev.op) : Conducted rt a s ev := by
  intro c hop
  rw [hop] at h
  exact h.elim

section Parts

variable {rt : Runtime} {a : AgentName} {s s' : GestaltGraphState}

/-- A part that makes no call. -/
theorem spec_inward {α : Type} {p : Action α} (hp : p.Asks Inward) :
    Spec (fun _ => True) (Conducted rt a s) s' p (fun _ _ => True) fun _ _ => True :=
  spec_of_asks hp fun _ h => h.conducted

/-- A part that makes no call and leaves the state object alone. -/
theorem Yields.inward {α : Type} {p : Action α} {ok : α → Prop} (h : Yields s' p ok)
    (hp : p.Asks Inward) : Steady (fun _ => True) (Conducted rt a s) True s' p ok :=
  h.asks hp fun _ _ hinward => hinward.conducted

theorem asks_inward_newMessage {traceId : Uuid} {role : GestaltMessageRole}
    {sender recipient : MinStr 2} {content : MinStr 1} {metadata : Dict Value} :
    (newMessage traceId role sender recipient content metadata).Asks Inward :=
  asks_bind (asks_query trivial) fun _ => asks_bind (asks_query trivial) fun _ => asks_pure _

theorem asks_inward_buildInputMessages {context : AgentContextEnvelope} :
    (buildInputMessages rt a context).Asks Inward :=
  asks_read_bind fun _ => asks_bind asks_inward_newMessage fun _ =>
    asks_bind asks_inward_newMessage fun _ => asks_pure _

theorem asks_inward_buildExecutionReport {artifacts : AgentArtifacts} {startedAt : Int}
    {status : CommandStatus} :
    (buildExecutionReport a artifacts startedAt status).Asks Inward := by
  refine asks_read_bind fun state => ?_
  refine asks_bind (asks_query trivial) fun finishedAt => ?_
  refine asks_bind (asks_query trivial) fun reportId => ?_
  split
  · exact asks_pure _
  · exact asks_raise _

theorem asks_inward_recover {startedAt : Int} {e : Exc} :
    (recover rt a startedAt e).Asks Inward :=
  asks_bind asks_inward_buildExecutionReport fun _ => asks_read_bind fun _ => asks_pure _

/-- Every artifact is written by the call of its row. -/
theorem asks_rows {may : ServiceOp → Prop} {artifacts : AgentArtifacts}
    (h : ∀ row ∈ artifacts.rows, may (.call row.call)) : (persistOutputs artifacts).Asks may := by
  have hrow : ∀ row, row ∈ artifacts.rows → (send row.call).Asks may :=
    fun row hrow => asks_send (h row hrow)
  refine asks_bind (asks_forEach fun memory hmem => hrow (.memory memory) ?_) fun _ => ?_
  · simp [AgentArtifacts.rows, hmem]
  refine asks_bind (asks_forEach fun command hmem => hrow (.command command) ?_) fun _ => ?_
  · simp [AgentArtifacts.rows, hmem]
  refine asks_bind (asks_forEach fun report hmem => hrow (.statsReport report) ?_) fun _ => ?_
  · simpa [AgentArtifacts.rows] using hmem
  refine asks_bind (asks_forEach fun report hmem => hrow (.auditReport report) ?_) fun _ => ?_
  · simpa [AgentArtifacts.rows] using hmem
  refine asks_forEach fun proposal hmem => hrow (.proposal proposal) ?_
  simp [AgentArtifacts.rows, hmem]

/-- Recalling memories for the context. -/
theorem spec_recalls : Spec (fun _ => True) (Conducted rt a s) s (prepareContext rt a)
    (fun context s' => s' = s ∧ ContextOf a s context) fun _ _ => True := by
  have hquery : ∀ answer, Conducted rt a s ⟨.call (.queryMemory (contextQuery rt s)), answer⟩ := by
    intro answer c hop
    cases hop
    exact .recalls
  have hsteady : Steady (fun _ => True) (Conducted rt a s) True s (prepareContext rt a)
      (ContextOf a s) :=
    steady_read_bind (steady_bind (steady_send (fun _ _ => trivial) hquery) fun result _ =>
      steady_pure ⟨rfl, rfl, rfl⟩)
  exact Spec.mono hsteady (fun _ _ h => h) fun _ _ _ => trivial

/-- Artifacts in form are written, reported and merged. -/
theorem spec_settles {startedAt : Int} {messages : List GestaltMessage}
    {artifacts : AgentArtifacts} (h : Formed rt a artifacts) :
    Spec (fun _ => True) (Conducted rt a s) s' (complete a startedAt messages artifacts)
      (fun _ _ => True) fun _ _ => True := by
  have hwrites : (persistOutputs artifacts).Asks fun op =>
      ∃ row : Row, row.WrittenBy rt a ∧ op = ServiceOp.call row.call :=
    asks_rows fun row hrow => ⟨row, h.rows row hrow, rfl⟩
  refine Program.spec_bind (spec_of_asks hwrites fun ev hop => ?_) fun _ s'' _ => spec_inward ?_
  · obtain ⟨row, hwritten, hrow⟩ := hop
    intro c hop
    rw [hrow] at hop
    cases hop
    exact .writes hwritten
  · exact asks_bind asks_inward_buildExecutionReport fun _ => asks_read_bind fun _ => asks_pure _

end Parts

/-- **One invocation** makes no call but those granted to it. -/
theorem spec_conducted (rt : Runtime) (node : AgentName) (s : GestaltGraphState) :
    Spec (fun _ => True) (Conducted rt node s) s (run rt (agentAt rt node))
      (fun _ _ => True) fun _ _ => True := by
  have hraise : True → ∀ _ : Exc, True := fun _ _ => trivial
  have hstarted : Steady (fun _ => True) (Conducted rt node s) True s (utcNow .started) _ :=
    Yields.inward (steady_utcNow _) (asks_query trivial)
  refine hstarted.spec_bind hraise fun startedAt _ => ?_
  refine spec_tryCatch (fun _ _ => True) ?_ ?_
  · rw [lifecycle, agentAt_name]
    refine Program.spec_bind spec_recalls fun context s' hpost => ?_
    obtain ⟨rfl, hcontext⟩ := hpost
    have haligned : Steady (fun _ => True) (Conducted rt node s') True s'
        (runAlignmentChecks rt node context) _ :=
      Yields.inward (steady_runAlignmentChecks hcontext fun _ => trivial) asks_runAlignmentChecks
    refine haligned.spec_bind hraise fun _ _ => ?_
    refine (Yields.inward yields_buildInputMessages asks_inward_buildInputMessages).spec_bind
      hraise fun messages _ => ?_
    have hbuilt : Spec (fun _ => True) (Conducted rt node s') s'
        ((agentAt rt node).produceArtifacts context) (fun art _ => Formed rt node art)
        fun _ _ => True := by
      refine (spec_formed rt node context s').asks (asks_builder rt node context) ?_
      intro ev _ hrow c hop
      rw [hop] at hrow
      exact .consults hcontext hrow
    exact Program.spec_bind hbuilt fun art s'' hformed => spec_settles hformed
  · intro e s' _
    exact spec_inward asks_inward_recover

/-! ## runs -/

/-- Every call of the step is granted to the agent at the node. -/
def Cycle.LeastPrivilege (rt : Runtime) (v : Visit) (c : Cycle) : Prop :=
  ∀ ev ∈ c.events rt v, ∀ call, ev.op = .call call →
    ∃ node, c.cursor = .at node ∧ Granted rt node c.state call

/-- The events of a step are those of the run of its node on the state of the
cycle. -/
theorem Cycle.exists_run_of_mem_events {rt : Runtime} {v : Visit} {c : Cycle}
    {ev : Event Services} (hrange : c.state.stats.InRange) (h : ev ∈ c.events rt v) :
    ∃ node, c.cursor = .at node ∧ c.HandsOver v ∧ ev ∈ (c.agentRun rt v node).trace := by
  unfold events at h
  cases hcursor : c.cursor with
  | ended => simp [hcursor] at h
  | crashed e => simp [hcursor] at h
  | «at» node =>
      cases hload : GestaltGraphState.modelValidate v.received c.state.modelDump with
      | error e => simp [hcursor, hload] at h
      | ok s =>
          obtain ⟨rfl, hover⟩ := (modelValidate_modelDump_iff hrange _).mp hload
          simp only [hcursor, hload] at h
          exact ⟨node, rfl, hover, h⟩

/-- What a state in range leads to is granted to the agent whose turn it is. -/
theorem Cycle.leastPrivilege (rt : Runtime) (v : Visit) {c : Cycle}
    (hrange : c.state.stats.InRange) : c.LeastPrivilege rt v := by
  intro ev hev call hop
  obtain ⟨node, hcursor, -, hmem⟩ := exists_run_of_mem_events hrange hev
  exact ⟨node, hcursor,
    (spec_conducted rt node _).emits_of_mem (fun _ _ => trivial) ev hmem call hop⟩

/-- **Least privilege.**  In every run of every cycle, whatever is answered and
whatever fails, each call a step makes is one granted to the agent whose turn it
is: the recall for its context, a call in its row of the access matrix, or the
write of an artifact of its own. -/
theorem Cycle.leastPrivilege_after (rt : Runtime) (fresh : Fresh) (request : CycleRequest)
    (visits : Nat → Visit) (n : Nat) :
    (after rt visits (start fresh request) n).LeastPrivilege rt (visits n) :=
  leastPrivilege rt (visits n) (sound_after rt fresh request visits n).inRange

end Gestalt
