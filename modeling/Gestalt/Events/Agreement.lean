import Gestalt.Events.Safety
import Gestalt.Reference

/-!
# Gestalt.Events.Agreement

The two backends side by side.

Both buses are driven with the same sequence of approve and publish calls, at
the same clock readings; the Redis bus is initialized first and Redis executes
every command.  Both then hold the same approvals, so each publish call is
decided by the same table, and the verdicts differ exactly where the two
copies of `_validate_event` do: the Redis copy compares neither the source nor
the target of the approval with the event's.
-/

namespace Gestalt

open Effects Register

namespace MemoryEventBus

/-- After the calls `before`, a publish of `event` at the reading `now` is
accepted. -/
def Accepts (before : List BusCall) (event : GestaltEvent) (now : Int) : Prop :=
  (perform (publish event now) (replay (before.map .call))).1 = .ok event

end MemoryEventBus

namespace RedisEventBus

/-- A Redis server that executes every command it is sent. -/
def executing (replies : Nat → (c : RedisCommand) → c.Reply) : Surroundings Redis :=
  fun n c => .ok (replies n c)

/-- One call of a sequence; the caller goes on after an exception. -/
def serve : BusCall → Operation Unit
  | .approve approval => (approve approval >>= fun _ => pure ()).tryCatch fun _ => pure ()
  | .publish event now => (publish event now >>= fun _ => pure ()).tryCatch fun _ => pure ()

/-- An initialized bus after a sequence of calls. -/
def session (calls : List BusCall) : Operation Unit := do
  initializeClient
  Program.forEach serve calls

/-- After the calls `before`, a publish of `event` at the reading `now` is
accepted. -/
def Accepts (config : EventConfig) (replies : Nat → (c : RedisCommand) → c.Reply)
    (before : List BusCall) (event : GestaltEvent) (now : Int) : Prop :=
  ((session before >>= fun _ => publish event now).run (executing replies)
    { config := config }).result = .ok event

/-! ## one operation -/

/-- Redis executed the command. -/
def Executed (ev : Event Redis) : Prop := ∃ reply, ev.answer = .ok reply

theorem executed_of_executing {α : Type} (p : Operation α)
    (replies : Nat → (c : RedisCommand) → c.Reply) (bus : RedisEventBus) :
    ∀ ev ∈ (p.run (executing replies) bus).trace, Executed ev := by
  intro ev hev
  obtain ⟨n, hn⟩ := Program.answer_of_mem_trace p (executing replies) bus ev hev
  rw [hn]
  exact ⟨replies n ev.op, rfl⟩

/-- A command that is executed returns some reply. -/
theorem wp_sendCommand {c : RedisCommand} {ok : c.Reply → RedisEventBus → List (Event Redis) → Prop}
    {err : BusError → RedisEventBus → List (Event Redis) → Prop} {bus : RedisEventBus}
    {t : List (Event Redis)} (h : ∀ reply, ok reply bus (t ++ [⟨c, .ok reply⟩])) :
    Program.wp Executed (sendCommand c) ok err bus t := by
  intro answer hexecuted
  change Program.wp Executed (Program.ofExcept answer) ok err bus _
  cases answer with
  | error e =>
      obtain ⟨reply, hreply⟩ := hexecuted
      contradiction
  | ok reply => exact h reply

/-- The checks of `_validate_event`, in the order the code makes them. -/
def Admits (bus : RedisEventBus) (event : GestaltEvent) (now : Int) : Prop :=
  event.eventType = .peerSignal → ∃ approvalId ∈ event.approvalId,
    ∃ approval, bus.approvals.get? approvalId = some approval ∧ now < approval.expiresAt ∧
      approval.permittedEvent = .peerSignal

/-- `_validate_event` never touches the bus, and returns exactly when the
checks pass. -/
theorem wp_validateEvent (bus : RedisEventBus) (event : GestaltEvent) (now : Int)
    (t : List (Event Redis)) :
    Program.wp Executed (validateEvent event now)
      (fun _ bus' _ => bus' = bus ∧ Admits bus event now)
      (fun _ bus' _ => bus' = bus ∧ ¬ Admits bus event now) bus t := by
  by_cases ht : event.eventType = .peerSignal
  · cases hid : event.approvalId with
    | none => simp [validateEvent, Admits, ht, hid]
    | some approvalId =>
        cases ha : bus.approvals.get? approvalId with
        | none => simp [validateEvent, Admits, ht, hid, ha]
        | some approval =>
            by_cases h1 : approval.expiresAt ≤ now
            · simp [validateEvent, Admits, ht, hid, ha, h1, Int.not_lt.mpr h1]
            by_cases h2 : approval.permittedEvent = .peerSignal
            · simp [validateEvent, Admits, ht, hid, ha, h1, h2, Int.not_le.mp h1]
            · simp [validateEvent, Admits, ht, hid, ha, h1, h2]
  · simp [validateEvent, Admits, ht]

/-- A connected bus publishes exactly the events it admits. -/
theorem wp_publish {bus : RedisEventBus} (hbus : bus.connected = true) (event : GestaltEvent)
    (now : Int) (t : List (Event Redis)) :
    Program.wp Executed (publish event now)
      (fun published bus' _ => published = event ∧ bus' = bus ∧ Admits bus event now)
      (fun _ bus' _ => bus' = bus ∧ ¬ Admits bus event now) bus t := by
  rw [publish, Program.wp_bind]
  refine Program.wp_mono ?_ (fun _ _ _ h => h) (wp_validateEvent bus event now t)
  intro _ _ t hpost
  obtain ⟨rfl, hadmits⟩ := hpost
  simp only [Program.wp_bind, Program.wp_read, hbus, if_true]
  exact wp_sendCommand fun _ => ⟨rfl, rfl, hadmits⟩

/-- A connected bus registers an approval locally. -/
theorem wp_approve {bus : RedisEventBus} (hbus : bus.connected = true) (approval : EventApproval)
    (t : List (Event Redis)) :
    Program.wp Executed (approve approval)
      (fun _ bus' _ =>
        bus' = { bus with approvals := bus.approvals.set approval.approvalId approval })
      (fun _ _ _ => False) bus t := by
  simp only [approve, Program.wp_bind, Program.wp_modify, Program.wp_read, hbus, if_true]
  exact wp_sendCommand fun _ => rfl

/-! ## whole sequences -/

/-- The bus is connected and its table is the register of the calls so far. -/
def Registered (calls : List BusCall) (bus : RedisEventBus) : Prop :=
  bus.connected = true ∧
    bus.approvals = Register.replay ((calls.map BusOp.call).map BusOp.write)

/-- One call keeps the table the register of the calls. -/
theorem wp_serve {done : List BusCall} {bus : RedisEventBus} (h : Registered done bus)
    (c : BusCall) (t : List (Event Redis)) :
    Program.wp Executed (serve c) (fun _ bus' _ => Registered (done ++ [c]) bus')
      (fun _ _ _ => False) bus t := by
  obtain ⟨hbus, htable⟩ := h
  cases c with
  | approve approval =>
      rw [serve, Program.wp_tryCatch, Program.wp_bind]
      refine Program.wp_mono ?_ (fun _ _ _ h => h.elim) (wp_approve hbus approval t)
      intro _ _ _ heq
      obtain rfl := heq
      exact ⟨hbus, by simp [htable, replay_snoc, BusOp.write, Write.apply]⟩
  | publish event now =>
      have hkept : Registered (done ++ [.publish event now]) bus :=
        ⟨hbus, by simp [htable, replay_snoc, BusOp.write, Write.apply]⟩
      rw [serve, Program.wp_tryCatch, Program.wp_bind]
      refine Program.wp_mono ?_ ?_ (wp_publish hbus event now t)
      · intro _ _ _ hpost
        obtain ⟨-, rfl, -⟩ := hpost
        exact hkept
      · intro _ _ _ hpost
        obtain ⟨rfl, -⟩ := hpost
        exact hkept

/-- A session leaves the register of its calls. -/
theorem wp_session (config : EventConfig) (calls : List BusCall) (t : List (Event Redis)) :
    Program.wp Executed (session calls) (fun _ bus _ => Registered calls bus)
      (fun _ _ _ => False) { config := config } t := by
  simp only [session, initializeClient, Program.wp_bind, Program.wp_modify]
  refine wp_sendCommand fun _ => ?_
  -- the invariant of the loop: what is done so far, followed by what is left
  refine Program.wp_mono ?_ (fun _ _ _ h => h) (Program.wp_forEach
    (fun left bus _ => ∃ done, done ++ left = calls ∧ Registered done bus) ?_ calls
    ⟨[], rfl, rfl, rfl⟩)
  · intro _ _ _ hpost
    obtain ⟨done, rfl, hreg⟩ := hpost
    simpa using hreg
  · intro c left bus t hpost
    obtain ⟨done, rfl, hreg⟩ := hpost
    refine Program.wp_mono ?_ (fun _ _ _ h => h) (wp_serve hreg c t)
    exact fun _ _ _ hreg' => ⟨done ++ [c], by simp, hreg'⟩

/-- The bus holds exactly the approvals in force. -/
theorem Registered.get?_iff {calls : List BusCall} {bus : RedisEventBus}
    (h : Registered calls bus) {approvalId : Uuid} {approval : EventApproval} :
    bus.approvals.get? approvalId = some approval ↔
      ApprovalInForce (calls.map .call) approvalId approval := by
  rw [h.2, get?_replay_iff, ApprovalInForce]

/-- A peer signal presents an approval that is in force, unexpired and permits
peer signals, whoever it was issued to. -/
def Presents (before : List BusCall) (event : GestaltEvent) (now : Int)
    (approval : EventApproval) : Prop :=
  event.approvalId = some approval.approvalId ∧
    ApprovalInForce (before.map .call) approval.approvalId approval ∧
    now < approval.expiresAt ∧ approval.permittedEvent = .peerSignal

/-- A publish is accepted exactly when its event is no peer signal or presents
an approval. -/
theorem accepts_iff {config : EventConfig} {replies : Nat → (c : RedisCommand) → c.Reply}
    {before : List BusCall} {event : GestaltEvent} {now : Int} :
    Accepts config replies before event now ↔
      (event.eventType = .peerSignal → ∃ approval, Presents before event now approval) := by
  have hadmits : ∀ bus, Registered before bus → (Admits bus event now ↔
      (event.eventType = .peerSignal → ∃ approval, Presents before event now approval)) := by
    intro bus hreg
    refine imp_congr_right fun _ => ⟨?_, ?_⟩
    · intro h
      obtain ⟨approvalId, hid, approval, ha, hnow, hperm⟩ := h
      have hforce := hreg.get?_iff.mp ha
      obtain ⟨_, _, _, rfl, _⟩ := approvalInForce_iff.mp hforce
      exact ⟨approval, hid, hforce, hnow, hperm⟩
    · intro h
      obtain ⟨approval, hid, hforce, hnow, hperm⟩ := h
      exact ⟨_, hid, approval, hreg.get?_iff.mpr hforce, hnow, hperm⟩
  have hwp : Program.wp Executed (session before >>= fun _ => publish event now)
      (fun published bus _ => published = event ∧ Registered before bus ∧ Admits bus event now)
      (fun _ bus _ => Registered before bus ∧ ¬ Admits bus event now) { config := config } [] := by
    rw [Program.wp_bind]
    refine Program.wp_mono ?_ (fun _ _ _ h => h.elim) (wp_session config before [])
    intro _ bus t hreg
    refine Program.wp_mono ?_ ?_ (wp_publish hreg.1 event now t)
    · intro _ _ _ hpost
      obtain ⟨rfl, rfl, h⟩ := hpost
      exact ⟨rfl, hreg, h⟩
    · intro _ _ _ hpost
      obtain ⟨rfl, h⟩ := hpost
      exact ⟨hreg, h⟩
  have hmeets := Program.wp_run hwp (executed_of_executing _ replies _)
  unfold Accepts
  cases hr : ((session before >>= fun _ => publish event now).run (executing replies)
      { config := config }).result with
  | ok published =>
      simp only [Program.Meets, hr] at hmeets
      obtain ⟨rfl, hreg, h⟩ := hmeets
      simpa using (hadmits _ hreg).mp h
  | error e =>
      simp only [Program.Meets, hr] at hmeets
      obtain ⟨hreg, h⟩ := hmeets
      simpa using fun h' => h ((hadmits _ hreg).mpr h')

end RedisEventBus

/-! ## where the backends agree -/

/-- A peer signal presents an approval issued to another source or target. -/
def Misdirected (before : List BusCall) (event : GestaltEvent) (now : Int) : Prop :=
  event.eventType = .peerSignal ∧ ∃ approval, RedisEventBus.Presents before event now approval ∧
    ¬ (approval.sourceAgent = event.sourceAgent ∧
      event.targetAgent = some approval.targetAgent.val)

/-- Two approvals an event presents are the same one. -/
theorem RedisEventBus.Presents.unique {before : List BusCall} {event : GestaltEvent} {now : Int}
    {a b : EventApproval} (ha : Presents before event now a) (hb : Presents before event now b) :
    a = b := by
  obtain ⟨hida, hfa, -⟩ := ha
  obtain ⟨hidb, hfb, -⟩ := hb
  have hid : a.approvalId = b.approvalId := Option.some.inj (hida.symm.trans hidb)
  rw [← MemoryEventBus.get?_approvals_replay] at hfa hfb
  rw [hid] at hfa
  exact Option.some.inj (hfa.symm.trans hfb)

/-- One publish call gets the same verdict from both backends unless its event
is misdirected. -/
theorem accepts_iff_accepts {config : EventConfig}
    {replies : Nat → (c : RedisCommand) → c.Reply} {before : List BusCall} {event : GestaltEvent}
    {now : Int} :
    (MemoryEventBus.Accepts before event now ↔
        RedisEventBus.Accepts config replies before event now) ↔
      ¬ Misdirected before event now := by
  rw [MemoryEventBus.Accepts, MemoryEventBus.publish_replay_iff, RedisEventBus.accepts_iff]
  constructor
  · intro hiff hmisdirected
    obtain ⟨hpeer, approval, hpresents, hwrong⟩ := hmisdirected
    obtain ⟨covering, hid, hforce, hperm, hsource, htarget, hnow⟩ :=
      hiff.mpr (fun _ => ⟨approval, hpresents⟩) hpeer
    obtain rfl := hpresents.unique ⟨hid, hforce, hnow, hperm⟩
    exact hwrong ⟨hsource, htarget⟩
  · refine fun hdirected => imp_congr_right fun hpeer => ⟨?_, ?_⟩
    · intro h
      obtain ⟨approval, hid, hforce, hperm, -, -, hnow⟩ := h
      exact ⟨approval, hid, hforce, hnow, hperm⟩
    · intro h
      obtain ⟨approval, hid, hforce, hnow, hperm⟩ := h
      by_cases hright : approval.sourceAgent = event.sourceAgent ∧
          event.targetAgent = some approval.targetAgent.val
      · exact ⟨approval, hid, hforce, hperm, hright.1, hright.2, hnow⟩
      · exact absurd ⟨hpeer, approval, ⟨hid, hforce, hnow, hperm⟩, hright⟩ hdirected

/-- **When the backends enforce the same policy**: over a sequence of calls,
the in-memory bus and the initialized Redis bus accept and reject the same
publish calls exactly when no published event is misdirected. -/
theorem backends_agree_iff (config : EventConfig)
    (replies : Nat → (c : RedisCommand) → c.Reply) (calls : List BusCall) :
    (∀ before event now after, calls = before ++ .publish event now :: after →
      (MemoryEventBus.Accepts before event now ↔
        RedisEventBus.Accepts config replies before event now)) ↔
    ∀ before event now after, calls = before ++ .publish event now :: after →
      ¬ Misdirected before event now := by
  constructor
  · intro h before event now after heq
    exact accepts_iff_accepts.mp (h before event now after heq)
  · intro h before event now after heq
    exact accepts_iff_accepts.mpr (h before event now after heq)

/-! ## a misdirected peer signal -/

namespace Misdirection

/-- An approval for signals from the orchestrator to the monitor. -/
def approval : EventApproval where
  approvalId := 1
  traceId := 2
  sourceAgent := AgentName.orchestrator.field
  targetAgent := AgentName.monitor.field
  permittedEvent := .peerSignal
  rationale := .text "Approve a bounded peer signal."
  expiresAt := 1000000

/-- The knowledge agent presents it in a signal to the analyzer. -/
def event : GestaltEvent where
  eventId := 3
  traceId := 2
  approvalId := some 1
  eventType := .peerSignal
  sourceAgent := AgentName.knowledge.field
  targetAgent := some AgentName.analyzer.name
  createdAt := 0

/-- A server that stores nothing. -/
def replies (_ : Nat) : (c : RedisCommand) → c.Reply
  | .ping _ | .aclose | .set _ _ _ | .xadd _ _ _ => ()
  | .xrevrange _ _ => []

theorem misdirected : Misdirected [.approve approval] event 0 := by
  refine ⟨rfl, approval, ⟨rfl, ?_, by decide, rfl⟩, by decide⟩
  exact approvalInForce_iff.mpr ⟨[], [], rfl, rfl, by simp, by simp⟩

end Misdirection

/-- The backends do not enforce the same policy: Redis accepts the misdirected
signal that the in-memory bus rejects. -/
theorem backends_disagree :
    ¬ ∀ (config : EventConfig) (replies : Nat → (c : RedisCommand) → c.Reply)
        (calls : List BusCall) (before : List BusCall) (event : GestaltEvent) (now : Int)
        (after : List BusCall), calls = before ++ .publish event now :: after →
        (MemoryEventBus.Accepts before event now ↔
          RedisEventBus.Accepts config replies before event now) := by
  intro h
  have hagree := h Reference.settings.events Misdirection.replies _
    [.approve Misdirection.approval] Misdirection.event 0 [] rfl
  exact accepts_iff_accepts.mp hagree Misdirection.misdirected

end Gestalt
