import Gestalt.Events.Agreement
import Gestalt.Library.Interleaving

/-!
# Gestalt.Events.Replicas

Any number of Redis buses on one Redis server (`deployment/k8s/deployment.yaml`
runs two).

A turn is an operation of one replica, and Redis executes every command.  The
server keeps what `approve` sends it, each key until its time is up; nothing
ever reads it back.  So the replicas are processes that take turns
(`Gestalt.Library.Interleaving`): each decides from its own table, which is the
register (`Gestalt.Library.Register`) of its own operations.
-/

namespace Gestalt

open Effects Register Interleaving

/-! ## the server -/

/-- An approval on the server, and when its key expires. -/
structure StoredApproval where
  approval : EventApproval
  deadline : Int

/-- The approvals on the server, by key. -/
abbrev RedisServer := Table String StoredApproval

namespace RedisServer

/-- What a command does to the keys when it is executed at the time `clock`. -/
def execute (clock : Int) (server : RedisServer) : RedisCommand → RedisServer
  | .set key approval ex => server.set key ⟨approval, clock + ex * 1000000⟩
  | .ping _ | .aclose | .xadd _ _ _ | .xrevrange _ _ => server

/-- What the key holds at the time `clock`. -/
def lookup (server : RedisServer) (clock : Int) (key : String) : Option EventApproval :=
  (server.get? key).bind fun stored =>
    if clock < stored.deadline then some stored.approval else none

end RedisServer

/-! ## replicas -/

/-- An operation in the life of a replica. -/
inductive ReplicaOp where
  | initializeClient
  | bus (op : BusOp)

namespace ReplicaOp

/-- The operation on the bus of the replica, whatever it returns. -/
def program : ReplicaOp → RedisEventBus.Operation Unit
  | .initializeClient => RedisEventBus.initializeClient
  | .bus (.call (.approve approval)) => do
      let _ ← RedisEventBus.approve approval
      pure ()
  | .bus (.call (.publish event now)) => do
      let _ ← RedisEventBus.publish event now
      pure ()
  | .bus (.listEvents limit) => do
      let _ ← RedisEventBus.listEvents limit
      pure ()
  | .bus .close => RedisEventBus.close

/-- What the operation writes to the approval table of the replica. -/
def write : ReplicaOp → Write Uuid EventApproval
  | .initializeClient => .skip
  | .bus op => op.write

/-- Whether a client is open after the operation. -/
def connects (connected : Bool) : ReplicaOp → Bool
  | .initializeClient => true
  | .bus .close => false
  | .bus (.call _) | .bus (.listEvents _) => connected

end ReplicaOp

/-- A turn: the replica, its operation, the time on the server and the replies
to the commands. -/
structure ReplicaTurn (ι : Type) where
  replica : ι
  op : ReplicaOp
  clock : Int
  replies : Nat → (c : RedisCommand) → c.Reply

/-- The replicas and the server they share. -/
structure Deployment (ι : Type) where
  replicas : ι → RedisEventBus
  server : RedisServer

namespace Deployment

variable {ι : Type} [DecidableEq ι]

/-- One turn. -/
def step (d : Deployment ι) (turn : ReplicaTurn ι) : Deployment ι :=
  let out := turn.op.program.run (RedisEventBus.executing turn.replies) (d.replicas turn.replica)
  { replicas := Function.update d.replicas turn.replica out.state
    server := out.trace.foldl (fun server ev => server.execute turn.clock ev.op) d.server }

/-- New replicas and an empty server, after the turns. -/
def run (config : ι → EventConfig) (turns : List (ReplicaTurn ι)) : Deployment ι :=
  turns.foldl step ⟨fun i => { config := config i }, []⟩

/-- The event carries the id of an approval that is on the server, whoever put it
there: the key is not expired at the time `clock`, nor the approval at the
reading `now`, and it permits the event. -/
def Vouched (d : Deployment ι) (event : GestaltEvent) (now clock : Int) : Prop :=
  ∃ j approval, event.approvalId = some approval.approvalId ∧
    d.server.lookup clock (RedisEventBus.approvalKey (d.replicas j).config approval.approvalId) =
      some approval ∧
    now < approval.expiresAt ∧ approval.permittedEvent = event.eventType

/-- In the turn after `before`, an initialized replica publishes a peer signal that
is vouched for. -/
structure Signals (config : ι → EventConfig) (before : List (ReplicaTurn ι))
    (turn : ReplicaTurn ι) (event : GestaltEvent) (now : Int) : Prop where
  op : turn.op = .bus (.publish event now)
  eventType : event.eventType = .peerSignal
  connected : ((run config before).replicas turn.replica).connected = true
  vouched : (run config before).Vouched event now turn.clock

/-- **Approvals are shared**: whichever initialized replica publishes a peer signal
that is vouched for, it is accepted. -/
def Shared (config : ι → EventConfig) (turns : List (ReplicaTurn ι)) : Prop :=
  ∀ before turn after, turns = before ++ turn :: after → ∀ event now,
    Signals config before turn event now →
    ((RedisEventBus.publish event now).run (RedisEventBus.executing turn.replies)
      ((run config before).replicas turn.replica)).result = .ok event

/-- Which replica does what, turn by turn. -/
def schedule (turns : List (ReplicaTurn ι)) : List (ι × ReplicaOp) :=
  turns.map fun turn => (turn.replica, turn.op)

/-- Whatever a replica signals with an approval that is vouched for, it registered an
approval of that id itself, after it was last closed, and the latest one is
unexpired and permits peer signals. -/
def RegisteredByPublisher (config : ι → EventConfig) (turns : List (ReplicaTurn ι)) : Prop :=
  ∀ before turn after, turns = before ++ turn :: after → ∀ event now,
    Signals config before turn event now →
    ∃ approval, event.approvalId = some approval.approvalId ∧
      InForce ((own turn.replica (schedule before)).map ReplicaOp.write)
        approval.approvalId approval ∧
      now < approval.expiresAt ∧ approval.permittedEvent = .peerSignal

end Deployment

/-! ## one operation -/

/-- What an operation at the time `clock` writes to the server: an approval, if the
replica has a client. -/
def ReplicaOp.store (bus : RedisEventBus) (clock : Int) : ReplicaOp → Write String StoredApproval
  | .bus (.call (.approve approval)) =>
      if bus.connected then
        .put (RedisEventBus.approvalKey bus.config approval.approvalId)
          ⟨approval, clock + bus.config.approvalTtl⟩
      else .skip
  | _ => .skip

/-- The bus after the operation. -/
def ReplicaOp.leave (op : ReplicaOp) (bus : RedisEventBus) : RedisEventBus :=
  ⟨bus.config, op.connects bus.connected, op.write.apply bus.approvals⟩

/-- What an operation leaves of a bus and of the server, when it is executed at the
time `clock`. -/
structure ReplicaOp.Leaves (op : ReplicaOp) (bus : RedisEventBus) (clock : Int)
    (server : RedisServer) {α : Type} (out : Outcome Redis RedisEventBus BusError α) : Prop where
  state : out.state = op.leave bus
  server : out.trace.foldl (fun server ev => server.execute clock ev.op) server =
    (op.store bus clock).apply server

namespace RedisEventBus

section

variable (bus : RedisEventBus) (replies : Nat → (c : RedisCommand) → c.Reply)

/-- `_validate_event` sends no command and leaves the bus alone. -/
theorem exists_run_validateEvent (event : GestaltEvent) (now : Int) :
    ∃ result, (validateEvent event now).run (executing replies) bus = ⟨result, bus, []⟩ := by
  simp only [validateEvent, Program.run_bind, Program.run_read]
  split
  · exact ⟨_, rfl⟩
  · split
    · exact ⟨_, rfl⟩
    · split
      · exact ⟨_, rfl⟩
      · split
        · exact ⟨_, rfl⟩
        · split
          · exact ⟨_, rfl⟩
          · exact ⟨_, rfl⟩

/-- What each operation leaves when Redis executes its commands. -/
theorem leaves_program (op : ReplicaOp) (clock : Int) (server : RedisServer) :
    op.Leaves bus clock server (op.program.run (executing replies) bus) := by
  obtain ⟨config, connected, approvals⟩ := bus
  cases op with
  | initializeClient => exact ⟨rfl, rfl⟩
  | bus op =>
      cases op with
      | call c =>
          cases c with
          | approve approval =>
              cases connected with
              | false => exact ⟨rfl, rfl⟩
              | true => exact ⟨rfl, rfl⟩
          | publish event now =>
              obtain ⟨result, hresult⟩ :=
                exists_run_validateEvent ⟨config, connected, approvals⟩ replies event now
              simp only [ReplicaOp.program, publish, Program.run_bind, hresult]
              cases result with
              | error e => exact ⟨rfl, rfl⟩
              | ok u =>
                  cases connected with
                  | false => exact ⟨rfl, rfl⟩
                  | true => exact ⟨rfl, rfl⟩
      | listEvents limit =>
          cases connected with
          | false => exact ⟨rfl, rfl⟩
          | true =>
              by_cases hlimit : limit < 1
              · simp only [ReplicaOp.program, listEvents, hlimit, if_true]
                exact ⟨rfl, rfl⟩
              · simp only [ReplicaOp.program, listEvents, hlimit, if_false]
                exact ⟨rfl, rfl⟩
      | close =>
          cases connected with
          | false => exact ⟨rfl, rfl⟩
          | true => exact ⟨rfl, rfl⟩

end

/-- An initialized replica publishes exactly what it admits. -/
theorem publish_ok_iff {bus : RedisEventBus} (hbus : bus.connected = true) {event : GestaltEvent}
    {now : Int} {replies : Nat → (c : RedisCommand) → c.Reply} :
    ((publish event now).run (executing replies) bus).result = .ok event ↔
      Admits bus event now := by
  have hmeets := Program.wp_run (wp_publish hbus event now [])
    (executed_of_executing _ replies bus)
  cases hresult : ((publish event now).run (executing replies) bus).result with
  | ok published =>
      simp only [Program.Meets, hresult] at hmeets
      obtain ⟨rfl, -, hadmits⟩ := hmeets
      simp [hadmits]
  | error e =>
      simp only [Program.Meets, hresult] at hmeets
      simp [hmeets.2]

end RedisEventBus

/-! ## whole runs -/

namespace Deployment

variable {ι : Type} [DecidableEq ι] {config : ι → EventConfig} {turns : List (ReplicaTurn ι)}

theorem run_snoc (turn : ReplicaTurn ι) :
    run config (turns ++ [turn]) = (run config turns).step turn := by
  rw [run, List.foldl_append]
  rfl

theorem replicas_step (d : Deployment ι) (turn : ReplicaTurn ι) :
    (d.step turn).replicas =
      Function.update d.replicas turn.replica (turn.op.leave (d.replicas turn.replica)) := by
  rw [step, (RedisEventBus.leaves_program _ turn.replies turn.op turn.clock d.server).state]

theorem server_step (d : Deployment ι) (turn : ReplicaTurn ι) :
    (d.step turn).server =
      (turn.op.store (d.replicas turn.replica) turn.clock).apply d.server :=
  (RedisEventBus.leaves_program _ turn.replies turn.op turn.clock d.server).server

/-- The replicas are processes that share nothing. -/
theorem replicas_foldl (d : Deployment ι) (turns : List (ReplicaTurn ι)) :
    (turns.foldl step d).replicas = interleave ReplicaOp.leave d.replicas (schedule turns) := by
  induction turns generalizing d with
  | nil => rfl
  | cons turn turns ih =>
      rw [List.foldl_cons, ih, replicas_step]
      rfl

/-- A new bus after its operations. -/
theorem foldl_leave (config : EventConfig) (ops : List ReplicaOp) :
    ops.foldl (fun bus op => op.leave bus) { config := config } =
      ⟨config, ops.foldl ReplicaOp.connects false, Register.replay (ops.map ReplicaOp.write)⟩ := by
  induction ops using List.reverseRecOn with
  | nil => rfl
  | append_singleton ops op ih =>
      rw [List.foldl_append, ih, List.map_append, List.map_singleton, replay_snoc]
      simp [ReplicaOp.leave]

/-- **A replica is the outcome of its own operations.** -/
theorem replica_run (i : ι) :
    (run config turns).replicas i =
      ⟨config i, (own i (schedule turns)).foldl ReplicaOp.connects false,
        Register.replay ((own i (schedule turns)).map ReplicaOp.write)⟩ := by
  rw [run, replicas_foldl, interleave_apply, foldl_leave]

omit [DecidableEq ι] in
/-- An approval is registered under its own id. -/
theorem approvalId_of_inForce {ops : List ReplicaOp} {approvalId : Uuid}
    {approval : EventApproval} (h : InForce (ops.map ReplicaOp.write) approvalId approval) :
    approval.approvalId = approvalId := by
  obtain ⟨before, after, heq, -⟩ := h
  have hmem : .put approvalId approval ∈ ops.map ReplicaOp.write := by
    rw [heq]
    simp
  obtain ⟨op, -, hwrite⟩ := List.mem_map.mp hmem
  cases op with
  | initializeClient => cases hwrite
  | bus op =>
      cases op with
      | call c =>
          cases c with
          | approve registered =>
              cases hwrite
              rfl
          | publish event now => cases hwrite
      | listEvents limit => cases hwrite
      | close => cases hwrite

/-- A replica admits a peer signal exactly when it registered its approval itself. -/
theorem admits_run_iff {i : ι} {event : GestaltEvent} {now : Int}
    (hpeer : event.eventType = .peerSignal) :
    RedisEventBus.Admits ((run config turns).replicas i) event now ↔
      ∃ approval, event.approvalId = some approval.approvalId ∧
        InForce ((own i (schedule turns)).map ReplicaOp.write) approval.approvalId approval ∧
        now < approval.expiresAt ∧ approval.permittedEvent = .peerSignal := by
  rw [replica_run]
  constructor
  · intro hadmits
    obtain ⟨approvalId, hid, approval, hget, hnow, hpermitted⟩ := hadmits hpeer
    have hforce := get?_replay_iff.mp hget
    obtain rfl := approvalId_of_inForce hforce
    exact ⟨approval, hid, hforce, hnow, hpermitted⟩
  · intro hregistered _
    obtain ⟨approval, hid, hforce, hnow, hpermitted⟩ := hregistered
    exact ⟨approval.approvalId, hid, approval, get?_replay_iff.mpr hforce, hnow, hpermitted⟩

/-- What is on the server was registered by a replica that had a client. -/
theorem exists_approve_of_get? {key : String} {stored : StoredApproval}
    (h : (run config turns).server.get? key = some stored) :
    ∃ before turn after, turns = before ++ turn :: after ∧
      turn.op = .bus (.approve stored.approval) ∧
      ((run config before).replicas turn.replica).connected = true ∧
      key = RedisEventBus.approvalKey (config turn.replica) stored.approval.approvalId ∧
      stored.deadline = turn.clock + (config turn.replica).approvalTtl := by
  induction turns using List.reverseRecOn with
  | nil => simp [run] at h
  | append_singleton turns turn ih =>
      -- what was there before this turn
      have old : (run config turns).server.get? key = some stored →
          ∃ before turn' after, turns ++ [turn] = before ++ turn' :: after ∧
            turn'.op = .bus (.approve stored.approval) ∧
            ((run config before).replicas turn'.replica).connected = true ∧
            key = RedisEventBus.approvalKey (config turn'.replica) stored.approval.approvalId ∧
            stored.deadline = turn'.clock + (config turn'.replica).approvalTtl := by
        intro hget
        obtain ⟨before, turn', after, rfl, hrest⟩ := ih hget
        exact ⟨before, turn', after ++ [turn], by simp, hrest⟩
      rw [run_snoc, server_step] at h
      unfold ReplicaOp.store at h
      split at h
      · rename_i approval hop
        split at h
        · rename_i hconnected
          rw [Write.apply, Table.get?_set] at h
          split at h
          · rename_i hkey
            obtain rfl := Option.some.inj h
            rw [replica_run] at hkey
            refine ⟨turns, turn, [], rfl, hop, hconnected, hkey.symm, ?_⟩
            rw [replica_run]
          · exact old h
        · exact old h
      · exact old h

/-- A peer signal that is vouched for was approved by some replica. -/
theorem Vouched.registered {event : GestaltEvent} {now clock : Int}
    (h : (run config turns).Vouched event now clock) :
    ∃ turn ∈ turns, ∃ approval, turn.op = .bus (.approve approval) ∧
      event.approvalId = some approval.approvalId ∧
      clock < turn.clock + (config turn.replica).approvalTtl ∧ now < approval.expiresAt := by
  obtain ⟨j, approval, hid, hlookup, hnow, -⟩ := h
  obtain ⟨stored, hget, hstored⟩ := Option.bind_eq_some_iff.mp hlookup
  obtain ⟨hclock, rfl⟩ : clock < stored.deadline ∧ stored.approval = approval := by
    simpa using hstored
  obtain ⟨before, turn, after, rfl, hop, -, -, hdeadline⟩ := exists_approve_of_get? hget
  rw [hdeadline] at hclock
  exact ⟨turn, by simp, stored.approval, hop, hid, hclock, hnow⟩

/-- What is accepted was registered by the replica that published it. -/
theorem Shared.registeredByPublisher (h : Shared config turns) :
    RegisteredByPublisher config turns := by
  intro before turn after hturns event now hsignals
  have haccepted := h before turn after hturns event now hsignals
  rw [RedisEventBus.publish_ok_iff hsignals.connected] at haccepted
  exact (admits_run_iff hsignals.eventType).mp haccepted

/-- **The condition is enough.** -/
theorem RegisteredByPublisher.shared (h : RegisteredByPublisher config turns) :
    Shared config turns := by
  intro before turn after hturns event now hsignals
  rw [RedisEventBus.publish_ok_iff hsignals.connected, admits_run_iff hsignals.eventType]
  exact h before turn after hturns event now hsignals

/-- **When approvals are shared.**  Over any interleaving of the operations of any
number of replicas, every peer signal that the server vouches for is accepted
exactly when the replica that publishes it registered the approval itself, after
it was last closed. -/
theorem shared_iff (config : ι → EventConfig) (turns : List (ReplicaTurn ι)) :
    Shared config turns ↔ RegisteredByPublisher config turns :=
  ⟨Shared.registeredByPublisher, RegisteredByPublisher.shared⟩

/-! ## approvals that are not shared -/

/-- A replica does not know an approval until it registers one. -/
theorem not_registered_of_skips {ops : List ReplicaOp} {approvalId : Uuid}
    {approval : EventApproval} (h : ∀ op ∈ ops, op.write = .skip) :
    ¬ InForce (ops.map ReplicaOp.write) approvalId approval := by
  intro hforce
  obtain ⟨before, after, heq, -⟩ := hforce
  have hmem : .put approvalId approval ∈ ops.map ReplicaOp.write := by
    rw [heq]
    simp
  obtain ⟨op, hop, hwrite⟩ := List.mem_map.mp hmem
  rw [h op hop] at hwrite
  contradiction

/-- Two replicas start. -/
def started (i j : ι) (clock : Int) (replies : Nat → (c : RedisCommand) → c.Reply) :
    List (ReplicaTurn ι) :=
  [⟨i, .initializeClient, clock, replies⟩, ⟨j, .initializeClient, clock, replies⟩]

/-- Two replicas start, and the first registers an approval. -/
def approved (i j : ι) (approval : EventApproval) (clock : Int)
    (replies : Nat → (c : RedisCommand) → c.Reply) : List (ReplicaTurn ι) :=
  started i j clock replies ++ [⟨i, .bus (.approve approval), clock, replies⟩]

/-- The approval is on the server. -/
theorem lookup_approved (i j : ι) (approval : EventApproval) (clock : Int)
    (replies : Nat → (c : RedisCommand) → c.Reply) :
    (run config (approved i j approval clock replies)).server.lookup clock
      (RedisEventBus.approvalKey (config i) approval.approvalId) = some approval := by
  have hbefore : (run config (started i j clock replies)).replicas i = ⟨config i, true, []⟩ := by
    rw [replica_run]
    by_cases hij : j = i
    · simp [own, schedule, started, hij, ReplicaOp.connects, Register.replay, ReplicaOp.write,
        Write.apply]
    · simp [own, schedule, started, hij, ReplicaOp.connects, Register.replay, ReplicaOp.write,
        Write.apply]
  have hserver : (run config (approved i j approval clock replies)).server.get?
      (RedisEventBus.approvalKey (config i) approval.approvalId) =
        some ⟨approval, clock + (config i).approvalTtl⟩ := by
    rw [approved, run_snoc, server_step, hbefore]
    exact Table.get?_set_self _ _ _
  have httl := (config i).approvalTtl_pos
  have hclock : clock < clock + (config i).approvalTtl := by omega
  rw [RedisServer.lookup, hserver, Option.bind_some, if_pos hclock]

/-- **The replica that did not approve.**  The signal it publishes is vouched for
and turned down. -/
theorem not_shared {i j : ι} (hij : i ≠ j) {approval : EventApproval} {event : GestaltEvent}
    {now clock : Int} {replies : Nat → (c : RedisCommand) → c.Reply}
    (hpeer : event.eventType = .peerSignal) (hid : event.approvalId = some approval.approvalId)
    (hpermitted : approval.permittedEvent = .peerSignal) (hnow : now < approval.expiresAt) :
    ¬ Shared config
      (approved i j approval clock replies ++
        [⟨j, .bus (.publish event now), clock, replies⟩]) := by
  intro hshared
  have hown : own j (schedule (approved i j approval clock replies)) =
      [.initializeClient] := by
    simp [own, schedule, approved, started, hij]
  have hsignals : Signals config (approved i j approval clock replies)
      ⟨j, .bus (.publish event now), clock, replies⟩ event now := by
    refine ⟨rfl, hpeer, ?_, i, approval, hid, ?_, hnow, ?_⟩
    · rw [replica_run, hown]
      rfl
    · rw [replica_run]
      exact lookup_approved i j approval clock replies
    · rw [hpermitted, hpeer]
  obtain ⟨approval', -, hforce, -⟩ :=
    hshared.registeredByPublisher _ _ [] rfl event now hsignals
  rw [hown] at hforce
  exact not_registered_of_skips (by simp [ReplicaOp.write]) hforce

/-- The signal the approval was issued for. -/
def directed : GestaltEvent :=
  { Misdirection.event with
    sourceAgent := Misdirection.approval.sourceAgent
    targetAgent := some Misdirection.approval.targetAgent.val }

/-- Approved on one of two replicas, the signal is turned down by the other. -/
theorem approval_unknown :
    ¬ Shared (fun _ : Bool => Reference.settings.events)
      (approved false true Misdirection.approval 0 Misdirection.replies ++
        [⟨true, .bus (.publish directed 0), 0, Misdirection.replies⟩]) :=
  not_shared (by decide) rfl rfl rfl (by decide)

end Deployment

end Gestalt
