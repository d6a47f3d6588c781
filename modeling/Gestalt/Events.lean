import Gestalt.Config
import Gestalt.Protocol
import Gestalt.Library.Program

/-!
# Gestalt.Events

The event buses (`gestalt/events/bus.py`).  Both backends are programs over
the Redis command interface, with the bus object as their mutable state; the
in-memory one issues no command.  An exception leaves the object as it was
mutated up to that point.  `now` is what `datetime.now(UTC)` reads when the
call looks at the clock.
-/

namespace Gestalt

open Effects

/-! ## commands and errors -/

/-- The commands a bus sends to Redis.  Payloads are the records whose JSON
is stored. -/
inductive RedisCommand where
  | ping (url : MinStr 1)
  | aclose
  | set (key : String) (approval : EventApproval) (ex : Nat)
  | xadd (stream : String) (event : GestaltEvent) (maxlen : Nat)
  | xrevrange (stream : String) (count : Int)

/-- What a command returns when Redis executes it. -/
@[reducible] def RedisCommand.Reply : RedisCommand → Type
  | ping _ | aclose | set _ _ _ | xadd _ _ _ => Unit
  | xrevrange _ _ => List GestaltEvent

/-- What a bus operation may raise. -/
inductive BusError where
  | approval (message : String)
  | runtime (message : String)
  | redis (message : String)
  deriving DecidableEq, Repr

/-- The Redis server as the bus sees it: every command may fail. -/
abbrev Redis : Interface := ⟨RedisCommand, fun c => Except BusError c.Reply⟩

/-- Send one command; its failure is raised. -/
def sendCommand {σ : Type} (c : RedisCommand) : Program Redis σ BusError c.Reply := do
  Program.ofExcept (← Program.query (I := Redis) c)

/-- `dict[UUID, EventApproval]`. -/
abbrev ApprovalTable := Table Uuid EventApproval

/-! ## the in-memory bus -/

/-- State of a `MemoryEventBus`. -/
structure MemoryEventBus where
  approvals : ApprovalTable := []
  events : List GestaltEvent := []

namespace MemoryEventBus

/-- A bus operation: it may raise and it mutates the bus. -/
abbrev Operation (α : Type) := Program Redis MemoryEventBus BusError α

/-- `close`: drop the in-memory state. -/
def close : Operation Unit := Program.modify fun _ => {}

/-- `approve`: store an approval token. -/
def approve (approval : EventApproval) : Operation EventApproval := do
  Program.modify fun bus =>
    { bus with approvals := bus.approvals.set approval.approvalId approval }
  return approval

/-- `_validate_event`. -/
def validateEvent (event : GestaltEvent) (now : Int) : Operation Unit := do
  let bus ← Program.read
  if event.eventType = .peerSignal then
    match event.approvalId with
    | none => Program.raise (.approval "Peer signals require an orchestrator approval token.")
    | some approvalId =>
        match bus.approvals.get? approvalId with
        | none => Program.raise (.approval "Approval token is unknown.")
        | some approval =>
            if approval.expiresAt ≤ now then
              Program.raise (.approval "Approval token is expired.")
            else if approval.permittedEvent ≠ event.eventType then
              Program.raise (.approval "Approval token does not permit this event type.")
            else if approval.sourceAgent ≠ event.sourceAgent then
              Program.raise
                (.approval "Approval token source does not match the event source.")
            else if approval.targetAgent.val ≠ event.targetAgent.getD "" then
              Program.raise
                (.approval "Approval token target does not match the event target.")
            else pure ()
  else pure ()

/-- `publish`: append an approved event to the stream. -/
def publish (event : GestaltEvent) (now : Int) : Operation GestaltEvent := do
  validateEvent event now
  Program.modify fun bus => { bus with events := bus.events ++ [event] }
  return event

/-- `self._events[-limit:]`: a limit of zero or less counts from the front. -/
def lastEvents (events : List GestaltEvent) (limit : Int) : List GestaltEvent :=
  if limit ≤ 0 then events.drop (-limit).toNat
  else events.drop (events.length - limit.toNat)

/-- `list_events`. -/
def listEvents (limit : Int) : Operation (List GestaltEvent) := do
  return lastEvents (← Program.read).events limit

end MemoryEventBus

/-! ## the Redis bus -/

/-- State of a `RedisEventBus`: whether a client is open, and the approvals
registered through this instance. -/
structure RedisEventBus where
  config : EventConfig
  connected : Bool := false
  approvals : ApprovalTable := []

namespace RedisEventBus

/-- A bus operation: it sends commands, may raise and mutates the bus. -/
abbrev Operation (α : Type) := Program Redis RedisEventBus BusError α

/-- `initialize` of the bus: the client is stored before the server is pinged. -/
def initializeClient : Operation Unit := do
  Program.modify fun bus => { bus with connected := true }
  sendCommand (.ping (← Program.read).config.redisUrl)

/-- `close`. -/
def close : Operation Unit := do
  if (← Program.read).connected then
    sendCommand .aclose
    Program.modify fun bus => { bus with connected := false }
  Program.modify fun bus => { bus with approvals := [] }

/-- The key an approval is stored under: the stream name, then the id. -/
def approvalKey (config : EventConfig) (approvalId : Uuid) : String :=
  config.streamName.val ++ ":approval:" ++ toString approvalId

/-- `approve`: in the local table first, then in Redis. -/
def approve (approval : EventApproval) : Operation EventApproval := do
  Program.modify fun bus =>
    { bus with approvals := bus.approvals.set approval.approvalId approval }
  let bus ← Program.read
  if bus.connected then
    sendCommand (.set (approvalKey bus.config approval.approvalId) approval
      bus.config.approvalTtlSeconds)
  return approval

/-- `_validate_event`. -/
def validateEvent (event : GestaltEvent) (now : Int) : Operation Unit := do
  let bus ← Program.read
  if event.eventType ≠ .peerSignal then pure ()
  else
    match event.approvalId with
    | none => Program.raise (.approval "Peer signals require an approval id.")
    | some approvalId =>
        match bus.approvals.get? approvalId with
        | none => Program.raise (.approval "Approval token is unknown.")
        | some approval =>
            if approval.expiresAt ≤ now then
              Program.raise (.approval "Approval token is expired.")
            else if approval.permittedEvent ≠ event.eventType then
              Program.raise (.approval "Approval token does not permit this event type.")
            else pure ()

/-- `publish`: validate, then append to the Redis stream. -/
def publish (event : GestaltEvent) (now : Int) : Operation GestaltEvent := do
  validateEvent event now
  let bus ← Program.read
  if bus.connected then
    sendCommand (.xadd bus.config.streamName.val event bus.config.maxStreamLength)
    return event
  else
    Program.raise (.runtime "Redis event bus is not initialized.")

/-- `list_events`: newest entries first from Redis, reversed.  The client refuses
to send a count below one. -/
def listEvents (limit : Int) : Operation (List GestaltEvent) := do
  let bus ← Program.read
  if bus.connected then
    if limit < 1 then Program.raise (.redis "XREVRANGE count must be a positive integer")
    let records ← sendCommand (.xrevrange bus.config.streamName.val limit)
    return List.reverse records
  else
    return []

end RedisEventBus

end Gestalt
