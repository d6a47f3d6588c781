import Gestalt.Events
import Gestalt.Library.Register

/-!
# Gestalt.Events.Safety

Whole runs of the in-memory bus.

A history is any list of bus calls, each publish with the clock reading it
was made at.  `replay` is the bus a history leaves and `log` its calls with
their replies.  The approval table is a register (`Gestalt.Library.Register`),
so what it holds is what is in force in the history; from that one fact, and
one step lemma for each operation, the stream is the accepted events since
the last close, and a peer signal is accepted exactly when an approval in
force covers it.
-/

namespace Gestalt

open Effects Register

/-! ## histories -/

/-- A call the orchestrator and the agents make on a bus. -/
inductive BusCall where
  | approve (approval : EventApproval)
  | publish (event : GestaltEvent) (now : Int)

/-- An operation in the life of a bus. -/
inductive BusOp where
  | call (c : BusCall)
  | listEvents (limit : Int)
  | close

/-- What a bus operation answered. -/
inductive BusReply where
  | done
  | accepted (event : GestaltEvent)
  | listed (events : List GestaltEvent)
  | raised (error : BusError)

namespace BusOp

abbrev approve (approval : EventApproval) : BusOp := .call (.approve approval)

abbrev publish (event : GestaltEvent) (now : Int) : BusOp := .call (.publish event now)

/-- What an operation writes to the approval table. -/
def write : BusOp → Write Uuid EventApproval
  | .call (.approve approval) => .put approval.approvalId approval
  | .call (.publish _ _) | .listEvents _ => .skip
  | .close => .clear

/-- Whether the operation closes the bus. -/
def isClose : BusOp → Bool
  | .close => true
  | _ => false

end BusOp

/-- `approval` was registered under `approvalId` after the last close and not
replaced since. -/
def ApprovalInForce (ops : List BusOp) (approvalId : Uuid) (approval : EventApproval) : Prop :=
  InForce (ops.map BusOp.write) approvalId approval

/-- The history reads as the register says: registered, then neither closed
over nor replaced. -/
theorem approvalInForce_iff {ops : List BusOp} {approvalId : Uuid} {approval : EventApproval} :
    ApprovalInForce ops approvalId approval ↔
      ∃ before after, ops = before ++ .approve approval :: after ∧
        approval.approvalId = approvalId ∧ .close ∉ after ∧
        ∀ a, .approve a ∈ after → a.approvalId ≠ approvalId := by
  constructor
  · intro hforce
    obtain ⟨before, after, heq, hclear, hput⟩ := hforce
    obtain ⟨l, r, rfl, rfl, hr⟩ := List.map_eq_append_iff.mp heq
    obtain ⟨op, r, rfl, hop, rfl⟩ := List.map_eq_cons_iff.mp hr
    obtain ⟨rfl, rfl⟩ : op = .approve approval ∧ approval.approvalId = approvalId := by
      cases op with
      | call c =>
          cases c with
          | approve a =>
              simp only [BusOp.write, Write.put.injEq] at hop
              obtain ⟨hid, rfl⟩ := hop
              exact ⟨rfl, hid⟩
          | publish e now => simp [BusOp.write] at hop
      | listEvents limit => simp [BusOp.write] at hop
      | close => simp [BusOp.write] at hop
    refine ⟨l, r, rfl, rfl, ?_, fun a ha hid => ?_⟩
    · exact fun h => hclear (List.mem_map.mpr ⟨_, h, rfl⟩)
    · exact hput a (List.mem_map.mpr ⟨_, ha, by simp [BusOp.write, hid]⟩)
  · intro hhistory
    obtain ⟨before, after, rfl, rfl, hclose, hother⟩ := hhistory
    refine ⟨before.map BusOp.write, after.map BusOp.write, by simp [BusOp.write], ?_, fun v => ?_⟩
    · intro h
      obtain ⟨op, hop, hw⟩ := List.mem_map.mp h
      cases op with
      | call c => cases c <;> simp [BusOp.write] at hw
      | listEvents limit => simp [BusOp.write] at hw
      | close => exact hclose hop
    · intro h
      obtain ⟨op, hop, hw⟩ := List.mem_map.mp h
      cases op with
      | call c =>
          cases c with
          | approve a =>
              simp only [BusOp.write, Write.put.injEq] at hw
              exact hother a hop hw.1
          | publish e now => simp [BusOp.write] at hw
      | listEvents limit => simp [BusOp.write] at hw
      | close => simp [BusOp.write] at hw

/-- An approval in force covers `event` at the reading `now`. -/
def Covered (ops : List BusOp) (event : GestaltEvent) (now : Int) : Prop :=
  ∃ approval, event.approvalId = some approval.approvalId ∧
    ApprovalInForce ops approval.approvalId approval ∧
    approval.permittedEvent = .peerSignal ∧ approval.sourceAgent = event.sourceAgent ∧
    event.targetAgent = some approval.targetAgent.val ∧ now < approval.expiresAt

namespace MemoryEventBus

/-- The in-memory bus sends nothing to Redis. -/
def offline : Surroundings Redis := fun _ _ => .error (.redis "offline")

/-- Run an operation: what it returns or raises, and the bus after it. -/
def perform {α : Type} (op : Operation α) (bus : MemoryEventBus) :
    Except BusError α × MemoryEventBus :=
  let out := op.run offline bus
  (out.result, out.state)

/-- The reply to an operation. -/
def replyOf {α : Type} (reply : α → BusReply) : Except BusError α → BusReply
  | .ok a => reply a
  | .error e => .raised e

/-- One step of a history. -/
def step (bus : MemoryEventBus) : BusOp → BusReply × MemoryEventBus
  | .call (.approve approval) =>
      let out := perform (approve approval) bus
      (replyOf (fun _ => .done) out.1, out.2)
  | .call (.publish event now) =>
      let out := perform (publish event now) bus
      (replyOf .accepted out.1, out.2)
  | .listEvents limit =>
      let out := perform (listEvents limit) bus
      (replyOf .listed out.1, out.2)
  | .close =>
      let out := perform close bus
      (replyOf (fun _ => .done) out.1, out.2)

/-- The bus a history leaves. -/
def replay (ops : List BusOp) : MemoryEventBus := ops.foldl (fun bus op => (step bus op).2) {}

/-- A history with its replies, from the bus `bus`. -/
def logFrom (bus : MemoryEventBus) : List BusOp → List (BusOp × BusReply)
  | [] => []
  | op :: ops => (op, (step bus op).1) :: logFrom (step bus op).2 ops

/-- A history with its replies. -/
def log (ops : List BusOp) : List (BusOp × BusReply) := logFrom {} ops

/-- The event an accepted publish call put on the stream. -/
def acceptedEvent : BusOp × BusReply → Option GestaltEvent
  | (.call (.publish _ _), .accepted event) => some event
  | _ => none

/-- The accepted events since the last close, in publish order. -/
def acceptedSinceClose (ops : List BusOp) : List GestaltEvent :=
  (((log ops).reverse.takeWhile fun entry => !entry.1.isClose).reverse).filterMap acceptedEvent

/-! ## one operation -/

/-- The checks of `_validate_event`, in the order the code makes them. -/
def Admits (bus : MemoryEventBus) (event : GestaltEvent) (now : Int) : Prop :=
  event.eventType = .peerSignal → ∃ approvalId ∈ event.approvalId,
    ∃ approval, bus.approvals.get? approvalId = some approval ∧ now < approval.expiresAt ∧
      approval.permittedEvent = .peerSignal ∧ approval.sourceAgent = event.sourceAgent ∧
      approval.targetAgent.val = event.targetAgent.getD ""

/-- `_validate_event` never touches the bus, and returns exactly when the
checks pass. -/
theorem perform_validateEvent (bus : MemoryEventBus) (event : GestaltEvent) (now : Int) :
    (perform (validateEvent event now) bus).2 = bus ∧
      ((perform (validateEvent event now) bus).1 = .ok () ↔ Admits bus event now) := by
  by_cases ht : event.eventType = .peerSignal
  · cases hid : event.approvalId with
    | none => simp [perform, validateEvent, Admits, ht, hid]
    | some approvalId =>
        cases ha : bus.approvals.get? approvalId with
        | none => simp [perform, validateEvent, Admits, ht, hid, ha]
        | some approval =>
            by_cases h1 : approval.expiresAt ≤ now
            · simp [perform, validateEvent, Admits, ht, hid, ha, h1, Int.not_lt.mpr h1]
            by_cases h2 : approval.permittedEvent = .peerSignal
            · by_cases h3 : approval.sourceAgent = event.sourceAgent
              · by_cases h4 : approval.targetAgent.val = event.targetAgent.getD ""
                · simp [perform, validateEvent, Admits, ht, hid, ha, h1, h2, h3, h4,
                    Int.not_le.mp h1]
                · simp [perform, validateEvent, Admits, ht, hid, ha, h1, h2, h3, h4]
              · simp [perform, validateEvent, Admits, ht, hid, ha, h1, h2, h3]
            · simp [perform, validateEvent, Admits, ht, hid, ha, h1, h2]
  · simp [perform, validateEvent, Admits, ht]

/-- An admitted event is appended, once. -/
theorem perform_publish_of_admits {bus : MemoryEventBus} {event : GestaltEvent} {now : Int}
    (h : Admits bus event now) :
    perform (publish event now) bus =
      (.ok event, { bus with events := bus.events ++ [event] }) := by
  obtain ⟨hstate, hiff⟩ := perform_validateEvent bus event now
  have hok := hiff.mpr h
  simp only [perform] at hstate hok
  simp [perform, publish, hok, hstate]

/-- A rejected publish raises and leaves approvals and stream as they were. -/
theorem perform_publish_of_not_admits {bus : MemoryEventBus} {event : GestaltEvent} {now : Int}
    (h : ¬ Admits bus event now) :
    ∃ error, perform (publish event now) bus = (.error error, bus) := by
  obtain ⟨hstate, hiff⟩ := perform_validateEvent bus event now
  cases hr : (perform (validateEvent event now) bus).1 with
  | ok u => exact absurd (hiff.mp hr) h
  | error error =>
      simp only [perform] at hstate hr
      exact ⟨error, by simp [perform, publish, hr, hstate]⟩

/-! ## whole histories -/

theorem replay_snoc (ops : List BusOp) (op : BusOp) :
    replay (ops ++ [op]) = (step (replay ops) op).2 := by
  simp [replay]

theorem logFrom_append (bus : MemoryEventBus) (ops ops' : List BusOp) :
    logFrom bus (ops ++ ops') =
      logFrom bus ops ++ logFrom (ops.foldl (fun bus op => (step bus op).2) bus) ops' := by
  induction ops generalizing bus with
  | nil => rfl
  | cons op ops ih => simp [logFrom, ih]

theorem log_snoc (ops : List BusOp) (op : BusOp) :
    log (ops ++ [op]) = log ops ++ [(op, (step (replay ops) op).1)] := by
  simp [log, logFrom_append, logFrom, replay]

/-- The approval table is the register of the history. -/
theorem approvals_replay (ops : List BusOp) :
    (replay ops).approvals = Register.replay (ops.map BusOp.write) := by
  induction ops using List.reverseRecOn with
  | nil => rfl
  | append_singleton ops op ih =>
      rw [replay_snoc, List.map_append, List.map_singleton, Register.replay_snoc, ← ih]
      cases op with
      | call c =>
          cases c with
          | approve a => simp [step, perform, approve, BusOp.write, Write.apply]
          | publish e now =>
              by_cases h : Admits (replay ops) e now
              · simp [step, perform_publish_of_admits h, BusOp.write, Write.apply]
              · obtain ⟨error, he⟩ := perform_publish_of_not_admits h
                simp [step, he, BusOp.write, Write.apply]
      | listEvents limit => simp [step, perform, listEvents, BusOp.write, Write.apply]
      | close => simp [step, perform, close, BusOp.write, Write.apply]

theorem get?_approvals_replay {ops : List BusOp} {approvalId : Uuid} {approval : EventApproval} :
    (replay ops).approvals.get? approvalId = some approval ↔
      ApprovalInForce ops approvalId approval := by
  rw [approvals_replay, get?_replay_iff, ApprovalInForce]

/-- After any history, the checks pass exactly for an event that is not a peer
signal or is covered by an approval in force. -/
theorem admits_replay_iff {ops : List BusOp} {event : GestaltEvent} {now : Int} :
    Admits (replay ops) event now ↔ (event.eventType = .peerSignal → Covered ops event now) := by
  refine imp_congr_right fun _ => ?_
  constructor
  · intro h
    obtain ⟨approvalId, hid, approval, ha, hnow, hperm, hsource, htarget⟩ := h
    have hforce := get?_approvals_replay.mp ha
    obtain ⟨_, _, _, rfl, _⟩ := approvalInForce_iff.mp hforce
    refine ⟨approval, hid, hforce, hperm, hsource, ?_, hnow⟩
    cases ht : event.targetAgent with
    | some target => rw [htarget, ht, Option.getD_some]
    | none =>
        -- an empty target is too short to be the target of any approval
        have hlen := approval.targetAgent.min_length
        rw [htarget, ht, Option.getD_none] at hlen
        exact absurd hlen (by decide)
  · intro h
    obtain ⟨approval, hid, hforce, hperm, hsource, htarget, hnow⟩ := h
    exact ⟨approval.approvalId, hid, approval, get?_approvals_replay.mpr hforce, hnow, hperm,
      hsource, by rw [htarget, Option.getD_some]⟩

/-- The stream is the accepted events since the last close, in publish order. -/
theorem events_replay (ops : List BusOp) : (replay ops).events = acceptedSinceClose ops := by
  induction ops using List.reverseRecOn with
  | nil => rfl
  | append_singleton ops op ih =>
      simp only [acceptedSinceClose] at ih
      rw [replay_snoc, acceptedSinceClose, log_snoc, List.reverse_append]
      cases op with
      | call c =>
          cases c with
          | approve a =>
              simp [step, perform, approve, replyOf, BusOp.isClose, acceptedEvent, ih]
          | publish e now =>
              by_cases h : Admits (replay ops) e now
              · simp [step, perform_publish_of_admits h, replyOf, BusOp.isClose, acceptedEvent, ih]
              · obtain ⟨error, he⟩ := perform_publish_of_not_admits h
                simp [step, he, replyOf, BusOp.isClose, acceptedEvent, ih]
      | listEvents limit =>
          simp [step, perform, listEvents, replyOf, BusOp.isClose, acceptedEvent, ih]
      | close => simp [step, perform, close, replyOf, BusOp.isClose]

/-- A publish call of a history was accepted exactly when its event is not a
peer signal or was covered at the reading of the call. -/
theorem publish_replay_iff (ops : List BusOp) (event : GestaltEvent) (now : Int) :
    (perform (publish event now) (replay ops)).1 = .ok event ↔
      (event.eventType = .peerSignal → Covered ops event now) := by
  rw [← admits_replay_iff]
  by_cases h : Admits (replay ops) event now
  · simp [perform_publish_of_admits h, h]
  · obtain ⟨error, he⟩ := perform_publish_of_not_admits h
    simp [he, h]

/-- Every event of the stream was put there by one accepted call since the
last close. -/
theorem exists_publish_of_mem_events {ops : List BusOp} {event : GestaltEvent}
    (h : event ∈ (replay ops).events) :
    ∃ before now after, ops = before ++ .publish event now :: after ∧ .close ∉ after ∧
      (perform (publish event now) (replay before)).1 = .ok event := by
  induction ops using List.reverseRecOn with
  | nil => simp [replay] at h
  | append_singleton ops op ih =>
      -- an event that was there before the last operation, when it is no close
      have old : event ∈ (replay ops).events → op ≠ .close →
          ∃ before now after, ops ++ [op] = before ++ .publish event now :: after ∧
            .close ∉ after ∧ (perform (publish event now) (replay before)).1 = .ok event := by
        intro hmem hop
        obtain ⟨before, now, after, rfl, hclose, hacc⟩ := ih hmem
        exact ⟨before, now, after ++ [op], by simp, by simp [hclose, Ne.symm hop], hacc⟩
      rw [replay_snoc] at h
      cases op with
      | call c =>
          cases c with
          | approve a => exact old (by simpa [step, perform, approve] using h) (by simp)
          | publish e now =>
              by_cases ha : Admits (replay ops) e now
              · simp only [step, perform_publish_of_admits ha, List.mem_append,
                  List.mem_singleton] at h
                rcases h with h | rfl
                · exact old h (by simp)
                · exact ⟨ops, now, [], rfl, by simp, by simp [perform_publish_of_admits ha]⟩
              · obtain ⟨error, he⟩ := perform_publish_of_not_admits ha
                exact old (by simpa [step, he] using h) (by simp)
      | listEvents limit => exact old (by simpa [step, perform, listEvents] using h) (by simp)
      | close => simp [step, perform, close] at h

/-- **Safety of the in-memory bus over whole runs.**  After any history: every
peer signal of the stream was covered, at the reading of its publish, by an
approval in force; the stream is the accepted events since the last close, in
publish order, once per accepted call; a publish call is accepted exactly when
its event is not a peer signal or is covered; and a publish that raises leaves
approvals and stream as they were. -/
theorem replay_safe (ops : List BusOp) :
    (∀ event ∈ (replay ops).events, event.eventType = .peerSignal →
      ∃ before now after, ops = before ++ .publish event now :: after ∧ .close ∉ after ∧
        Covered before event now) ∧
    (replay ops).events = acceptedSinceClose ops ∧
    (∀ before event now after, ops = before ++ .publish event now :: after →
      ((perform (publish event now) (replay before)).1 = .ok event ↔
        (event.eventType = .peerSignal → Covered before event now))) ∧
    (∀ event now error, (perform (publish event now) (replay ops)).1 = .error error →
      (perform (publish event now) (replay ops)).2 = replay ops) := by
  refine ⟨fun event hmem hpeer => ?_, events_replay ops,
    fun before event now after _ => publish_replay_iff before event now,
    fun event now error herr => ?_⟩
  · obtain ⟨before, now, after, heq, hclose, hacc⟩ := exists_publish_of_mem_events hmem
    exact ⟨before, now, after, heq, hclose, (publish_replay_iff before event now).mp hacc hpeer⟩
  · by_cases h : Admits (replay ops) event now
    · simp [perform_publish_of_admits h] at herr
    · obtain ⟨error', he⟩ := perform_publish_of_not_admits h
      rw [he]

end MemoryEventBus

end Gestalt
