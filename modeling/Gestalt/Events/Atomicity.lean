import Gestalt.Events.Stream

/-!
# Gestalt.Events.Atomicity

What a call of the Redis bus that raises leaves behind.

A publish that raises leaves the bus and the stream as they were.  An approval is
put into the table of the bus before Redis is asked to store it, so when Redis
fails the call raises and the approval stays.  Later publish calls ask of an
approval only whether it permits peer signals and when it expires; where the table
says the same of the identifier as before, the approval that stays goes unnoticed.
-/

namespace Gestalt

open Effects Program Register

/-- What `_validate_event` asks of an approval: when it expires, if it permits peer
signals at all. -/
def EventApproval.usableUntil (approval : EventApproval) : Option Int :=
  if approval.permittedEvent = .peerSignal then some approval.expiresAt else none

namespace RedisEventBus

/-- Until when the approval of this identifier may be used. -/
def usableUntil (bus : RedisEventBus) (approvalId : Uuid) : Option Int :=
  (bus.approvals.get? approvalId).bind EventApproval.usableUntil

/-- The bus publishes the event at the reading `now`, if Redis executes the command. -/
def WouldAccept (bus : RedisEventBus) (event : GestaltEvent) (now : Int) : Prop :=
  ∀ replies, ((publish event now).run (executing replies) bus).result = .ok event

/-- The buses are alike to every later call. -/
structure Alike (bus bus' : RedisEventBus) : Prop where
  config : bus.config = bus'.config
  connected : bus.connected = bus'.connected
  usable : ∀ approvalId, bus.usableUntil approvalId = bus'.usableUntil approvalId

theorem admits_iff_usable {bus : RedisEventBus} {event : GestaltEvent} {now : Int} :
    Admits bus event now ↔ (event.eventType = .peerSignal → ∃ approvalId ∈ event.approvalId,
      ∃ expiry ∈ bus.usableUntil approvalId, now < expiry) := by
  refine imp_congr_right fun _ => exists_congr fun approvalId => and_congr_right fun _ => ?_
  cases hget : bus.approvals.get? approvalId with
  | none => simp [usableUntil, hget]
  | some approval =>
      by_cases hpermitted : approval.permittedEvent = .peerSignal
      · simp [usableUntil, hget, EventApproval.usableUntil, hpermitted]
      · simp [usableUntil, hget, EventApproval.usableUntil, hpermitted]

/-- What is accepted: events the open bus admits. -/
theorem wouldAccept_iff {bus : RedisEventBus} {event : GestaltEvent} {now : Int} :
    bus.WouldAccept event now ↔ bus.connected = true ∧ Admits bus event now := by
  cases hbus : bus.connected with
  | true =>
      constructor
      · exact fun h => ⟨rfl, (publish_ok_iff hbus).mp (h Misdirection.replies)⟩
      · exact fun h replies => (publish_ok_iff hbus).mpr h.2
  | false =>
      refine ⟨fun h => ?_, fun h => absurd h.1 (by simp)⟩
      have hok := h Misdirection.replies
      rcases run_validateEvent bus event now (executing Misdirection.replies) with
        ⟨-, hrun⟩ | ⟨-, e, hrun⟩
      · rw [publish, run_bind, hrun] at hok
        simp [hbus] at hok
      · rw [publish, run_bind, hrun] at hok
        simp at hok

theorem Alike.wouldAccept_iff {bus bus' : RedisEventBus} (h : Alike bus bus')
    (event : GestaltEvent) (now : Int) :
    bus.WouldAccept event now ↔ bus'.WouldAccept event now := by
  rw [RedisEventBus.wouldAccept_iff, RedisEventBus.wouldAccept_iff, admits_iff_usable,
    admits_iff_usable, h.connected]
  simp only [h.usable]

theorem usableUntil_set (bus : RedisEventBus) (approval : EventApproval) (approvalId : Uuid) :
    usableUntil { bus with approvals := bus.approvals.set approval.approvalId approval }
      approvalId =
        if approval.approvalId = approvalId then approval.usableUntil
        else bus.usableUntil approvalId := by
  rw [usableUntil, Table.get?_set]
  split
  · rfl
  · rfl

/-- What is alike stays alike. -/
theorem Alike.leave {bus bus' : RedisEventBus} (h : Alike bus bus') (op : ReplicaOp) :
    Alike (op.leave bus) (op.leave bus') := by
  refine ⟨h.config, congrArg (op.connects ·) h.connected, fun approvalId => ?_⟩
  cases op with
  | initializeClient => exact h.usable approvalId
  | bus op =>
      cases op with
      | call c =>
          cases c with
          | approve approval =>
              have hset := usableUntil_set bus approval approvalId
              have hset' := usableUntil_set bus' approval approvalId
              refine hset.trans (Eq.trans ?_ hset'.symm)
              rw [h.usable]
          | publish event now => exact h.usable approvalId
      | listEvents limit => exact h.usable approvalId
      | close => rfl

end RedisEventBus

namespace RedisSession

open RedisEventBus

/-! ## later behaviour -/

theorem alike_step {s s' : RedisSession} (h : Alike s.bus s'.bus) (turn : RedisTurn) :
    Alike (s.step turn).bus (s'.step turn).bus := by
  have hfails : turn.CloseFails s.bus.connected ↔ turn.CloseFails s'.bus.connected := by
    rw [h.connected]
  rcases (s.leaves_step turn).bus with ⟨hclose, hbus⟩ | ⟨hclose, hbus⟩
  · rcases (s'.leaves_step turn).bus with ⟨-, hbus'⟩ | ⟨hclose', -⟩
    · rw [hbus, hbus']
      exact h
    · exact absurd (hfails.mp hclose) hclose'
  · rcases (s'.leaves_step turn).bus with ⟨hclose', -⟩ | ⟨-, hbus'⟩
    · exact absurd (hfails.mpr hclose') hclose
    · rw [hbus, hbus']
      exact h.leave turn.op

/-- Buses that are alike stay alike, whatever comes later. -/
theorem alike_after {s s' : RedisSession} (h : Alike s.bus s'.bus) (later : List RedisTurn) :
    Alike (s.after later).bus (s'.after later).bus := by
  induction later using List.reverseRecOn with
  | nil => exact h
  | append_singleton later turn ih =>
      rw [after_snoc, after_snoc]
      exact alike_step ih turn

/-- `s'` has the stream of `s`, and whatever comes later, its bus would accept the same
events. -/
structure Unnoticed (s s' : RedisSession) : Prop where
  stream : s'.stream = s.stream
  accepts : ∀ later event now,
    (s'.after later).bus.WouldAccept event now ↔ (s.after later).bus.WouldAccept event now

theorem Unnoticed.of_alike {s s' : RedisSession} (hstream : s'.stream = s.stream)
    (h : Alike s'.bus s.bus) : Unnoticed s s' :=
  ⟨hstream, fun later event now => (alike_after h later).wouldAccept_iff event now⟩

/-- In a run, every approve or publish call that raises goes unnoticed. -/
def AllOrNothing (s : RedisSession) (turns : List RedisTurn) : Prop :=
  ∀ before turn after, turns = before ++ turn :: after →
    ∀ c e, turn.op = .bus (.call c) → ((s.after before).outcome turn).result = .error e →
      Unnoticed (s.after before) ((s.after before).step turn)

/-- Redis fails to store the approval. -/
def SetFails (bus : RedisEventBus) (turn : RedisTurn) (approval : EventApproval) : Prop :=
  turn.op = .bus (.approve approval) ∧ bus.connected = true ∧
    ∃ e, turn.answers 0 (.set (approvalKey bus.config approval.approvalId) approval
      bus.config.approvalTtlSeconds) = .error e

/-- In a run, every approval that Redis fails to store is one that can be used exactly as
long as what the table had under its identifier. -/
def StoresWhatCounts (s : RedisSession) (turns : List RedisTurn) : Prop :=
  ∀ before turn after, turns = before ++ turn :: after → ∀ approval,
    SetFails (s.after before).bus turn approval →
      (s.after before).bus.usableUntil approval.approvalId = approval.usableUntil

/-! ## calls that raise -/

/-- A call that raises publishes nothing. -/
theorem stream_step_of_error {s : RedisSession} {turn : RedisTurn} {e : BusError}
    (hraises : (s.outcome turn).result = .error e) : (s.step turn).stream = s.stream := by
  rcases (s.leaves_step turn).stream with ⟨-, hstream⟩ | ⟨event, hpublished, -⟩
  · exact hstream
  · rw [published, hraises] at hpublished
    split at hpublished <;> contradiction

/-- The bus after an approve or a publish. -/
theorem bus_step_of_call {s : RedisSession} {turn : RedisTurn} {c : BusCall}
    (hop : turn.op = .bus (.call c)) : (s.step turn).bus = turn.op.leave s.bus := by
  rcases (s.leaves_step turn).bus with ⟨⟨hclose, -⟩, -⟩ | ⟨-, hbus⟩
  · rw [hop] at hclose
    cases hclose
  · exact hbus

/-- An approve raises exactly when Redis fails to store the approval. -/
theorem outcome_approve_iff {s : RedisSession} {turn : RedisTurn} {approval : EventApproval}
    (hop : turn.op = .bus (.approve approval)) :
    (∃ e, (s.outcome turn).result = .error e) ↔ SetFails s.bus turn approval := by
  obtain ⟨op, answers, trimmed⟩ := turn
  obtain rfl : op = .bus (.approve approval) := hop
  have hout : s.outcome ⟨.bus (.approve approval), answers, trimmed⟩ = _ :=
    run_discard answers s.bus (approve approval)
  obtain ⟨-, -, hraises⟩ := run_approve s.bus approval answers
  rw [hout, SetFails]
  constructor
  · intro h
    obtain ⟨e, herror⟩ := h
    cases hresult : ((approve approval).run answers s.bus).result with
    | ok a => simp [hresult, Except.map] at herror
    | error e =>
        obtain ⟨hconnected, hset⟩ := (hraises e).mp hresult
        exact ⟨rfl, hconnected, e, hset⟩
  · intro h
    obtain ⟨-, hconnected, e, hset⟩ := h
    refine ⟨e, ?_⟩
    rw [(hraises e).mpr ⟨hconnected, hset⟩]
    rfl

/-- Two expiries, if any, that admit the same readings are the same. -/
theorem eq_of_forall_lt {a b : Option Int}
    (h : ∀ now, (∃ expiry ∈ a, now < expiry) ↔ ∃ expiry ∈ b, now < expiry) : a = b := by
  cases a with
  | none =>
      cases b with
      | none => rfl
      | some y =>
          have hy := h (y - 1)
          simp at hy
  | some x =>
      cases b with
      | none =>
          have hx := h (x - 1)
          simp at hx
      | some y =>
          have hx := h (x - 1)
          have hy := h (y - 1)
          simp only [Option.mem_some_iff, exists_eq_left'] at hx hy
          congr 1
          omega

/-- **A failed approve** goes unnoticed exactly when the table said of the identifier what
the approval says. -/
theorem unnoticed_approve_iff {s : RedisSession} {turn : RedisTurn} {approval : EventApproval}
    (hfails : SetFails s.bus turn approval) :
    Unnoticed s (s.step turn) ↔
      s.bus.usableUntil approval.approvalId = approval.usableUntil := by
  obtain ⟨e, hraises⟩ := (outcome_approve_iff hfails.1).mpr hfails
  have hstream := stream_step_of_error hraises
  have hbus : (s.step turn).bus = { s.bus with
      approvals := s.bus.approvals.set approval.approvalId approval } := by
    rw [bus_step_of_call hfails.1, hfails.1]
    rfl
  constructor
  · intro h
    refine eq_of_forall_lt fun now => ?_
    -- a signal that carries the identifier tells the two tables apart
    have hsignal := h.accepts [] { Misdirection.event with approvalId := approval.approvalId } now
    change (s.step turn).bus.WouldAccept _ _ ↔ s.bus.WouldAccept _ _ at hsignal
    rw [hbus, wouldAccept_iff, wouldAccept_iff, admits_iff_usable, admits_iff_usable] at hsignal
    have hset := usableUntil_set s.bus approval approval.approvalId
    rw [if_pos rfl, hfails.2.1] at hset
    simpa [Misdirection.event, hfails.2.1, hset] using hsignal.symm
  · intro h
    refine Unnoticed.of_alike hstream ?_
    rw [hbus]
    refine ⟨rfl, rfl, fun approvalId => ?_⟩
    rw [usableUntil_set]
    split
    · rename_i hid
      rw [← hid, h]
    · rfl

/-- A publish that raises goes unnoticed. -/
theorem unnoticed_publish {s : RedisSession} {turn : RedisTurn} {event : GestaltEvent} {now : Int}
    {e : BusError} (hop : turn.op = .bus (.publish event now))
    (hraises : (s.outcome turn).result = .error e) : Unnoticed s (s.step turn) := by
  refine Unnoticed.of_alike (stream_step_of_error hraises) ?_
  rw [bus_step_of_call hop, hop]
  exact ⟨rfl, rfl, fun _ => rfl⟩

/-- **All or nothing.**  In a run of a new Redis bus, whatever Redis answers, every approve
or publish call that raises leaves the stream and all that later calls accept as they
were, exactly when every approval that Redis fails to store can be used exactly as long
as what the table had under its identifier. -/
theorem allOrNothing_iff (config : EventConfig) (stream : List GestaltEvent)
    (turns : List RedisTurn) :
    AllOrNothing ⟨{ config := config }, stream⟩ turns ↔
      StoresWhatCounts ⟨{ config := config }, stream⟩ turns := by
  constructor
  · intro h before turn after hturns approval hfails
    obtain ⟨e, hraises⟩ := (outcome_approve_iff hfails.1).mpr hfails
    exact (unnoticed_approve_iff hfails).mp (h before turn after hturns _ e hfails.1 hraises)
  · intro h before turn after hturns c e hop hraises
    cases c with
    | approve approval =>
        have hfails := (outcome_approve_iff hop).mp ⟨e, hraises⟩
        exact (unnoticed_approve_iff hfails).mpr (h before turn after hturns approval hfails)
    | publish event now => exact unnoticed_publish hop hraises

/-! ## an approval that was not registered -/

/-- Redis answers the ping and nothing else. -/
def pingOnly : Surroundings Redis
  | _, .ping _ => .ok ()
  | _, _ => .error (.redis "Connection reset by peer")

/-- The bus is opened, and Redis goes down before the approval is stored. -/
def interrupted : List RedisTurn :=
  [⟨.initializeClient, pingOnly, 0⟩, ⟨.bus (.approve Misdirection.approval), pingOnly, 0⟩]

/-- The approve call raises, and the approval is used all the same. -/
theorem registration_kept :
    let s : RedisSession := ⟨{ config := Reference.settings.events }, []⟩
    let opened := s.after [⟨.initializeClient, pingOnly, 0⟩]
    (∃ e, (opened.outcome ⟨.bus (.approve Misdirection.approval), pingOnly, 0⟩).result =
      .error e) ∧
    ¬ opened.bus.WouldAccept Deployment.directed 0 ∧
    (s.after interrupted).bus.WouldAccept Deployment.directed 0 ∧
    ¬ AllOrNothing s interrupted := by
  intro s opened
  have hbefore : ¬ opened.bus.WouldAccept Deployment.directed 0 := by
    rw [wouldAccept_iff]
    intro h
    obtain ⟨id, -, approval, hget, -⟩ := h.2 rfl
    cases hget
  have hafter : (s.after interrupted).bus.WouldAccept Deployment.directed 0 :=
    wouldAccept_iff.mpr ⟨rfl, fun _ => ⟨1, rfl, Misdirection.approval, rfl, by decide, rfl⟩⟩
  have hraises : (opened.outcome ⟨.bus (.approve Misdirection.approval), pingOnly, 0⟩).result =
      .error (.redis "Connection reset by peer") := rfl
  refine ⟨⟨_, hraises⟩, hbefore, hafter, fun h => hbefore ?_⟩
  have hunnoticed := h [⟨.initializeClient, pingOnly, 0⟩]
    ⟨.bus (.approve Misdirection.approval), pingOnly, 0⟩ [] rfl _ _ rfl hraises
  exact (hunnoticed.accepts [] Deployment.directed 0).mp hafter

end RedisSession

end Gestalt
