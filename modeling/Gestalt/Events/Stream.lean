import Mathlib.Data.List.DropRight
import Gestalt.Events.Replicas

/-!
# Gestalt.Events.Stream

A Redis bus and the stream it writes to.

Redis may fail any command; one that fails does nothing.  `XADD` puts an event at
the end and may trim the stream from the front, down to the length it is given
but not below.  A bus that is open adds to the stream whatever it publishes, so a
listing is the end of what was there followed by what was published.
-/

namespace Gestalt

open Effects Program

/-! ## the stream -/

/-- An operation on a Redis bus, the answers of Redis to its commands, and how many
entries Redis is ready to trim. -/
structure RedisTurn where
  op : ReplicaOp
  answers : Surroundings Redis
  trimmed : Nat

/-- What a command and its answer do to the stream. -/
def RedisTurn.execute (turn : RedisTurn) (stream : List GestaltEvent) :
    Event Redis → List GestaltEvent
  | ⟨.xadd _ event maxlen, .ok _⟩ =>
      (stream ++ [event]).drop (min turn.trimmed (stream.length + 1 - maxlen))
  | _ => stream

/-- A bus and its stream. -/
structure RedisSession where
  bus : RedisEventBus
  stream : List GestaltEvent

namespace RedisSession

/-- The run of one operation. -/
def outcome (s : RedisSession) (turn : RedisTurn) : Outcome Redis RedisEventBus BusError Unit :=
  turn.op.program.run turn.answers s.bus

/-- One operation; the caller goes on after an exception. -/
def step (s : RedisSession) (turn : RedisTurn) : RedisSession where
  bus := (s.outcome turn).state
  stream := (s.outcome turn).trace.foldl turn.execute s.stream

/-- The operations, one after the other. -/
def after (s : RedisSession) (turns : List RedisTurn) : RedisSession := turns.foldl step s

theorem after_snoc (s : RedisSession) (turns : List RedisTurn) (turn : RedisTurn) :
    s.after (turns ++ [turn]) = (s.after turns).step turn := by
  rw [after, List.foldl_append]
  rfl

end RedisSession

/-! ## one operation -/

namespace RedisEventBus

/-- A command returns or raises what Redis answers. -/
theorem run_sendCommand (c : RedisCommand) (w : Surroundings Redis) (bus : RedisEventBus) :
    (sendCommand c).run w bus = ⟨w 0 c, bus, [⟨c, w 0 c⟩]⟩ := by
  rw [sendCommand, run_bind, run_query]
  simp only [List.length_singleton]
  cases w 0 c <;> rfl

/-- `_validate_event` sends no command and leaves the bus alone, whatever Redis does. -/
theorem run_validateEvent (bus : RedisEventBus) (event : GestaltEvent) (now : Int)
    (w : Surroundings Redis) :
    (Admits bus event now ∧ (validateEvent event now).run w bus = ⟨.ok (), bus, []⟩) ∨
      (¬ Admits bus event now ∧
        ∃ e, (validateEvent event now).run w bus = ⟨.error e, bus, []⟩) := by
  by_cases ht : event.eventType = .peerSignal
  · cases hid : event.approvalId with
    | none => simp [validateEvent, Admits, ht, hid]
    | some approvalId =>
        cases ha : bus.approvals.get? approvalId with
        | none => simp [validateEvent, Admits, ht, hid, ha]
        | some approval =>
            by_cases h1 : approval.expiresAt ≤ now
            · simp [validateEvent, Admits, ht, hid, ha, h1, Int.not_lt.mpr h1]
            by_cases h2 : approval.permittedEvent = .peerSignal
            · simp [validateEvent, Admits, ht, hid, ha, h1, h2, Int.not_le.mp h1]
            · simp [validateEvent, Admits, ht, hid, ha, h1, h2]
  · simp [validateEvent, Admits, ht]

/-- A publish that is accepted adds the event; one that raises adds nothing. -/
theorem run_publish (bus : RedisEventBus) (event : GestaltEvent) (now : Int)
    (w : Surroundings Redis) :
    (∃ e trace, (publish event now).run w bus = ⟨.error e, bus, trace⟩ ∧
      ∀ (turn : RedisTurn) stream, trace.foldl turn.execute stream = stream) ∨
    ∃ trace, (publish event now).run w bus = ⟨.ok event, bus, trace⟩ ∧
      ∀ (turn : RedisTurn) stream, trace.foldl turn.execute stream = (stream ++ [event]).drop
        (min turn.trimmed (stream.length + 1 - bus.config.maxStreamLength)) := by
  rcases run_validateEvent bus event now w with ⟨-, hrun⟩ | ⟨-, e, hrun⟩
  · rw [publish, run_bind, hrun]
    cases hbus : bus.connected with
    | false =>
        refine Or.inl ⟨.runtime "Redis event bus is not initialized.", [], ?_, fun _ _ => rfl⟩
        simp [hbus]
    | true =>
        have hsend := run_sendCommand
          (.xadd bus.config.streamName.val event bus.config.maxStreamLength) w bus
        simp only [List.length_nil, drop_zero, run_bind, run_read, hbus, if_true, hsend]
        cases w 0 (.xadd bus.config.streamName.val event bus.config.maxStreamLength) with
        | error e => exact Or.inl ⟨e, _, rfl, fun _ _ => rfl⟩
        | ok _ => exact Or.inr ⟨_, rfl, fun _ _ => rfl⟩
  · rw [publish, run_bind, hrun]
    exact Or.inl ⟨e, [], rfl, fun _ _ => rfl⟩

/-- The approval is in the table before Redis is asked, and stays there when Redis
fails. -/
theorem run_approve (bus : RedisEventBus) (approval : EventApproval) (w : Surroundings Redis) :
    let out := (approve approval).run w bus
    out.state = { bus with approvals := bus.approvals.set approval.approvalId approval } ∧
      (∀ (turn : RedisTurn) stream, out.trace.foldl turn.execute stream = stream) ∧
      ∀ e, out.result = .error e ↔ bus.connected = true ∧
        w 0 (.set (approvalKey bus.config approval.approvalId) approval
          bus.config.approvalTtlSeconds) = .error e := by
  have hsend := run_sendCommand (.set (approvalKey bus.config approval.approvalId) approval
    bus.config.approvalTtlSeconds) w
  cases hbus : bus.connected with
  | false => simp [approve, hbus]
  | true =>
      simp only [approve, run_bind, run_modify, run_read, List.length_nil, drop_zero, hbus,
        if_true, hsend]
      cases w 0 (.set (approvalKey bus.config approval.approvalId) approval
        bus.config.approvalTtlSeconds) with
      | error e => exact ⟨rfl, fun _ _ => rfl, by simp⟩
      | ok _ => exact ⟨rfl, fun _ _ => rfl, by simp⟩

/-- An open bus lists what Redis sends it, the other way round, if it is asked for
one entry at least. -/
theorem run_listEvents (bus : RedisEventBus) (limit : Int) (w : Surroundings Redis) :
    let out := (listEvents limit).run w bus
    out.state = bus ∧ (∀ (turn : RedisTurn) stream, out.trace.foldl turn.execute stream = stream) ∧
      (bus.connected = true → ∀ listed, out.result = .ok listed ↔ 1 ≤ limit ∧ ∃ records,
        w 0 (.xrevrange bus.config.streamName.val limit) = .ok records ∧
          listed = records.reverse) := by
  have hsend := run_sendCommand (.xrevrange bus.config.streamName.val limit) w bus
  cases hbus : bus.connected with
  | false => simp [listEvents, hbus]
  | true =>
      by_cases hlimit : limit < 1
      · simp [listEvents, hbus, hlimit]
      · simp only [listEvents, run_bind, run_read, List.length_nil, drop_zero, hbus, if_true,
          hlimit, if_false, run_pure, hsend]
        have hpositive : 1 ≤ limit := by omega
        cases w 0 (.xrevrange bus.config.streamName.val limit) with
        | error e => exact ⟨rfl, fun _ _ => rfl, by simp⟩
        | ok records => exact ⟨rfl, fun _ _ => rfl, by simp [hpositive, eq_comm]⟩

end RedisEventBus

/-- Redis fails to close the client. -/
def RedisTurn.CloseFails (turn : RedisTurn) (connected : Bool) : Prop :=
  turn.op = .bus .close ∧ connected = true ∧ ∃ e, turn.answers 0 .aclose = .error e

namespace RedisSession

open RedisEventBus

/-- The event an accepted publish call put on the stream. -/
def published (s : RedisSession) (turn : RedisTurn) : Option GestaltEvent :=
  match turn.op, (s.outcome turn).result with
  | .bus (.call (.publish event _)), .ok _ => some event
  | _, _ => none

/-- What an accepted publish adds is trimmed from the front. -/
def added (s : RedisSession) (turn : RedisTurn) (event : GestaltEvent) : List GestaltEvent :=
  (s.stream ++ [event]).drop
    (min turn.trimmed (s.stream.length + 1 - s.bus.config.maxStreamLength))

/-- What a turn leaves: the bus is as if Redis had executed its commands, unless the
client cannot be closed, which leaves it open as it was, and the stream is as it was
unless a publish was accepted. -/
structure Leaves (s : RedisSession) (turn : RedisTurn) (out : RedisSession) : Prop where
  bus : (turn.CloseFails s.bus.connected ∧ out.bus = s.bus) ∨
    (¬ turn.CloseFails s.bus.connected ∧ out.bus = turn.op.leave s.bus)
  stream : (s.published turn = none ∧ out.stream = s.stream) ∨
    ∃ event, s.published turn = some event ∧ out.stream = s.added turn event

section Operations

variable (s : RedisSession) (answers : Surroundings Redis) (trimmed : Nat)

/-- An operation that closes nothing and publishes nothing. -/
theorem leaves_of_silent {s : RedisSession} {turn : RedisTurn} (hclose : turn.op ≠ .bus .close)
    (hpublishes : s.published turn = none)
    (hbus : (s.outcome turn).state = turn.op.leave s.bus)
    (hstream : (s.outcome turn).trace.foldl turn.execute s.stream = s.stream) :
    s.Leaves turn (s.step turn) :=
  ⟨Or.inr ⟨fun hfails => hclose hfails.1, hbus⟩, Or.inl ⟨hpublishes, hstream⟩⟩

theorem leaves_initializeClient :
    s.Leaves ⟨.initializeClient, answers, trimmed⟩
      (s.step ⟨.initializeClient, answers, trimmed⟩) := by
  have hout : s.outcome ⟨.initializeClient, answers, trimmed⟩ = _ :=
    run_sendCommand (.ping s.bus.config.redisUrl) answers { s.bus with connected := true }
  refine leaves_of_silent (by simp) rfl ?_ ?_
  · rw [hout]
    rfl
  · rw [hout]
    rfl

theorem leaves_approve (approval : EventApproval) :
    s.Leaves ⟨.bus (.approve approval), answers, trimmed⟩
      (s.step ⟨.bus (.approve approval), answers, trimmed⟩) := by
  have hout : s.outcome ⟨.bus (.approve approval), answers, trimmed⟩ = _ :=
    run_discard answers s.bus (approve approval)
  obtain ⟨hstate, htrace, -⟩ := run_approve s.bus approval answers
  refine leaves_of_silent (by simp) rfl ?_ ?_
  · rw [hout]
    exact hstate
  · rw [hout]
    exact htrace _ _

theorem leaves_publish (event : GestaltEvent) (now : Int) :
    s.Leaves ⟨.bus (.publish event now), answers, trimmed⟩
      (s.step ⟨.bus (.publish event now), answers, trimmed⟩) := by
  have hout : s.outcome ⟨.bus (.publish event now), answers, trimmed⟩ = _ :=
    run_discard answers s.bus (publish event now)
  rcases run_publish s.bus event now answers with ⟨e, trace, hrun, htrace⟩ | ⟨trace, hrun, htrace⟩
  · rw [hrun] at hout
    refine leaves_of_silent (by simp) ?_ ?_ ?_
    · rw [published, hout]
      rfl
    · rw [hout]
      rfl
    · rw [hout]
      exact htrace _ _
  · rw [hrun] at hout
    refine ⟨Or.inr ⟨by simp [RedisTurn.CloseFails], ?_⟩, Or.inr ⟨event, ?_, ?_⟩⟩
    · rw [step, hout]
      rfl
    · rw [published, hout]
      rfl
    · rw [step, hout]
      exact htrace _ _

theorem leaves_listEvents (limit : Int) :
    s.Leaves ⟨.bus (.listEvents limit), answers, trimmed⟩
      (s.step ⟨.bus (.listEvents limit), answers, trimmed⟩) := by
  have hout : s.outcome ⟨.bus (.listEvents limit), answers, trimmed⟩ = _ :=
    run_discard answers s.bus (listEvents limit)
  obtain ⟨hstate, htrace, -⟩ := run_listEvents s.bus limit answers
  refine leaves_of_silent (by simp) rfl ?_ ?_
  · rw [hout]
    exact hstate
  · rw [hout]
    exact htrace _ _

/-- A client that cannot be closed stays open. -/
theorem leaves_close :
    s.Leaves ⟨.bus .close, answers, trimmed⟩ (s.step ⟨.bus .close, answers, trimmed⟩) := by
  obtain ⟨⟨config, connected, approvals⟩, stream⟩ := s
  cases connected with
  | false => exact ⟨Or.inr ⟨by simp [RedisTurn.CloseFails], rfl⟩, Or.inl ⟨rfl, rfl⟩⟩
  | true =>
      have hsend := run_sendCommand .aclose answers ⟨config, true, approvals⟩
      have hout : outcome ⟨⟨config, true, approvals⟩, stream⟩ ⟨.bus .close, answers, trimmed⟩ =
          close.run answers ⟨config, true, approvals⟩ := rfl
      simp only [close, run_bind, run_read, List.length_nil, drop_zero, if_true, hsend] at hout
      cases hclose : answers 0 .aclose with
      | error e =>
          rw [hclose] at hout
          refine ⟨Or.inl ⟨⟨rfl, rfl, e, hclose⟩, ?_⟩, Or.inl ⟨rfl, ?_⟩⟩
          · rw [step, hout]
          · rw [step, hout]
            rfl
      | ok _ =>
          rw [hclose] at hout
          refine ⟨Or.inr ⟨by simp [RedisTurn.CloseFails, hclose], ?_⟩, Or.inl ⟨rfl, ?_⟩⟩
          · rw [step, hout]
            rfl
          · rw [step, hout]
            rfl

end Operations

/-- **One operation**, whatever Redis answers. -/
theorem leaves_step (s : RedisSession) (turn : RedisTurn) : s.Leaves turn (s.step turn) := by
  obtain ⟨op, answers, trimmed⟩ := turn
  cases op with
  | initializeClient => exact leaves_initializeClient s answers trimmed
  | bus op =>
      cases op with
      | call c =>
          cases c with
          | approve approval => exact leaves_approve s answers trimmed approval
          | publish event now => exact leaves_publish s answers trimmed event now
      | listEvents limit => exact leaves_listEvents s answers trimmed limit
      | close => exact leaves_close s answers trimmed

/-! ## runs of an open bus -/

/-- The events the operations publish. -/
def publishedIn (s : RedisSession) : List RedisTurn → List GestaltEvent
  | [] => []
  | turn :: turns => (s.published turn).toList ++ (s.step turn).publishedIn turns

theorem publishedIn_snoc (s : RedisSession) (turns : List RedisTurn) (turn : RedisTurn) :
    s.publishedIn (turns ++ [turn]) =
      s.publishedIn turns ++ ((s.after turns).published turn).toList := by
  induction turns generalizing s with
  | nil => simp [publishedIn, after]
  | cons first turns ih =>
      rw [List.cons_append, publishedIn, ih, publishedIn, List.append_assoc]
      rfl

/-- The operation neither opens nor closes the bus. -/
def StaysOpen (turn : RedisTurn) : Prop :=
  turn.op ≠ .initializeClient ∧ turn.op ≠ .bus .close

/-- Such an operation keeps the configuration and the client. -/
theorem bus_step_of_staysOpen {s : RedisSession} {turn : RedisTurn} (h : StaysOpen turn) :
    (s.step turn).bus.config = s.bus.config ∧
      (s.step turn).bus.connected = s.bus.connected := by
  rcases (s.leaves_step turn).bus with ⟨hfails, -⟩ | ⟨-, hbus⟩
  · exact absurd hfails.1 h.2
  · rw [hbus]
    refine ⟨rfl, ?_⟩
    obtain ⟨op, answers, trimmed⟩ := turn
    cases op with
    | initializeClient => exact absurd rfl h.1
    | bus op =>
        cases op with
        | call c => rfl
        | listEvents limit => rfl
        | close => exact absurd rfl h.2

/-- The end of a list does not depend on what is in front of it. -/
theorem rtake_append_of_le {earlier published : List GestaltEvent} {limit : Nat}
    (h : limit ≤ published.length) :
    (earlier ++ published).rtake limit = published.rtake limit := by
  rw [List.rtake, List.rtake, List.length_append, Nat.add_sub_assoc h, List.drop_length_add_append]

/-- The end of `all` is on the stream: all of it, or `maxlen` entries at least. -/
def Keeps (maxlen : Nat) (all stream : List GestaltEvent) : Prop :=
  ∃ gone, all = gone ++ stream ∧ (gone = [] ∨ maxlen ≤ stream.length)

/-- An entry is added, and the trim stops at `maxlen` entries. -/
theorem Keeps.snoc {maxlen : Nat} {all stream : List GestaltEvent} (h : Keeps maxlen all stream)
    (event : GestaltEvent) (trimmed : Nat) :
    Keeps maxlen (all ++ [event])
      ((stream ++ [event]).drop (min trimmed (stream.length + 1 - maxlen))) := by
  obtain ⟨gone, rfl, hgone⟩ := h
  generalize hk : min trimmed (stream.length + 1 - maxlen) = k
  refine ⟨gone ++ (stream ++ [event]).take k, ?_, ?_⟩
  · rw [List.append_assoc gone, List.append_assoc gone, List.take_append_drop]
  · by_cases hk0 : k = 0
    · rcases hgone with rfl | hgone
      · exact Or.inl (by simp [hk0])
      · right
        simp only [List.length_drop, List.length_append, List.length_singleton]
        omega
    · right
      simp only [List.length_drop, List.length_append, List.length_singleton]
      omega

/-- A list that is kept has the same end, as far as `maxlen` entries go. -/
theorem Keeps.rtake_eq {maxlen limit : Nat} {all stream : List GestaltEvent}
    (h : Keeps maxlen all stream) (hlimit : limit ≤ maxlen) :
    stream.rtake limit = all.rtake limit := by
  obtain ⟨gone, rfl, rfl | hlength⟩ := h
  · rfl
  · exact (rtake_append_of_le (hlimit.trans hlength)).symm

/-- **A run of an open bus**: what was on the stream, and then what was published. -/
theorem keeps_after (s : RedisSession) (turns : List RedisTurn)
    (hopen : ∀ turn ∈ turns, StaysOpen turn) :
    (s.after turns).bus.config = s.bus.config ∧
      (s.after turns).bus.connected = s.bus.connected ∧
      Keeps s.bus.config.maxStreamLength (s.stream ++ s.publishedIn turns)
        (s.after turns).stream := by
  induction turns using List.reverseRecOn with
  | nil => exact ⟨rfl, rfl, [], by simp [publishedIn, after], Or.inl rfl⟩
  | append_singleton turns turn ih =>
      obtain ⟨hconfig, hconnected, hkeeps⟩ := ih fun t ht => hopen t (by simp [ht])
      obtain ⟨hconfig', hconnected'⟩ :=
        bus_step_of_staysOpen (s := s.after turns) (hopen turn (by simp))
      rw [after_snoc, publishedIn_snoc]
      refine ⟨hconfig'.trans hconfig, hconnected'.trans hconnected, ?_⟩
      rcases ((s.after turns).leaves_step turn).stream with
        ⟨hnone, hstream⟩ | ⟨event, hsome, hstream⟩
      · rw [hnone, hstream]
        simpa using hkeeps
      · rw [hsome, hstream, added, hconfig, ← List.append_assoc]
        exact hkeeps.snoc event turn.trimmed

/-! ## listings -/

/-- `list_events(limit)` may return this list: Redis sends the newest entries, the newest
one first. -/
def Lists (s : RedisSession) (limit : Nat) (listed : List GestaltEvent) : Prop :=
  ∃ answers : Surroundings Redis,
    (∀ records, answers 0 (.xrevrange s.bus.config.streamName.val limit) = .ok records →
      records = s.stream.reverse.take limit) ∧
    ((listEvents limit).run answers s.bus).result = .ok listed

/-- An open bus lists the end of its stream. -/
theorem Lists.eq_rtake {s : RedisSession} {limit : Nat} {listed : List GestaltEvent}
    (h : s.Lists limit listed) (hconnected : s.bus.connected = true) :
    listed = s.stream.rtake limit := by
  obtain ⟨answers, hnewest, hresult⟩ := h
  obtain ⟨-, records, hrecords, rfl⟩ :=
    ((run_listEvents s.bus limit answers).2.2 hconnected listed).mp hresult
  rw [hnewest records hrecords, List.rtake_eq_reverse_take_reverse]

/-- What is in front shows exactly when the limit goes beyond what comes after it. -/
theorem rtake_append_eq_iff {earlier published : List GestaltEvent} {limit : Nat} :
    (earlier ++ published).rtake limit = published.rtake limit ↔
      earlier = [] ∨ limit ≤ published.length := by
  constructor
  · intro heq
    have hlength := congrArg List.length heq
    simp only [List.rtake, List.length_drop, List.length_append] at hlength
    rw [← List.length_eq_zero_iff]
    omega
  · rintro (rfl | hlimit)
    · rfl
    · exact rtake_append_of_le hlimit

/-- **A listing of an open bus** is the end of what was on the stream when it was opened
and what it published since. -/
theorem Lists.of_after {s : RedisSession} {turns : List RedisTurn} {limit : Nat}
    {listed : List GestaltEvent} (hconnected : s.bus.connected = true)
    (hopen : ∀ turn ∈ turns, StaysOpen turn) (hlimit : limit ≤ s.bus.config.maxStreamLength)
    (h : (s.after turns).Lists limit listed) :
    listed = (s.stream ++ s.publishedIn turns).rtake limit := by
  obtain ⟨-, hconnected', hkeeps⟩ := s.keeps_after turns hopen
  rw [h.eq_rtake (hconnected'.trans hconnected), hkeeps.rtake_eq hlimit]

end RedisSession

/-- The in-memory bus takes a limit of 0 for no limit. -/
theorem MemoryEventBus.lastEvents_eq (events : List GestaltEvent) (limit : Nat) :
    lastEvents events limit = if limit = 0 then events else events.rtake limit := by
  by_cases hlimit : limit = 0
  · subst hlimit
    rfl
  · have hpositive : ¬ (limit : Int) ≤ 0 := by omega
    rw [lastEvents, if_neg hpositive, if_neg hlimit]
    rfl

/-- **The newest events.**  After any history the in-memory bus lists the last
`limit` of the events accepted since it was last closed, exactly when the limit is
positive or nothing was accepted.  A Redis bus, at any time after it was opened,
lists the last `limit` of the events it published since, exactly when nothing was
on the stream before or it published at least that many. -/
theorem newest_listed_iff (ops : List BusOp) (opened : RedisSession) (turns : List RedisTurn)
    (limit : Nat) (listed : List GestaltEvent) :
    ((MemoryEventBus.perform (MemoryEventBus.listEvents limit) (MemoryEventBus.replay ops)).1 =
        .ok ((MemoryEventBus.acceptedSinceClose ops).rtake limit) ↔
      0 < limit ∨ MemoryEventBus.acceptedSinceClose ops = []) ∧
    (opened.bus.connected = true → (∀ turn ∈ turns, RedisSession.StaysOpen turn) →
      limit ≤ opened.bus.config.maxStreamLength → (opened.after turns).Lists limit listed →
      (listed = (opened.publishedIn turns).rtake limit ↔
        opened.stream = [] ∨ limit ≤ (opened.publishedIn turns).length)) := by
  constructor
  · have hlisted : (MemoryEventBus.perform (MemoryEventBus.listEvents limit)
        (MemoryEventBus.replay ops)).1 =
          .ok (MemoryEventBus.lastEvents (MemoryEventBus.acceptedSinceClose ops) limit) := by
      rw [← MemoryEventBus.events_replay]
      rfl
    rw [hlisted, Except.ok.injEq, MemoryEventBus.lastEvents_eq]
    by_cases hlimit : limit = 0
    · simp [hlimit, List.rtake]
    · simp [hlimit, Nat.pos_of_ne_zero hlimit]
  · intro hconnected hopen hlimit hlists
    rw [hlists.of_after hconnected hopen hlimit, RedisSession.rtake_append_eq_iff]

/-- An event any agent may publish. -/
def MemoryEventBus.progress : GestaltEvent :=
  { Misdirection.event with approvalId := none, eventType := .executionProgress }

/-- After one publish a listing of no events has one. -/
theorem zero_lists_everything :
    let ops : List BusOp := [.publish MemoryEventBus.progress 0]
    (MemoryEventBus.perform (MemoryEventBus.listEvents 0) (MemoryEventBus.replay ops)).1 =
        .ok [MemoryEventBus.progress] ∧
      (MemoryEventBus.perform (MemoryEventBus.listEvents 0) (MemoryEventBus.replay ops)).1 ≠
        .ok ((MemoryEventBus.acceptedSinceClose ops).rtake 0) := by
  intro ops
  have hlisted : (MemoryEventBus.perform (MemoryEventBus.listEvents 0)
      (MemoryEventBus.replay ops)).1 = .ok [MemoryEventBus.progress] := rfl
  refine ⟨hlisted, ?_⟩
  rw [hlisted, List.rtake_zero]
  simp

end Gestalt
