import Gestalt.Graph.Entries

/-!
# Gestalt.Graph.Journal

What a cycle is for, told without states.

A `Desk` knows whose turn it is, whom the orchestrator dispatched last and what
is left of the plan, and admits the entries of a journal one by one.  Every run
of a cycle keeps such a journal: its histories are those the entries amount to,
and it stands where the desk does.  What holds of the journals a desk admits,
such as their length, hence holds of the cycles.
-/

namespace Gestalt

open Effects Program

/-! ## the desk -/

/-- Whose turn it is, unless the cycle has ended, the specialist dispatched last,
and the rest of the plan, in which a name may be unknown. -/
structure Desk where
  turn : Option AgentName
  last : Option Specialist
  todo : List (Option Specialist)
  deriving DecidableEq, Repr

namespace Desk

/-- The desk after the entry, if it admits it.  A specialist returns to the
orchestrator however it went, and an orchestrator that failed sends the last
specialist again. -/
def enter (d : Desk) : Entry → Option Desk
  | .failed a =>
      if d.turn = some a then
        some { d with
          turn := if a = .orchestrator then d.last.map Specialist.agent else some .orchestrator }
      else none
  | .worked a =>
      if d.turn = some a.agent then some { d with turn := some .orchestrator } else none
  | .dispatched a =>
      if d.turn = some .orchestrator ∧ d.todo.head? = some (some a) then
        some ⟨some a.agent, some a, d.todo.tail⟩
      else none
  | .finalized =>
      if d.turn = some .orchestrator ∧ d.todo = [] then some { d with turn := none } else none

/-- The desk after the entries of a journal. -/
def replay (d : Desk) (journal : List Entry) : Option Desk := journal.foldlM enter d

@[simp] theorem replay_nil (d : Desk) : d.replay [] = some d := rfl

@[simp] theorem replay_cons (d : Desk) (entry : Entry) (journal : List Entry) :
    d.replay (entry :: journal) = (d.enter entry).bind fun d => d.replay journal := rfl

theorem replay_snoc (d : Desk) (journal : List Entry) (entry : Entry) :
    d.replay (journal ++ [entry]) = (d.replay journal).bind fun d => d.enter entry := by
  simp [replay, List.foldlM_append]

/-- The node the desk stands at. -/
def cursor (d : Desk) : Cursor :=
  match d.turn with
  | some node => .at node
  | none => .ended

/-- The text of the route to the specialist dispatched last. -/
def route (d : Desk) : String :=
  match d.last with
  | some a => a.name
  | none => "__end__"

end Desk

/-- The plan as the orchestrator reads it.  Where it cannot be read, nothing of
it is known. -/
def Orchestrator.agenda (rt : Runtime) (s : GestaltGraphState) : List (Option Specialist) :=
  match pendingAgents rt s with
  | some pending => pending.map Specialist.ofValue?
  | none => [none]

theorem Orchestrator.agenda_of_list {rt : Runtime} {s : GestaltGraphState} {pending : List Value}
    (h : s.metadata.get? "pending_agents" = some (.list pending)) :
    agenda rt s = pending.map Specialist.ofValue? := by
  simp [agenda, pendingAgents, h, Value.iterate?]

/-- The desk on which the cycle of a request starts. -/
def Desk.opening (rt : Runtime) (s : GestaltGraphState) : Desk :=
  ⟨some .orchestrator, none, Orchestrator.agenda rt s⟩

/-- The desk is that of the state, for the node whose turn it is. -/
structure Stands (rt : Runtime) (d : Desk) (s : GestaltGraphState) : Prop where
  agenda : Orchestrator.agenda rt s = d.todo
  route : routeFromOrchestrator s = some d.route
  planned : d.last.isSome → ∃ pending, s.metadata.get? "pending_agents" = some (.list pending)
  first : d.last = none → d.turn = some .orchestrator

section Steps

variable {rt : Runtime} {d : Desk} {s s' out : GestaltGraphState} {a : AgentName} {entry : Entry}

/-- The route of a desk leads where its specialist is. -/
theorem Desk.followRoute_route (d : Desk) :
    followRoute (some d.route) = { d with turn := d.last.map Specialist.agent }.cursor := by
  cases hlast : d.last with
  | none => simp [route, hlast, followRoute, cursor]
  | some a => simpa [route, hlast, cursor] using followRoute_name a

/-- A state with the same plan and the same route stands at the same desk. -/
theorem Stands.kept (h : Stands rt d s)
    (hmetadata : ∀ key, key ≠ "last_error" → out.metadata.get? key = s.metadata.get? key)
    {turn : Option AgentName} (hlast : d.last.isSome) : Stands rt { d with turn := turn } out := by
  obtain ⟨pending, hpending⟩ := h.planned hlast
  have hout : out.metadata.get? "pending_agents" = some (.list pending) := by
    rw [hmetadata _ (by decide), hpending]
  refine ⟨?_, ?_, fun _ => ⟨pending, hout⟩, fun hnone => ?_⟩
  · rw [← h.agenda, Orchestrator.agenda_of_list hout, Orchestrator.agenda_of_list hpending]
  · have hroute := h.route
    rw [routeFromOrchestrator, ← hmetadata _ (by decide)] at hroute
    exact hroute
  · have hnone' : d.last = none := hnone
    rw [hnone'] at hlast
    contradiction

theorem AtMostIssued.metadata {allows : Event Services → Prop} (h : AtMostIssued allows rt s s') :
    s'.metadata = s.metadata := by
  rcases h with rfl | ⟨approval, -, rfl⟩ <;> rfl

/-- **One entry.**  A visit enters what the desk admits, and the cycle goes on
where the desk then stands. -/
theorem Stands.produces (h : Stands rt d s) (hturn : d.turn = some entry.agent)
    (hproduces : Produces rt s entry out) :
    ∃ d', d.enter entry = some d' ∧ nextCursor entry.agent out = d'.cursor ∧
      (d'.turn.isSome → Stands rt d' out) := by
  cases hproduces with
  | @failed a s' out left update =>
      have hmetadata : ∀ key, key ≠ "last_error" →
          out.metadata.get? key = s.metadata.get? key := by
        intro key hkey
        obtain ⟨e, report, -, rfl⟩ := update
        rw [← left.metadata]
        exact Table.get?_set_of_ne (Ne.symm hkey) _
      refine ⟨_, if_pos hturn, ?_, ?_⟩
      · rw [Entry.agent, nextCursor]
        by_cases ha : a = .orchestrator
        · rw [if_pos ha, update.route, left.route, h.route, d.followRoute_route, ha]
          rfl
        · rw [if_neg ha]
          simp [Desk.cursor, ha]
      · intro hsome
        refine h.kept hmetadata ?_
        cases hlast : d.last with
        | some b => rfl
        | none =>
            have hfirst := h.first hlast
            obtain rfl : a = .orchestrator := by simpa [hfirst, Entry.agent] using hturn.symm
            simp [hlast] at hsome
  | @worked a art out artifacts formed update =>
      obtain ⟨messages, report, -, -, rfl⟩ := update
      refine ⟨_, if_pos hturn, ?_, fun _ => h.kept (fun key _ => ?_) ?_⟩
      · simp [Entry.agent, nextCursor, Desk.cursor, a.agent_ne_orchestrator]
      · simp [applyStateUpdate, artifacts.metadata]
      · cases hlast : d.last with
        | some b => rfl
        | none =>
            have hfirst := h.first hlast
            rw [hturn] at hfirst
            exact absurd (Option.some.inj hfirst) a.agent_ne_orchestrator
  | @dispatched a next rest approval art out pending dispatches formed announces update =>
      have htodo : d.todo = some a :: rest.map Specialist.ofValue? := by
        rw [← h.agenda]
        simp [Orchestrator.agenda, pending, dispatches.known]
      obtain ⟨messages, report, -, -, rfl⟩ := update
      have hname := Specialist.asStr?_of_ofValue? dispatches.known
      have hroute : routeFromOrchestrator (applyStateUpdate (s.withApproval approval)
          (messages ++ art.messages) art report) = some a.name := by
        simp [routeFromOrchestrator, applyStateUpdate, dispatches.metadata, hname]
      have hrest : (applyStateUpdate (s.withApproval approval) (messages ++ art.messages) art
          report).metadata.get? "pending_agents" = some (.list rest) := by
        simp [applyStateUpdate, dispatches.metadata]
      refine ⟨_, if_pos ⟨hturn, by rw [htodo]; rfl⟩, ?_, fun _ => ⟨?_, hroute,
        fun _ => ⟨rest, hrest⟩, fun hnone => by contradiction⟩⟩
      · rw [Entry.agent, nextCursor, if_pos rfl, hroute, followRoute_name]
        rfl
      · rw [Orchestrator.agenda_of_list hrest, htodo]
        rfl
  | @finalized art out pending finalizes formed silent update =>
      have htodo : d.todo = [] := by
        rw [← h.agenda]
        simp [Orchestrator.agenda, pending]
      obtain ⟨messages, report, -, -, rfl⟩ := update
      refine ⟨_, if_pos ⟨hturn, htodo⟩, ?_, fun hsome => by contradiction⟩
      simp [Entry.agent, nextCursor, routeFromOrchestrator, applyStateUpdate, finalizes.metadata,
        Value.asStr?, followRoute, Desk.cursor]

end Steps

/-! ## runs -/

/-- The cycle stands where the desk does, after a visit for each entry. -/
structure AtDesk (journal : List Entry) (d : Desk) (c : Cycle) : Prop where
  cursor : c.cursor = d.cursor
  visited : c.visited = journal.map Entry.agent

/-- The cycle has crashed, at a hand-off or in the visit that was next. -/
structure OffDesk (journal : List Entry) (d : Desk) (c : Cycle) : Prop where
  cursor : ∃ e, c.cursor = .crashed e
  visited : c.visited = journal.map Entry.agent ∨
    ∃ node, d.turn = some node ∧ c.visited = journal.map Entry.agent ++ [node]

/-- The cycle keeps the journal: the desk admits it, and the histories of the
state are those its entries amount to. -/
structure Journaled (rt : Runtime) (d₀ : Desk) (journal : List Entry) (d : Desk) (c : Cycle) :
    Prop where
  admitted : d₀.replay journal = some d
  view : c.state.view = View.of journal
  position : AtDesk journal d c ∨ OffDesk journal d c
  stands : d.turn.isSome → Stands rt d c.state

section Runs

variable {rt : Runtime} {d₀ d : Desk} {journal : List Entry} {c : Cycle} {node : AgentName}

theorem Desk.turn_of_cursor (h : d.cursor = .at node) : d.turn = some node := by
  cases hturn : d.turn with
  | none => simp [cursor, hturn] at h
  | some a => simpa [cursor, hturn] using h

/-- The node a journaled cycle is at is the one whose turn it is. -/
theorem Journaled.at (h : Journaled rt d₀ journal d c) (hcursor : c.cursor = .at node) :
    AtDesk journal d c ∧ d.turn = some node := by
  rcases h.position with hat | hoff
  · exact ⟨hat, Desk.turn_of_cursor (hat.cursor.symm.trans hcursor)⟩
  · obtain ⟨e, hcrashed⟩ := hoff.cursor
    rw [hcursor] at hcrashed
    contradiction

/-- The cycle after a visit that returned. -/
def Cycle.continued (c : Cycle) (node : AgentName) (out : GestaltGraphState) : Cycle where
  cursor := nextCursor node out
  state := out
  visited := c.visited ++ [node]

/-- A visit that returns enters into the journal what it produced. -/
theorem Journaled.visited {w : Surroundings Services} {out : GestaltGraphState}
    (h : Journaled rt d₀ journal d c) (hat : AtDesk journal d c) (hturn : d.turn = some node)
    (hrun : ((run rt (agentAt rt node)).run w c.state).result = .ok out) :
    ∃ entry d', Enters c.state entry out ∧ d.enter entry = some d' ∧
      Journaled rt d₀ (journal ++ [entry]) d' (c.continued node out) ∧
      AtDesk (journal ++ [entry]) d' (c.continued node out) := by
  obtain ⟨entry, rfl, hproduces⟩ :=
    (spec_produces rt node c.state).of_ok (fun _ _ => trivial) hrun
  have hstands : Stands rt d c.state := h.stands (by rw [hturn]; rfl)
  obtain ⟨d', henter, hcursor, hstands'⟩ := hstands.produces hturn hproduces
  have hat' : AtDesk (journal ++ [entry]) d' (c.continued entry.agent out) :=
    ⟨hcursor, by simp [Cycle.continued, hat.visited]⟩
  have hadmitted : d₀.replay (journal ++ [entry]) = some d' := by
    rw [Desk.replay_snoc, h.admitted]
    exact henter
  exact ⟨entry, d', hproduces.enters, henter,
    ⟨hadmitted, hproduces.enters.view h.view, Or.inl hat', hstands'⟩, hat'⟩

/-- A step keeps the journal, or enters into it what the visit produced. -/
theorem Journaled.step (h : Journaled rt d₀ journal d c) (hrange : c.state.stats.InRange)
    (v : Visit) : ∃ journal' d', Journaled rt d₀ journal' d' (c.step rt v) := by
  have hmoves := Cycle.moves hrange rt v
  generalize c.step rt v = c' at hmoves ⊢
  cases hmoves with
  | stays _ => exact ⟨journal, d, h⟩
  | rejected hcursor _ =>
      obtain ⟨hat, -⟩ := h.at hcursor
      exact ⟨journal, d, h.admitted, h.view, Or.inr ⟨⟨_, rfl⟩, Or.inl hat.visited⟩, h.stands⟩
  | @raised node e hcursor _ _ =>
      obtain ⟨hat, hturn⟩ := h.at hcursor
      refine ⟨journal, d, h.admitted, h.view, Or.inr ⟨⟨_, rfl⟩, Or.inr ⟨node, hturn, ?_⟩⟩, h.stands⟩
      rw [hat.visited]
  | @visited node out hcursor _ hrun =>
      obtain ⟨hat, hturn⟩ := h.at hcursor
      obtain ⟨entry, d', -, -, hjournaled, -⟩ := h.visited hat hturn hrun
      exact ⟨_, d', hjournaled⟩

end Runs

/-- A cycle starts with an empty journal. -/
theorem journaled_start (rt : Runtime) (fresh : Fresh) {request : CycleRequest}
    (hroute : request.metadata.get? "next_node" = none) :
    let d := Desk.opening rt (buildGraphState fresh request)
    Journaled rt d [] d (Cycle.start fresh request) ∧ AtDesk [] d (Cycle.start fresh request) := by
  intro d
  have hat : AtDesk [] d (Cycle.start fresh request) := ⟨rfl, rfl⟩
  have hstands : Stands rt d (buildGraphState fresh request) := by
    refine ⟨rfl, ?_, fun h => by contradiction, fun _ => rfl⟩
    have hnone : (buildGraphState fresh request).metadata.get? "next_node" = none := hroute
    rw [routeFromOrchestrator, hnone]
    rfl
  exact ⟨⟨rfl, rfl, Or.inl hat, fun _ => hstands⟩, hat⟩

/-- After any number of visits a cycle keeps a journal. -/
theorem Cycle.journaled_after (rt : Runtime) (fresh : Fresh) {request : CycleRequest}
    (visits : Nat → Visit) (n : Nat) (hroute : request.metadata.get? "next_node" = none) :
    ∃ journal d, Journaled rt (Desk.opening rt (buildGraphState fresh request)) journal d
      (after rt visits (start fresh request) n) := by
  induction n with
  | zero => exact ⟨[], _, (journaled_start rt fresh hroute).1⟩
  | succ n ih =>
      obtain ⟨journal, d, h⟩ := ih
      exact h.step (sound_after rt fresh request visits n).inRange (visits n)

/-- **Every cycle keeps a journal.**  For every request that does not bring a
route along, in every run, whatever is answered and whatever fails: the reports,
decisions, messages, memories, audits and proposals of the state are those of a
journal that the desk of the request admits, and the cycle stands where the desk
does unless it crashed. -/
theorem Cycle.exists_journal (rt : Runtime) (fresh : Fresh) (request : CycleRequest)
    (visits : Nat → Visit) (n : Nat) (hroute : request.metadata.get? "next_node" = none) :
    ∃ journal d, Journaled rt (Desk.opening rt (buildGraphState fresh request)) journal d
      (after rt visits (start fresh request) n) :=
  journaled_after rt fresh visits n hroute

/-- The journal of a cycle with a dispatch, after a visit that failed. -/
theorem Cycle.exists_journal_outage :
    ∃ journal d, Journaled Reference.runtime
      (Desk.opening Reference.runtime (buildGraphState Reference.fresh Reference.watchRequest))
      journal d
      (after Reference.runtime Reference.outage (start Reference.fresh Reference.watchRequest) 3) :=
  exists_journal Reference.runtime Reference.fresh Reference.watchRequest Reference.outage 3
    (by decide)

end Gestalt
