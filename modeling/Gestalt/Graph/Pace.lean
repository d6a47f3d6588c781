import Gestalt.Graph.Realization

/-!
# Gestalt.Graph.Pace

How long a cycle takes.

Each entry leads the desk one step on, unless the orchestrator fails: then the
specialist dispatched last comes once more.  So the length of a run that ends is
known from its plan and its failures, and so is the end of a run from its length.
-/

namespace Gestalt

open Effects Program

/-! ## length -/

namespace Desk

/-- How many entries are to come if the orchestrator does not fail. -/
def distance (d : Desk) : Nat :=
  match d.turn with
  | none => 0
  | some node => if node = .orchestrator then 2 * d.todo.length + 1 else 2 * d.todo.length + 2

/-- Underway, an entry leads one step on, unless the orchestrator fails: then the
last specialist comes once more. -/
theorem distance_enter {d d' : Desk} {entry : Entry} (hunderway : d.last.isSome)
    (h : d.enter entry = some d') :
    d'.last.isSome ∧ 1 + d'.distance = d.distance + 2 * [entry].count (.failed .orchestrator) := by
  obtain ⟨b, hlast⟩ := Option.isSome_iff_exists.mp hunderway
  cases entry with
  | failed a =>
      obtain ⟨hturn, hd⟩ : d.turn = some a ∧ some _ = some d' := by simpa [enter] using h
      obtain rfl := Option.some.inj hd
      refine ⟨hunderway, ?_⟩
      by_cases ha : a = .orchestrator
      · subst ha
        simp [distance, hturn, hlast, b.agent_ne_orchestrator]
        omega
      · simp [distance, hturn, ha]
        omega
  | worked a =>
      obtain ⟨hturn, hd⟩ : d.turn = some a.agent ∧ some _ = some d' := by simpa [enter] using h
      obtain rfl := Option.some.inj hd
      refine ⟨hunderway, ?_⟩
      simp [distance, hturn, a.agent_ne_orchestrator]
      omega
  | dispatched a =>
      obtain ⟨⟨hturn, hhead⟩, hd⟩ :
          (d.turn = some .orchestrator ∧ d.todo.head? = some (some a)) ∧ some _ = some d' := by
        simpa [enter] using h
      obtain rfl := Option.some.inj hd
      obtain ⟨rest, htodo⟩ := List.head?_eq_some_iff.mp hhead
      refine ⟨rfl, ?_⟩
      simp [distance, hturn, htodo, a.agent_ne_orchestrator]
      omega
  | finalized =>
      obtain ⟨⟨hturn, htodo⟩, hd⟩ :
          (d.turn = some .orchestrator ∧ d.todo = []) ∧ some _ = some d' := by
        simpa [enter] using h
      obtain rfl := Option.some.inj hd
      refine ⟨hunderway, ?_⟩
      simp [distance, hturn, htodo]

/-- Underway, the journal and what is to come make up the way, with a round for
every failure of the orchestrator. -/
theorem distance_replay {d d' : Desk} {journal : List Entry} (hunderway : d.last.isSome)
    (h : d.replay journal = some d') :
    journal.length + d'.distance =
      d.distance + 2 * journal.count (.failed .orchestrator) := by
  induction journal generalizing d with
  | nil =>
      obtain rfl := Option.some.inj h
      simp
  | cons entry journal ih =>
      obtain ⟨d₁, henter, hreplay⟩ := Option.bind_eq_some_iff.mp h
      obtain ⟨hunderway₁, hentry⟩ := distance_enter hunderway henter
      have hrest := ih hunderway₁ hreplay
      have hcount : (entry :: journal).count (.failed .orchestrator) =
          [entry].count (.failed .orchestrator) + journal.count (.failed .orchestrator) :=
        @List.count_append _ _ _ [entry] journal
      rw [List.length_cons, hcount]
      omega

/-- An ended desk admits nothing. -/
theorem enter_of_ended {d : Desk} (h : d.turn = none) (entry : Entry) : d.enter entry = none := by
  cases entry <;> simp [enter, h]

theorem replay_of_ended {d d' : Desk} {journal : List Entry} (h : d.turn = none)
    (hreplay : d.replay journal = some d') : journal = [] ∧ d' = d := by
  cases journal with
  | nil => exact ⟨rfl, (Option.some.inj hreplay).symm⟩
  | cons entry journal => simp [enter_of_ended h] at hreplay

/-- **The length of a journal.**  Either the first invocation of the orchestrator
failed, and that is all, or the entries and what is to come are two for each
element of the plan, two for each failure of the orchestrator, and one. -/
theorem length_of_replay {todo : List (Option Specialist)} {d : Desk} {journal : List Entry}
    (h : (⟨some .orchestrator, none, todo⟩ : Desk).replay journal = some d) :
    (journal = [.failed .orchestrator] ∧ d.turn = none) ∨
    journal.length + d.distance =
      2 * todo.length + 1 + 2 * journal.count (.failed .orchestrator) := by
  cases journal with
  | nil =>
      obtain rfl := Option.some.inj h
      exact Or.inr (by simp [distance])
  | cons entry journal =>
      obtain ⟨d₁, henter, hreplay⟩ := Option.bind_eq_some_iff.mp h
      cases entry with
      | failed a =>
          obtain ⟨ha, hd⟩ : AgentName.orchestrator = a ∧ some _ = some d₁ := by
            simpa [enter] using henter
          obtain rfl := Option.some.inj hd
          obtain ⟨rfl, rfl⟩ := replay_of_ended (by simp [← ha]) hreplay
          exact Or.inl ⟨by rw [ha], by simp [← ha]⟩
      | worked a =>
          have hturn : AgentName.orchestrator = a.agent := by
            simpa [enter] using (Option.isSome_iff_exists.mpr ⟨d₁, henter⟩ : Option.isSome _)
          exact absurd hturn.symm a.agent_ne_orchestrator
      | dispatched a =>
          obtain ⟨hhead, hd⟩ : todo.head? = some (some a) ∧ some _ = some d₁ := by
            simpa [enter] using henter
          obtain rfl := Option.some.inj hd
          obtain ⟨rest, rfl⟩ := List.head?_eq_some_iff.mp hhead
          have hrest := distance_replay rfl hreplay
          refine Or.inr ?_
          rw [List.length_cons, List.count_cons_of_ne (by simp)]
          simp [distance, a.agent_ne_orchestrator] at hrest ⊢
          omega
      | finalized =>
          obtain ⟨htodo, hd⟩ : todo = [] ∧ some _ = some d₁ := by simpa [enter] using henter
          obtain rfl := Option.some.inj hd
          obtain ⟨rfl, rfl⟩ := replay_of_ended rfl hreplay
          exact Or.inr (by simp [distance, htodo])

end Desk

/-- How often the orchestrator has reported a failure. -/
def GestaltGraphState.routingFailures (s : GestaltGraphState) : Nat :=
  s.view.reports.count (Entry.failed .orchestrator).report

theorem Entry.report_eq_iff (entry : Entry) :
    entry.report = (failed .orchestrator).report ↔ entry = failed .orchestrator := by
  cases entry with
  | failed a => cases a <;> decide
  | worked a => cases a <;> decide
  | dispatched a => simp [report]
  | finalized => simp [report]

theorem View.count_of (journal : List Entry) :
    (View.of journal).reports.count (Entry.failed .orchestrator).report =
      journal.count (.failed .orchestrator) := by
  rw [View.of, List.count, List.count, List.countP_map]
  refine List.countP_congr fun entry _ => ?_
  simp [Entry.report_eq_iff]

section Length

variable {rt : Runtime} {fresh : Fresh} {request : CycleRequest} {visits : Nat → Visit} {n : Nat}
variable {c : Cycle} {d : Desk} {journal : List Entry} {s : GestaltGraphState}

/-- While a cycle is at a node, every step was a visit. -/
theorem Cycle.length_visited_of_at {node : AgentName}
    (h : (after rt visits c n).cursor = .at node) :
    (after rt visits c n).visited.length = c.visited.length + n := by
  induction n generalizing node with
  | zero => rfl
  | succ n ih =>
      rw [after] at h ⊢
      cases hcursor : (after rt visits c n).cursor with
      | ended => simp [step, hcursor] at h
      | crashed e => simp [step, hcursor] at h
      | «at» node' =>
          have hbefore := ih hcursor
          cases hload : GestaltGraphState.modelValidate (visits n).received
              (after rt visits c n).state.modelDump with
          | error e => simp [step, hcursor, hload] at h
          | ok s =>
              cases hrun : ((run rt (agentAt rt node')).run (visits n).answers s).result with
              | error e => simp [step, hcursor, hload, visit, hrun] at h
              | ok out =>
                  simp only [step, hcursor, hload, visit, hrun, List.length_append,
                    List.length_singleton]
                  omega

theorem Journaled.length_reports {d₀ : Desk} (h : Journaled rt d₀ journal d c) :
    c.state.executionReports.length = journal.length := by
  have hreports := congrArg (fun view => view.reports.length) h.view
  simpa [GestaltGraphState.view, View.of] using hreports

/-- A cycle whose first invocation fails has ended. -/
theorem Journaled.turn_of_first (h : Journaled rt (Desk.opening rt s) journal d c)
    (hfirst : c.state.view.reports = [(Entry.failed .orchestrator).report]) : d.turn = none := by
  have hreports : journal.map Entry.report = [(Entry.failed .orchestrator).report] := by
    rw [← hfirst, h.view]
    rfl
  obtain ⟨entry, rfl, hentry⟩ := List.map_eq_singleton_iff.mp hreports
  obtain rfl := (Entry.report_eq_iff entry).mp hentry
  have hadmitted := h.admitted
  simp only [Desk.replay_cons, Desk.replay_nil, Desk.enter, Desk.opening, if_true,
    Option.bind_some, Option.some.injEq] at hadmitted
  rw [← hadmitted]
  rfl

/-- The reports of a journaled cycle, by what its desk still has to come. -/
theorem Journaled.length (h : Journaled rt (Desk.opening rt s) journal d c) :
    (c.state.view.reports = [(Entry.failed .orchestrator).report] ∧ d.turn = none) ∨
    c.state.executionReports.length + d.distance =
      2 * (Orchestrator.agenda rt s).length + 1 + 2 * c.state.routingFailures := by
  have hlength := h.length_reports
  rcases Desk.length_of_replay h.admitted with ⟨rfl, hturn⟩ | hway
  · exact Or.inl ⟨by rw [h.view]; rfl, hturn⟩
  · rw [GestaltGraphState.routingFailures, h.view, View.count_of, hlength]
    exact Or.inr hway

/-- **When a cycle ends.**  For every request that does not bring a route along,
in every run that does not crash: the cycle has ended after `n` steps exactly if
the first invocation of the orchestrator failed, or `n` has reached two steps for
each element of the plan, two for each failure of the orchestrator, and one. -/
theorem Cycle.ended_after_iff (rt : Runtime) (fresh : Fresh) (request : CycleRequest)
    (visits : Nat → Visit) (n : Nat) (hroute : request.metadata.get? "next_node" = none)
    (hcrash : ∀ e, (after rt visits (start fresh request) n).cursor ≠ .crashed e) :
    let c := after rt visits (start fresh request) n
    c.cursor = .ended ↔
      c.state.view.reports = [(Entry.failed .orchestrator).report] ∨
      2 * (Orchestrator.agenda rt (buildGraphState fresh request)).length + 1 +
        2 * c.state.routingFailures ≤ n := by
  intro c
  obtain ⟨journal, d, h⟩ : ∃ journal d, Journaled rt _ journal d c :=
    journaled_after rt fresh visits n hroute
  have hat : AtDesk journal d c := by
    rcases h.position with hat | hoff
    · exact hat
    · obtain ⟨e, hcrashed⟩ := hoff.cursor
      exact absurd hcrashed (hcrash e)
  have hvisited : c.visited.length = c.state.executionReports.length := by
    rw [hat.visited, List.length_map, h.length_reports]
  constructor
  · intro hended
    have hturn : d.turn = none := by
      cases hturn : d.turn with
      | none => rfl
      | some node =>
          have hcursor := hat.cursor
          rw [hended, Desk.cursor, hturn] at hcursor
          contradiction
    refine h.length.imp And.left fun hlength => ?_
    have hbound : c.visited.length ≤ 0 + n := length_visited_le n
    have hdone : d.distance = 0 := by rw [Desk.distance, hturn]
    omega
  · intro hreached
    cases hcursor : c.cursor with
    | ended => rfl
    | crashed e => exact absurd hcursor (hcrash e)
    | «at» node =>
        -- the desk has entries to come, and each step so far has made one
        exfalso
        obtain ⟨-, hturn⟩ := h.at hcursor
        have hpace : c.visited.length = 0 + n := length_visited_of_at hcursor
        have hahead : 0 < d.distance := by
          rw [Desk.distance, hturn]
          dsimp only
          split <;> omega
        rcases h.length with ⟨-, hended⟩ | hlength
        · rw [hended] at hturn
          contradiction
        · rcases hreached with hfirst | hreached
          · rw [h.turn_of_first hfirst] at hturn
            contradiction
          · omega

end Length

/-- A plan of one element and an orchestrator that fails once take five steps. -/
theorem Cycle.ended_after_iff_retried :
    let c := after Reference.runtime (visitsOf Reference.retried)
      (start Reference.fresh Reference.monitorRequest) 5
    c.state.routingFailures = 1 ∧
    (c.cursor = .ended ↔ c.state.view.reports = [(Entry.failed .orchestrator).report] ∨
      2 * (Orchestrator.agenda Reference.runtime
        (buildGraphState Reference.fresh Reference.monitorRequest)).length + 1 +
          2 * c.state.routingFailures ≤ 5) := by
  have hadmitted : (Desk.opening Reference.runtime
      (buildGraphState Reference.fresh Reference.monitorRequest)).replay Reference.retried =
        some ⟨none, some .monitor, []⟩ := by decide
  have hlength : Reference.retried.length = 5 := rfl
  have hrealized := realizes Reference.feasible_monitorRequest hadmitted
  rw [hlength] at hrealized
  have hcrash : ∀ e, (after Reference.runtime (visitsOf Reference.retried)
      (start Reference.fresh Reference.monitorRequest) 5).cursor ≠ .crashed e := by
    intro e
    rw [hrealized.2.cursor]
    simp [Desk.cursor]
  refine ⟨?_, ended_after_iff Reference.runtime Reference.fresh Reference.monitorRequest
    (visitsOf Reference.retried) 5 rfl hcrash⟩
  rw [GestaltGraphState.routingFailures, hrealized.1.view]
  decide

end Gestalt
