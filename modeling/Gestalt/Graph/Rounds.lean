import Gestalt.Graph.Finalization
import Gestalt.Graph.Pace

/-!
# Gestalt.Graph.Rounds

The journals of cycles that end.

A journal that closes the desk is made of rounds: each element of the plan is
dispatched once, in the order of the plan, and attempted once more for every
failure of the orchestrator that follows.  Hence this is all a request can get
back.
-/

namespace Gestalt

open Effects

/-! ## rounds -/

/-- An attempt of the specialist. -/
def Entry.attempt (a : Specialist) (completed : Bool) : Entry :=
  if completed then .worked a else .failed a.agent

/-- What becomes of one element of the plan: a first attempt, and one for each
failure of the orchestrator. -/
structure Round where
  specialist : Specialist
  first : Bool
  retries : List Bool
  deriving DecidableEq, Repr

namespace Round

/-- The failures of the orchestrator, each with the attempt it leads to. -/
def again (a : Specialist) (retries : List Bool) : List Entry :=
  retries.flatMap fun completed => [.failed .orchestrator, .attempt a completed]

/-- The entries of a round. -/
def entries (round : Round) : List Entry :=
  .dispatched round.specialist :: .attempt round.specialist round.first ::
    again round.specialist round.retries

/-- The journal of a cycle that is finalized after the rounds. -/
def journal (rounds : List Round) : List Entry := rounds.flatMap entries ++ [.finalized]

end Round

/-! ## journals of rounds -/

namespace Desk

/-- An attempt of the specialist whose turn it is returns to the orchestrator. -/
theorem enter_attempt {d : Desk} {a : Specialist} (hturn : d.turn = some a.agent)
    (completed : Bool) :
    d.enter (.attempt a completed) = some { d with turn := some .orchestrator } := by
  cases completed with
  | true => simp [Entry.attempt, enter, hturn]
  | false => simp [Entry.attempt, enter, hturn, a.agent_ne_orchestrator]

/-- Retries lead back to where they start. -/
theorem replay_again (a : Specialist) (todo : List (Option Specialist)) (retries : List Bool) :
    (⟨some .orchestrator, some a, todo⟩ : Desk).replay (Round.again a retries) =
      some ⟨some .orchestrator, some a, todo⟩ := by
  induction retries with
  | nil => rfl
  | cons completed retries ih =>
      have hattempt : (⟨some a.agent, some a, todo⟩ : Desk).enter (.attempt a completed) =
          some ⟨some .orchestrator, some a, todo⟩ := enter_attempt rfl completed
      have hfailed : (⟨some .orchestrator, some a, todo⟩ : Desk).enter (.failed .orchestrator) =
          some ⟨some a.agent, some a, todo⟩ := rfl
      rw [Round.again, List.flatMap_cons, List.cons_append, List.cons_append, List.nil_append,
        replay_cons, hfailed, Option.bind_some, replay_cons, hattempt]
      exact ih

theorem replay_append (d : Desk) (before after : List Entry) :
    d.replay (before ++ after) = (d.replay before).bind fun d => d.replay after := by
  simp [replay, List.foldlM_append]

/-- A round takes its specialist off the plan. -/
theorem replay_entries (round : Round) (last : Option Specialist)
    (todo : List (Option Specialist)) :
    (⟨some .orchestrator, last, some round.specialist :: todo⟩ : Desk).replay round.entries =
      some ⟨some .orchestrator, some round.specialist, todo⟩ := by
  obtain ⟨a, completed, retries⟩ := round
  have hattempt : (⟨some a.agent, some a, todo⟩ : Desk).enter (.attempt a completed) =
      some ⟨some .orchestrator, some a, todo⟩ := enter_attempt rfl completed
  have hdispatched : (⟨some .orchestrator, last, some a :: todo⟩ : Desk).enter (.dispatched a) =
      some ⟨some a.agent, some a, todo⟩ := by simp [enter]
  rw [Round.entries, replay_cons, hdispatched, Option.bind_some, replay_cons, hattempt]
  exact replay_again a todo retries

/-- **Rounds over the plan close the desk.** -/
theorem replay_rounds (rounds : List Round) (last : Option Specialist) :
    ∃ d, (⟨some .orchestrator, last, rounds.map fun round => some round.specialist⟩ : Desk).replay
      (Round.journal rounds) = some d ∧ d.turn = none := by
  induction rounds generalizing last with
  | nil => exact ⟨_, rfl, rfl⟩
  | cons round rounds ih =>
      obtain ⟨d, hreplay, hturn⟩ := ih (some round.specialist)
      refine ⟨d, ?_, hturn⟩
      rw [Round.journal, List.flatMap_cons, List.append_assoc, replay_append, List.map_cons,
        replay_entries]
      exact hreplay

/-- The journals that close a desk on which the specialist was dispatched, when the
orchestrator is next and when the specialist is. -/
structure Closes (a : Specialist) (todo : List (Option Specialist)) (journal : List Entry) :
    Prop where
  routing : ∀ d, (⟨some .orchestrator, some a, todo⟩ : Desk).replay journal = some d →
    d.turn = none → ∃ retries rounds, journal = Round.again a retries ++ Round.journal rounds ∧
      todo = rounds.map fun round => some round.specialist
  working : ∀ d, (⟨some a.agent, some a, todo⟩ : Desk).replay journal = some d →
    d.turn = none → ∃ completed retries rounds,
      journal = .attempt a completed :: (Round.again a retries ++ Round.journal rounds) ∧
      todo = rounds.map fun round => some round.specialist

theorem closes (a : Specialist) (todo : List (Option Specialist)) (journal : List Entry) :
    Closes a todo journal := by
  induction journal generalizing a todo with
  | nil =>
      constructor
      · intro d hreplay hturn
        obtain rfl := Option.some.inj hreplay
        contradiction
      · intro d hreplay hturn
        obtain rfl := Option.some.inj hreplay
        contradiction
  | cons entry journal ih =>
      constructor
      · intro d hreplay hturn
        obtain ⟨d₁, henter, hrest⟩ := Option.bind_eq_some_iff.mp hreplay
        cases entry with
        | failed b =>
            obtain ⟨hb, hd⟩ : AgentName.orchestrator = b ∧ some _ = some d₁ := by
              simpa [enter] using henter
            subst hb
            obtain rfl := Option.some.inj hd
            obtain ⟨completed, retries, rounds, rfl, htodo⟩ := (ih a todo).working d hrest hturn
            exact ⟨completed :: retries, rounds, rfl, htodo⟩
        | worked b =>
            have hb : AgentName.orchestrator = b.agent := by
              simpa [enter] using (Option.isSome_iff_exists.mpr ⟨d₁, henter⟩ : Option.isSome _)
            exact absurd hb.symm b.agent_ne_orchestrator
        | dispatched b =>
            obtain ⟨hhead, hd⟩ : todo.head? = some (some b) ∧ some _ = some d₁ := by
              simpa [enter] using henter
            obtain rfl := Option.some.inj hd
            obtain ⟨rest, rfl⟩ := List.head?_eq_some_iff.mp hhead
            obtain ⟨completed, retries, rounds, rfl, htodo⟩ := (ih b rest).working d hrest hturn
            refine ⟨[], ⟨b, completed, retries⟩ :: rounds, ?_, ?_⟩
            · simp [Round.again, Round.journal, Round.entries]
            · simp [htodo]
        | finalized =>
            obtain ⟨htodo, hd⟩ : todo = [] ∧ some _ = some d₁ := by simpa [enter] using henter
            obtain rfl := Option.some.inj hd
            obtain ⟨rfl, -⟩ := replay_of_ended rfl hrest
            exact ⟨[], [], rfl, htodo⟩
      · intro d hreplay hturn
        obtain ⟨d₁, henter, hrest⟩ := Option.bind_eq_some_iff.mp hreplay
        obtain ⟨completed, rfl⟩ : ∃ completed, entry = .attempt a completed := by
          cases entry with
          | failed b =>
              obtain ⟨hb, -⟩ : a.agent = b ∧ some _ = some d₁ := by simpa [enter] using henter
              exact ⟨false, by rw [← hb]; rfl⟩
          | worked b =>
              obtain ⟨hb, -⟩ : a.agent = b.agent ∧ some _ = some d₁ := by
                simpa [enter] using henter
              exact ⟨true, by rw [Specialist.agent_injective hb]; rfl⟩
          | dispatched b => simp [enter, a.agent_ne_orchestrator] at henter
          | finalized => simp [enter, a.agent_ne_orchestrator] at henter
        rw [enter_attempt rfl] at henter
        obtain rfl := Option.some.inj henter
        obtain ⟨retries, rounds, rfl, htodo⟩ := (ih a todo).routing d hrest hturn
        exact ⟨completed, retries, rounds, rfl, htodo⟩

/-- **The journals that close a desk** are those of rounds over the plan, and the
one in which the first invocation of the orchestrator fails. -/
theorem closed_iff {todo : List (Option Specialist)} {journal : List Entry} :
    (∃ d, (⟨some .orchestrator, none, todo⟩ : Desk).replay journal = some d ∧ d.turn = none) ↔
      journal = [.failed .orchestrator] ∨ ∃ rounds, journal = Round.journal rounds ∧
        todo = rounds.map fun round => some round.specialist := by
  constructor
  · intro h
    obtain ⟨d, hreplay, hturn⟩ := h
    cases journal with
    | nil =>
        obtain rfl := Option.some.inj hreplay
        contradiction
    | cons entry journal =>
        obtain ⟨d₁, henter, hrest⟩ := Option.bind_eq_some_iff.mp hreplay
        cases entry with
        | failed b =>
            obtain ⟨hb, hd⟩ : AgentName.orchestrator = b ∧ some _ = some d₁ := by
              simpa [enter] using henter
            subst hb
            obtain rfl := Option.some.inj hd
            obtain ⟨rfl, -⟩ := replay_of_ended rfl hrest
            exact Or.inl rfl
        | worked b =>
            have hb : AgentName.orchestrator = b.agent := by
              simpa [enter] using (Option.isSome_iff_exists.mpr ⟨d₁, henter⟩ : Option.isSome _)
            exact absurd hb.symm b.agent_ne_orchestrator
        | dispatched b =>
            obtain ⟨hhead, hd⟩ : todo.head? = some (some b) ∧ some _ = some d₁ := by
              simpa [enter] using henter
            obtain rfl := Option.some.inj hd
            obtain ⟨rest, rfl⟩ := List.head?_eq_some_iff.mp hhead
            obtain ⟨completed, retries, rounds, rfl, htodo⟩ :=
              (closes b rest journal).working d hrest hturn
            refine Or.inr ⟨⟨b, completed, retries⟩ :: rounds, ?_, ?_⟩
            · simp [Round.journal, Round.entries]
            · simp [htodo]
        | finalized =>
            obtain ⟨htodo, hd⟩ : todo = [] ∧ some _ = some d₁ := by simpa [enter] using henter
            obtain rfl := Option.some.inj hd
            obtain ⟨rfl, -⟩ := replay_of_ended rfl hrest
            exact Or.inr ⟨[], rfl, htodo⟩
  · intro h
    rcases h with rfl | ⟨rounds, rfl, rfl⟩
    · exact ⟨_, rfl, rfl⟩
    · exact replay_rounds rounds none

end Desk

/-! ## what a request gets back -/

/-- The attempts and the failures of the orchestrator are silent. -/
theorem Round.decisions_again (a : Specialist) (retries : List Bool) :
    (again a retries).flatMap Entry.decisions = [] := by
  rw [List.flatMap_eq_nil_iff]
  intro entry hmem
  obtain ⟨completed, -, hmem⟩ := List.mem_flatMap.mp hmem
  simp only [List.mem_cons, List.not_mem_nil, or_false] at hmem
  rcases hmem with rfl | rfl
  · rfl
  · cases completed <;> rfl

theorem Round.decisions_entries (round : Round) :
    round.entries.flatMap Entry.decisions = [round.specialist.decision] := by
  obtain ⟨a, completed, retries⟩ := round
  have hagain := decisions_again a retries
  cases completed <;> simp [entries, Entry.attempt, Entry.decisions, hagain]

/-- Rounds decide on their specialists, one after the other. -/
theorem Round.decisions_journal (rounds : List Round) :
    (journal rounds).flatMap Entry.decisions =
      rounds.map (fun round => round.specialist.decision) ++ [.finalize] := by
  rw [journal, List.flatMap_append]
  congr 1
  induction rounds with
  | nil => rfl
  | cons round rounds ih =>
      rw [List.flatMap_cons, List.flatMap_append, decisions_entries, ih]
      rfl

/-- **What a request gets back.**  For every request that does not bring a route
along, whatever is answered and whatever fails: a cycle that returns has either
failed to route at all, or dispatched its whole plan, each element once and in
order, with one more attempt for every failure of the orchestrator that follows,
and then finalized. -/
theorem runCycle_rounds (rt : Runtime) (executions : Nat) (fresh : Fresh) (visits : Nat → Visit)
    (last : LoadContext) (request : CycleRequest) {final : GestaltGraphState}
    (hroute : request.metadata.get? "next_node" = none)
    (h : runCycle rt executions fresh visits last request = .ok final) :
    final.view = View.of [.failed .orchestrator] ∨
    ∃ rounds : List Round,
      Orchestrator.agenda rt (buildGraphState fresh request) =
        rounds.map (fun round => some round.specialist) ∧
      final.view = View.of (Round.journal rounds) ∧
      final.decisions = rounds.map (fun round => round.specialist.decision) ++ [.finalize] ∧
      final.executionReports.length ≤ executions := by
  obtain ⟨hended, rfl, -⟩ := runCycle_ok_iff.mp h
  obtain ⟨journal, d, hjournal⟩ := Cycle.journaled_after rt fresh visits executions hroute
  have hbound : (Cycle.after rt visits (Cycle.start fresh request) executions).visited.length ≤
      0 + executions := Cycle.length_visited_le executions
  generalize Cycle.after rt visits (Cycle.start fresh request) executions = c at *
  have hat : AtDesk journal d c := by
    rcases hjournal.position with hat | hoff
    · exact hat
    · obtain ⟨e, hcrashed⟩ := hoff.cursor
      rw [hended] at hcrashed
      contradiction
  have hturn : d.turn = none := by
    cases hturn : d.turn with
    | none => rfl
    | some node =>
        have hcursor := hat.cursor
        rw [hended, Desk.cursor, hturn] at hcursor
        contradiction
  rcases Desk.closed_iff.mp ⟨d, hjournal.admitted, hturn⟩ with rfl | ⟨rounds, rfl, hplan⟩
  · exact Or.inl hjournal.view
  · refine Or.inr ⟨rounds, hplan, hjournal.view, ?_, ?_⟩
    · rw [← Round.decisions_journal]
      exact congrArg View.decisions hjournal.view
    · rw [hjournal.length_reports]
      rw [hat.visited, List.length_map] at hbound
      omega

/-- A cycle that routes a second time and returns. -/
theorem runCycle_rounds_retried :
    ∃ final, runCycle Reference.runtime 5 Reference.fresh (visitsOf Reference.retried) ⟨0, 0⟩
        Reference.monitorRequest = .ok final ∧
      (final.view = View.of [.failed .orchestrator] ∨
        ∃ rounds : List Round,
          Orchestrator.agenda Reference.runtime
              (buildGraphState Reference.fresh Reference.monitorRequest) =
            rounds.map (fun round => some round.specialist) ∧
          final.view = View.of (Round.journal rounds) ∧
          final.decisions = rounds.map (fun round => round.specialist.decision) ++ [.finalize] ∧
          final.executionReports.length ≤ 5) := by
  have hadmitted : (Desk.opening Reference.runtime
      (buildGraphState Reference.fresh Reference.monitorRequest)).replay Reference.retried =
        some ⟨none, some .monitor, []⟩ := by decide
  obtain ⟨-, hat⟩ := Cycle.realizes Reference.feasible_monitorRequest hadmitted
  have hrun : ∃ final, runCycle Reference.runtime 5 Reference.fresh (visitsOf Reference.retried)
      ⟨0, 0⟩ Reference.monitorRequest = .ok final :=
    ⟨_, runCycle_ok_iff.mpr ⟨hat.cursor, rfl,
      Reference.handsOver_of_still (still_visitsOf Reference.retried) 5⟩⟩
  obtain ⟨final, hfinal⟩ := hrun
  exact ⟨final, hfinal, runCycle_rounds Reference.runtime 5 Reference.fresh
    (visitsOf Reference.retried) ⟨0, 0⟩ Reference.monitorRequest rfl hfinal⟩

/-! ## cycles in which nothing goes wrong -/

/-- A first attempt that completes, and no other. -/
def Round.once (a : Specialist) : Round := ⟨a, true, []⟩

/-- The journal of a plan in which everybody works once. -/
def Round.straight (plan : List Specialist) : List Entry := journal (plan.map once)

theorem Round.length_straight (plan : List Specialist) :
    (straight plan).length = 2 * plan.length + 1 := by
  rw [straight, journal, List.length_append, List.length_singleton]
  induction plan with
  | nil => rfl
  | cons a plan ih =>
      have hround : (once a).entries.length = 2 := rfl
      rw [List.map_cons, List.flatMap_cons, List.length_append, hround, List.length_cons]
      omega

/-- Nobody fails in it. -/
theorem Round.completed_of_mem_straight {plan : List Specialist} {entry : Entry}
    (h : entry ∈ straight plan) : entry.report.2 = .completed := by
  rcases List.mem_append.mp h with hmem | hmem
  · obtain ⟨round, hround, hentry⟩ := List.mem_flatMap.mp hmem
    obtain ⟨a, -, rfl⟩ := List.mem_map.mp hround
    have hpair : entry = .dispatched a ∨ entry = .worked a := by
      simpa [once, entries, again, Entry.attempt] using hentry
    rcases hpair with rfl | rfl <;> rfl
  · obtain rfl := List.mem_singleton.mp hmem
    rfl

/-- The hand-off happens in time, and the visit is smooth. -/
structure Cycle.Smoothly (rt : Runtime) (v : Visit) (c : Cycle) : Prop where
  handsOver : c.HandsOver v
  smooth : c.Allows Smooth rt v

theorem Cycle.Smoothly.leads {rt : Runtime} {v : Visit} {c : Cycle} (h : c.Smoothly rt v)
    {entry : Entry} (hcompleted : entry.report.2 = .completed) : c.Leads rt v entry where
  handsOver := h.handsOver
  smooth _ := h.smooth
  recallFails hfailed := by
    rw [hcompleted] at hfailed
    contradiction
  clockSane node hcursor ev hev := (h.smooth node hcursor ev hev).clockSane

/-- **A request comes through.**  For every feasible request with a plan of `k`
specialists: if nothing goes wrong during `2 k + 1` steps and telemetry is
plausible, then a cycle with at least so many steps returns, and what it returns
shows that every element of the plan was dispatched and has worked once. -/
theorem runCycle_completes (rt : Runtime) (executions : Nat) (fresh : Fresh) (visits : Nat → Visit)
    (last : LoadContext) (request : CycleRequest) (hfeasible : request.Feasible rt fresh)
    {plan : List Specialist}
    (hplan : Orchestrator.agenda rt (buildGraphState fresh request) = plan.map some)
    (henough : 2 * plan.length + 1 ≤ executions)
    (hsmooth : ∀ n < 2 * plan.length + 1,
      (Cycle.after rt visits (Cycle.start fresh request) n).Smoothly rt (visits n))
    (hlast : ∀ a ∈ (Cycle.after rt visits (Cycle.start fresh request) executions).state.approvals,
      last.now < a.expiresAt) :
    ∃ final, runCycle rt executions fresh visits last request = .ok final ∧
      final.view = View.of (Round.straight plan) := by
  obtain ⟨d, hadmitted, hturn⟩ := Desk.replay_rounds (plan.map Round.once) none
  have hopening : Desk.opening rt (buildGraphState fresh request) =
      ⟨some .orchestrator, none, (plan.map Round.once).map fun round => some round.specialist⟩ := by
    rw [Desk.opening, hplan, List.map_map]
    rfl
  rw [← hopening] at hadmitted
  have hleads : ∀ n (hn : n < (Round.straight plan).length),
      (Cycle.after rt visits (Cycle.start fresh request) n).Leads rt (visits n)
        (Round.straight plan)[n] := fun n hn =>
    (hsmooth n (by rwa [← Round.length_straight plan])).leads
      (Round.completed_of_mem_straight (List.getElem_mem hn))
  have hkept := Cycle.follows hfeasible hadmitted hleads
  have hlength : (Round.journal (plan.map Round.once)).length = 2 * plan.length + 1 :=
    Round.length_straight plan
  rw [hlength] at hkept
  obtain ⟨hjournaled, hat⟩ := hkept
  have hended : (Cycle.after rt visits (Cycle.start fresh request)
      (2 * plan.length + 1)).cursor = .ended := by rw [hat.cursor, Desk.cursor, hturn]
  have hstays := Cycle.after_of_ended henough hended
  refine ⟨_, runCycle_ok_iff.mpr ⟨?_, rfl, hlast⟩, ?_⟩
  · rw [hstays]
    exact hended
  · rw [hstays]
    exact hjournaled.view

namespace Reference

/-- A calm cycle runs smoothly. -/
theorem smoothly_calm {rt : Runtime} {fresh : Fresh} {request : CycleRequest} (n : Nat) :
    (Cycle.after rt calm (Cycle.start fresh request) n).Smoothly rt (calm n) where
  handsOver := handsOver_calm n n
  smooth node _ := smooth_visit rt _ node

end Reference

/-- The monitor of the reference world works once. -/
theorem runCycle_completes_monitor :
    ∃ final, runCycle Reference.runtime 25 Reference.fresh Reference.calm ⟨0, 0⟩
        Reference.monitorRequest = .ok final ∧
      final.view = View.of (Round.straight [.monitor]) :=
  runCycle_completes Reference.runtime 25 Reference.fresh Reference.calm ⟨0, 0⟩
    Reference.monitorRequest Reference.feasible_monitorRequest rfl (by decide)
    (fun n _ => Reference.smoothly_calm n) (Reference.handsOver_calm 25 25)

end Gestalt
