import Gestalt.Graph.Schedule
import Gestalt.Reference

/-!
# Gestalt.Graph.Reference

Cycles of the reference runtime: visits in which chosen calls fail or the clock
steps back, and the facts that make concrete runs of them instances of the
theorems about all runs.
-/

namespace Gestalt

open Effects Program

namespace Reference

/-! ## visits -/

/-- A visit in which the calls `failing` names fail. -/
def visit (failing : Call → Bool) : Visit where
  received := ⟨0, 0⟩
  answers _ op := answer failing op

/-- Visits in which nothing fails. -/
def calm : Nat → Visit := fun _ => visit fun _ => false

/-- A visit during which nothing fails, but the clock steps back. -/
def steppedBack : Visit where
  received := ⟨0, 0⟩
  answers _
    | .utcNow (.finished startedAt) => startedAt - 1
    | op => answer (fun _ => false) op

/-- A visit in which every call times out, with an exception that has no text. -/
def timedOut : Visit where
  received := ⟨0, 0⟩
  answers _
    | .call _ => .error (.external "")
    | op => answer (fun _ => false) op

/-- Calm visits, but for a second one in which every call times out. -/
def outage : Nat → Visit
  | 1 => timedOut
  | _ => visit fun _ => false

/-- The identity of a cycle. -/
def fresh : Fresh := ⟨1, 2, 0⟩

/-- A request whose plan is the monitor, for want of a keyword. -/
def watchRequest : CycleRequest where
  objective := .text "Watch the cluster"

/-- A request for the monitor alone. -/
def monitorRequest : CycleRequest :=
  { watchRequest with metadata := [("scheduled_agent", .str "monitor")] }

/-! ## runs in this world -/

/-- Every event of a visit is one of this world. -/
theorem eq_of_mem_trace {rt : Runtime} {failing : Call → Bool} {c : Cycle} {node : AgentName}
    {ev : Event Services} (hev : ev ∈ (c.agentRun rt (visit failing) node).trace) :
    ev = ⟨ev.op, answer failing ev.op⟩ :=
  (answer_of_mem_trace _ _ _ ev hev).choose_spec

/-- The clock does not step back. -/
theorem clockSane_visit (rt : Runtime) (failing : Call → Bool) (c : Cycle) (node : AgentName) :
    ∀ ev ∈ (c.agentRun rt (visit failing) node).trace, ClockSane ev := by
  intro ev hev
  rw [eq_of_mem_trace hev]
  rcases ev.op with site | _ | call
  · cases site <;> simp [ClockSane, answer]
  · trivial
  · trivial

/-- Where no call fails, nothing goes wrong. -/
theorem calm_visit (rt : Runtime) (c : Cycle) (node : AgentName) :
    ∀ ev ∈ (c.agentRun rt (visit fun _ => false) node).trace, Calm ev := by
  intro ev hev
  refine ⟨?_, ?_, clockSane_visit rt _ c node ev hev⟩
  · rw [eq_of_mem_trace hev]
    rcases ev.op with site | _ | call
    · trivial
    · trivial
    · cases call <;> exact ⟨_, rfl⟩
  · rw [eq_of_mem_trace hev]
    rcases ev.op with site | _ | call
    · cases site <;> simp [InTime, answer]
    · trivial
    · trivial

/-- The clock reads zero at the hand-off and for every new approval. -/
structure Still (v : Visit) : Prop where
  received : v.received.now = 0
  stamp : ∀ n, v.answers n (.utcNow .stamp) = 0

/-- With a clock that stands still no approval expires. -/
theorem handsOver_of_still {rt : Runtime} {fresh : Fresh} {request : CycleRequest}
    {visits : Nat → Visit} (h : ∀ n, Still (visits n)) (n : Nat) :
    (Cycle.after rt visits (Cycle.start fresh request) n).HandsOver (visits n) := by
  rw [Cycle.HandsOver, (h n).received]
  refine Cycle.unexpired_after fun m _ node _ ev hev => ?_
  obtain ⟨i, hi⟩ := answer_of_mem_trace _ _ _ ev hev
  rw [hi]
  rcases ev.op with site | _ | call
  · cases site with
    | stamp =>
        simp only [OutlivesBy, (h m).stamp i]
        have httl := rt.settings.events.approvalTtl_pos
        omega
    | _ => trivial
  · trivial
  · trivial

/-- Nothing goes wrong during a calm visit, if the hand-off is in time. -/
theorem undisturbed_visit {rt : Runtime} {c : Cycle} (hover : c.HandsOver (visit fun _ => false)) :
    c.Undisturbed rt (visit fun _ => false) where
  handsOver _ _ := hover
  calm node _ := calm_visit rt c node

theorem still_visit (failing : Call → Bool) : Still (visit failing) := ⟨rfl, fun _ => rfl⟩

/-- In a calm cycle every hand-off is in time. -/
theorem handsOver_calm {rt : Runtime} {fresh : Fresh} {request : CycleRequest} (n m : Nat) :
    (Cycle.after rt calm (Cycle.start fresh request) n).HandsOver (calm m) :=
  handsOver_of_still (fun i => (still_visit _ : Still (calm i))) n

/-- Nothing goes wrong during a calm cycle. -/
theorem undisturbed_calm {rt : Runtime} {fresh : Fresh} {request : CycleRequest} (n : Nat) :
    (Cycle.after rt calm (Cycle.start fresh request) n).Undisturbed rt (calm n) :=
  undisturbed_visit (handsOver_calm n n)

theorem still_steppedBack : Still steppedBack := ⟨rfl, fun _ => rfl⟩

theorem still_outage (n : Nat) : Still (outage n) := by
  unfold outage
  split <;> exact ⟨rfl, fun _ => rfl⟩

/-- Apart from the second, the visits are calm. -/
theorem calm_outage (rt : Runtime) (c : Cycle) (node : AgentName) {n : Nat} (hn : n ≠ 1) :
    ∀ ev ∈ (c.agentRun rt (outage n) node).trace, Calm ev := by
  unfold outage
  split
  · contradiction
  · exact calm_visit rt c node

/-- The clock does not step back while the calls time out. -/
theorem clockSane_outage (rt : Runtime) (c : Cycle) (node : AgentName) :
    ∀ ev ∈ (c.agentRun rt (outage 1) node).trace, ClockSane ev := by
  intro ev hev
  obtain ⟨i, hi⟩ := answer_of_mem_trace _ _ _ ev hev
  rw [hi]
  rcases ev.op with site | _ | call
  · cases site <;> simp [ClockSane, outage, timedOut, answer]
  · trivial
  · trivial

end Reference

end Gestalt
