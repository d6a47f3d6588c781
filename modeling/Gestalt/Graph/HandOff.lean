import Gestalt.Graph.Reference

/-!
# Gestalt.Graph.HandOff

When the state of a cycle survives a hand-off.

Between two nodes the state is dumped and validated again.  All of its records
read back as they were written, except that an approval has to lie in the
future whenever it is validated, not only when it is issued.
-/

namespace Gestalt

open Effects Program

/-- **When a hand-off is lossless**: a reachable state, dumped and validated
again at the reading `ctx.now`, comes back as itself exactly when that reading
is before the expiry of every approval the state holds. -/
theorem Cycle.handOff_lossless_iff (rt : Runtime) (fresh : Fresh) (request : CycleRequest)
    (visits : Nat → Visit) (n : Nat) (ctx : LoadContext) :
    let s := (Cycle.after rt visits (Cycle.start fresh request) n).state
    GestaltGraphState.modelValidate ctx s.modelDump = .ok s ↔
      ∀ a ∈ s.approvals, ctx.now < a.expiresAt := by
  have h := sound_after rt fresh request visits n
  simp [modelValidate_modelDump_iff h.inRange]

/-- After the first turn of a calm cycle for the monitor, an approval expires
after its lifetime. -/
theorem exists_approval_calm :
    ∃ a ∈ (Cycle.after Reference.runtime Reference.calm
        (Cycle.start Reference.fresh Reference.monitorRequest) 1).state.approvals,
      a.expiresAt = Reference.runtime.settings.events.approvalTtl := by
  have hplan : Orchestrator.plan? Reference.runtime
      (buildGraphState Reference.fresh Reference.monitorRequest) = some [.monitor] := by decide
  have hrange := (Cycle.sound_start Reference.fresh Reference.monitorRequest).inRange
  have hevents : ∀ ev ∈ ((Cycle.start Reference.fresh Reference.monitorRequest).agentRun
      Reference.runtime (Reference.visit fun _ => false) .orchestrator).trace,
      Calm ev ∧ ev = ⟨ev.op, Reference.answer (fun _ => false) ev.op⟩ :=
    fun ev hev => ⟨Reference.calm_visit _ _ _ ev hev, Reference.eq_of_mem_trace hev⟩
  obtain ⟨out, hrun, art, s', hrouting, messages, report, -, -, rfl⟩ :=
    (spec_run_orchestrator_calm (fun _ h => h.1) (by decide) hplan hrange).exists_ok hevents
  have hstep : Cycle.after Reference.runtime Reference.calm
      (Cycle.start Reference.fresh Reference.monitorRequest) 1 = _ :=
    Cycle.step_of_ok (v := Reference.visit fun _ => false) rfl hrange
      (Reference.handsOver_calm 0 0) hrun
  rw [hstep]
  cases hrouting with
  | finalize pending _ =>
      rw [Orchestrator.plan?, pending] at hplan
      contradiction
  | @dispatch next rest a approval _ _ issued _ =>
      obtain ⟨now, ⟨-, hnow⟩, hexpires⟩ := issued.expiresAt
      refine ⟨approval, by simp [applyStateUpdate, GestaltGraphState.withApproval], ?_⟩
      have hzero : now = 0 := by simpa [Reference.answer] using hnow
      rw [hexpires, hzero, Int.zero_add]

/-- Ten minutes after the first turn the state of that cycle is lost. -/
theorem Cycle.handOff_lost :
    let s := (Cycle.after Reference.runtime Reference.calm
      (Cycle.start Reference.fresh Reference.monitorRequest) 1).state
    GestaltGraphState.modelValidate ⟨600000000, 0⟩ s.modelDump ≠ .ok s := by
  intro s hload
  obtain ⟨a, ha, hexpires⟩ := exists_approval_calm
  have hrange := (Cycle.sound_after Reference.runtime Reference.fresh Reference.monitorRequest
    Reference.calm 1).inRange
  have hlate := ((modelValidate_modelDump_iff hrange _).mp hload).2 a ha
  rw [hexpires] at hlate
  exact absurd hlate (by decide)

end Gestalt
