import Gestalt.Stats.Monotone

/-!
# Gestalt.Stats.Range

How the scores stay in range.

The constructor clamps the three scores and so does every mutator, except for
one bound: a refreshed cost efficiency is not cut at 100.  It goes beyond
exactly when the penalties it subtracts add up to less than nothing, which
takes a negative latency or a negative cost.
-/

namespace Gestalt

/-- A call of a mutating method. -/
inductive StatsMutation where
  | promoteLoad
  | demoteLoad
  | promotePerformance
  | demotePerformance
  | adjustCostEfficiency (delta : Int)
  | adjustSecurityRisk (delta : Int)
  | adjustCohesion (delta : Int)
  | setAgentHealth (agentName : String) (health : AgentHealth)
  | applyMonitorSnapshot (snapshot : MonitorSnapshot) (thresholds : StatsThresholds) (now : Int)

/-- The statistics after the call. -/
def StatsMutation.apply (s : GestaltStats) : StatsMutation → GestaltStats
  | promoteLoad => s.promoteLoad
  | demoteLoad => s.demoteLoad
  | promotePerformance => s.promotePerformance
  | demotePerformance => s.demotePerformance
  | adjustCostEfficiency delta => s.adjustCostEfficiency delta
  | adjustSecurityRisk delta => s.adjustSecurityRisk delta
  | adjustCohesion delta => s.adjustCohesion delta
  | setAgentHealth agentName health => s.setAgentHealth agentName health
  | applyMonitorSnapshot snapshot thresholds now => s.applyMonitorSnapshot snapshot thresholds now

/-- Constructed statistics after some calls. -/
def GestaltStats.mutated (fields : GestaltStats) (calls : List StatsMutation) : GestaltStats :=
  calls.foldl StatsMutation.apply fields.clamped

/-- The penalties on the cost efficiency add up to no bonus. -/
def MonitorSnapshot.Penalizes (m : MonitorSnapshot) : Prop :=
  0 ≤ min (truncate (m.avgLatencyMs / 100)) 40 + min (truncate (m.errorRate.val * 100)) 40 +
    min (truncate (m.costPerCycle * 10)) 30

instance (m : MonitorSnapshot) : Decidable m.Penalizes :=
  inferInstanceAs (Decidable (_ ≤ _))

/-- A snapshot without negative measurements is one that penalizes. -/
theorem MonitorSnapshot.penalizes_of_nonneg {m : MonitorSnapshot} (hlatency : 0 ≤ m.avgLatencyMs)
    (hcost : 0 ≤ m.costPerCycle) : m.Penalizes := by
  have h1 := truncate_nonneg (div_nonneg hlatency (by norm_num : (0 : Rat) ≤ 100))
  have h2 := truncate_nonneg (mul_nonneg m.errorRate.nonneg (by norm_num : (0 : Rat) ≤ 100))
  have h3 := truncate_nonneg (mul_nonneg hcost (by norm_num : (0 : Rat) ≤ 10))
  unfold Penalizes
  omega

/-- The snapshot a call applies, if it applies one, penalizes. -/
def StatsMutation.Penalizes : StatsMutation → Prop
  | applyMonitorSnapshot snapshot _ _ => snapshot.Penalizes
  | _ => True

namespace GestaltStats

variable {s : GestaltStats}

/-- A snapshot leaves the scores in range exactly when it penalizes. -/
theorem inRange_applyMonitorSnapshot_iff (m : MonitorSnapshot) (thresholds : StatsThresholds)
    (now : Int) : (s.applyMonitorSnapshot m thresholds now).InRange ↔ m.Penalizes := by
  have hrisk : ∀ {a : Int}, 0 ≤ max 0 (min 100 a) ∧ max 0 (min 100 a) ≤ 100 := by omega
  constructor
  · intro h
    have hcost := h.cost.2
    simp only [applyMonitorSnapshot, refreshCohesion, refreshSecurityRisk,
      refreshCostEfficiency] at hcost
    unfold MonitorSnapshot.Penalizes
    omega
  · intro h
    unfold MonitorSnapshot.Penalizes at h
    refine ⟨?_, hrisk, hrisk⟩
    simp only [applyMonitorSnapshot, refreshCohesion, refreshSecurityRisk, refreshCostEfficiency]
    omega

/-- One call keeps the scores in range exactly when it penalizes. -/
theorem inRange_apply_iff (h : s.InRange) (call : StatsMutation) :
    (call.apply s).InRange ↔ call.Penalizes := by
  have hclamp : ∀ {a : Int}, 0 ≤ max 0 (min 100 a) ∧ max 0 (min 100 a) ≤ 100 := by omega
  cases call with
  | promoteLoad => exact iff_of_true ⟨h.cost, h.risk, h.cohesion⟩ trivial
  | demoteLoad => exact iff_of_true ⟨h.cost, h.risk, h.cohesion⟩ trivial
  | promotePerformance => exact iff_of_true ⟨h.cost, h.risk, h.cohesion⟩ trivial
  | demotePerformance => exact iff_of_true ⟨h.cost, h.risk, h.cohesion⟩ trivial
  | adjustCostEfficiency delta => exact iff_of_true ⟨hclamp, h.risk, h.cohesion⟩ trivial
  | adjustSecurityRisk delta => exact iff_of_true ⟨h.cost, hclamp, h.cohesion⟩ trivial
  | adjustCohesion delta => exact iff_of_true ⟨h.cost, h.risk, hclamp⟩ trivial
  | setAgentHealth agentName health => exact iff_of_true ⟨h.cost, h.risk, h.cohesion⟩ trivial
  | applyMonitorSnapshot snapshot thresholds now =>
      exact inRange_applyMonitorSnapshot_iff snapshot thresholds now

/-- An invariant that a step keeps exactly when its call is admissible holds
after every call of a run exactly when all of them are. -/
theorem forall_take_foldl_iff {σ γ : Type} {step : σ → γ → σ} (inv : σ → Prop)
    {admissible : γ → Prop} (hstep : ∀ s c, inv s → (inv (step s c) ↔ admissible c))
    (calls : List γ) {s : σ} (hs : inv s) :
    (∀ n ≤ calls.length, inv ((calls.take n).foldl step s)) ↔ ∀ c ∈ calls, admissible c := by
  induction calls generalizing s with
  | nil => simp [hs]
  | cons c calls ih =>
      rw [List.forall_mem_cons, ← hstep s c hs]
      constructor
      · intro h
        have hfirst : inv (step s c) := by simpa using h 1 (by simp)
        exact ⟨hfirst, (ih hfirst).mp fun n hn => by simpa using h (n + 1) (by simpa using hn)⟩
      · intro h n hn
        cases n with
        | zero => exact hs
        | succ n => simpa using (ih h.1).mpr h.2 n (by simpa using hn)

/-- **When the scores stay in range.**  They do so after every call of a
sequence exactly when every snapshot that is applied penalizes. -/
theorem inRange_mutated_iff (fields : GestaltStats) (calls : List StatsMutation) :
    (∀ n ≤ calls.length, (fields.mutated (calls.take n)).InRange) ↔
      ∀ call ∈ calls, call.Penalizes :=
  forall_take_foldl_iff InRange (fun _ call h => inRange_apply_iff h call) calls
    (inRange_clamped fields)

/-- A negative latency lifts the cost efficiency to 110. -/
theorem cost_beyond_range :
    ¬ ∀ n ≤ 1, (mutated { lastUpdated := 0 }
      ([.applyMonitorSnapshot { avgLatencyMs := -1000 } {} 0].take n)).InRange := by
  intro h
  have hrange := (h 1 le_rfl).cost.2
  revert hrange
  decide +kernel

end GestaltStats

end Gestalt
