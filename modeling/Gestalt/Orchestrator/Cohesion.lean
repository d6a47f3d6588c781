import Mathlib.Algebra.Order.BigOperators.Group.List
import Gestalt.Blackboard
import Gestalt.Graph.Closing
import Gestalt.Library.Ranking
import Gestalt.Stats.Monotone

/-!
# Gestalt.Orchestrator.Cohesion

How the cohesion score depends on the state and on the blackboard.

The evidence is read from two windows: the 25 most recent commands and the 10
most recent audits.  A failed command or a higher risk in them never raises the
score.  A higher score of the state never lowers it, with one exception: a score
of 0 is falsy, and the evaluation takes it for a missing one.
-/

namespace Gestalt

open Effects Program

/-! ## worse evidence -/

namespace Blackboard

/-- The reports `compute_cohesion_inputs` looks at. -/
def recentAudits (rows : List Row) : List GestaltAuditReport :=
  mostRecent GestaltAuditReport.createdAt 10 (auditRows rows)

/-- Some of the most recent commands are replaced by failed ones, and the risk of
some of the most recent audits is raised. -/
structure Worse (rows rows' : List Row) : Prop where
  commands : ∃ window, List.Forall₂ (fun command command' => command' = command ∨
    command'.status = .failed) (recentCommands rows) window ∧ window.Perm (recentCommands rows')
  audits : ∃ window, List.Forall₂ (fun (report report' : GestaltAuditReport) =>
    report.overallRiskScore.val ≤ report'.overallRiskScore.val) (recentAudits rows) window ∧
      window.Perm (recentAudits rows')

/-- A row is replaced by one of the same time: a command by a failed one, an audit
by one of a higher risk. -/
inductive Worsens : Row → Row → Prop where
  | kept (row : Row) : Worsens row row
  | failed {command command' : GestaltCommand} (hcreated : command.createdAt = command'.createdAt)
      (hfailed : command'.status = .failed) : Worsens (.command command) (.command command')
  | raised {report report' : GestaltAuditReport} (hcreated : report.createdAt = report'.createdAt)
      (hraised : report.overallRiskScore.val ≤ report'.overallRiskScore.val) :
      Worsens (.auditReport report) (.auditReport report')

variable {rows rows' : List Row}

theorem forall₂_commandRows (h : List.Forall₂ Worsens rows rows') :
    List.Forall₂ (fun command command' => command.createdAt = command'.createdAt ∧
      (command' = command ∨ command'.status = .failed)) (commandRows rows) (commandRows rows') := by
  induction h with
  | nil => exact .nil
  | @cons row _ _ _ hrow _ ih =>
      cases hrow with
      | kept =>
          cases row with
          | command command => exact .cons ⟨rfl, Or.inl rfl⟩ ih
          | _ => exact ih
      | failed hcreated hfailed => exact .cons ⟨hcreated, Or.inr hfailed⟩ ih
      | raised => exact ih

theorem forall₂_auditRows (h : List.Forall₂ Worsens rows rows') :
    List.Forall₂ (fun report report' => report.createdAt = report'.createdAt ∧
      report.overallRiskScore.val ≤ report'.overallRiskScore.val)
      (auditRows rows) (auditRows rows') := by
  induction h with
  | nil => exact .nil
  | @cons row _ _ _ hrow _ ih =>
      cases hrow with
      | kept =>
          cases row with
          | auditReport report => exact .cons ⟨rfl, Int.le_refl _⟩ ih
          | _ => exact ih
      | failed => exact ih
      | raised hcreated hraised => exact .cons ⟨hcreated, hraised⟩ ih

/-- Rows related one by one keep their places in a window. -/
theorem forall₂_window {α : Type} {createdAt : α → Int} {R : α → α → Prop} {limit : Nat}
    {table table' : List α}
    (h : List.Forall₂ (fun row row' => createdAt row = createdAt row' ∧ R row row') table table') :
    List.Forall₂ R (mostRecent createdAt limit table) (mostRecent createdAt limit table') :=
  (List.forall₂_take limit (Ranking.forall₂_rank (fun _ _ h => h.1) h)).imp fun _ _ h => h.2

/-- **Worse rows are worse evidence**, wherever they are. -/
theorem Worse.of_rows (h : List.Forall₂ Worsens rows rows') : Worse rows rows' where
  commands := ⟨_, forall₂_window (forall₂_commandRows h), List.Perm.refl _⟩
  audits := ⟨_, forall₂_window (forall₂_auditRows h), List.Perm.refl _⟩

theorem countP_le_of_forall₂ {α : Type} {p : α → Bool} {xs ys : List α}
    (h : List.Forall₂ (fun x y => p x = true → p y = true) xs ys) : xs.countP p ≤ ys.countP p := by
  induction h with
  | nil => exact Nat.le_refl 0
  | @cons x y xs ys hxy _ ih =>
      rw [List.countP_cons, List.countP_cons]
      by_cases hx : p x = true
      · rw [if_pos hx, if_pos (hxy hx)]
        omega
      · rw [if_neg hx]
        omega

/-- No fewer commands have failed. -/
theorem Worse.failedCommands (h : Worse rows rows') :
    (computeCohesionInputs rows).failedCommands ≤ (computeCohesionInputs rows').failedCommands := by
  obtain ⟨window, hworse, hperm⟩ := h.commands
  simp only [computeCohesionInputs]
  rw [← hperm.countP_eq]
  refine countP_le_of_forall₂ (hworse.imp fun command command' hcommand hfailed => ?_)
  rcases hcommand with rfl | hcommand
  · exact hfailed
  · simp [hcommand]

/-- The risks of some reports. -/
def risks (reports : List GestaltAuditReport) : List Rat :=
  reports.map fun report => (report.overallRiskScore.val : Rat)

/-- Without audits the average is 0, which is what division by 0 gives. -/
theorem recentAverageAuditRisk_eq (rows : List Row) :
    (computeCohesionInputs rows).recentAverageAuditRisk =
      (risks (recentAudits rows)).sum / (recentAudits rows).length := by
  change (if (recentAudits rows).isEmpty then (0 : Rat)
    else (risks (recentAudits rows)).sum / (recentAudits rows).length) = _
  cases recentAudits rows with
  | nil => simp [risks]
  | cons report reports => rfl

/-- The average risk is no lower. -/
theorem Worse.recentAverageAuditRisk (h : Worse rows rows') :
    (computeCohesionInputs rows).recentAverageAuditRisk ≤
      (computeCohesionInputs rows').recentAverageAuditRisk := by
  obtain ⟨window, hworse, hperm⟩ := h.audits
  have hlength : (recentAudits rows).length = (recentAudits rows').length := by
    rw [hworse.length_eq, hperm.length_eq]
  have hsum : (risks (recentAudits rows)).sum ≤ (risks (recentAudits rows')).sum := by
    rw [risks, risks, ← (hperm.map _).sum_eq]
    refine List.Forall₂.sum_le_sum ?_
    rw [List.forall₂_map_left_iff, List.forall₂_map_right_iff]
    exact hworse.imp fun _ _ hraised => Int.cast_le.mpr hraised
  rw [recentAverageAuditRisk_eq, recentAverageAuditRisk_eq, hlength]
  exact div_le_div_of_nonneg_right hsum (Nat.cast_nonneg _)

end Blackboard

/-! ## the score -/

/-- The statistics with another cohesion score. -/
def GestaltGraphState.withCohesion (s : GestaltGraphState) (score : Int) : GestaltGraphState :=
  { s with stats := { s.stats with gestaltCohesionScore := score } }

namespace Score

theorem clamp_val (i : Int) : (clamp i).val = max 0 (min 100 i) := rfl

theorem clamp_mono {i j : Int} (h : i ≤ j) : (clamp i).val ≤ (clamp j).val := by
  rw [clamp_val, clamp_val]
  omega

end Score

namespace Orchestrator

/-- What `evaluate_cohesion` subtracts. -/
def cohesionPenalty (rt : Runtime) (inputs : CohesionInputs) : Int :=
  inputs.failedCommands * rt.settings.stats.cohesionPenalties.failedCommand +
    max 0 (truncate (inputs.recentAverageAuditRisk / 10))

/-- The score of a state with this cohesion score, over these rows. -/
def cohesionOver (rt : Runtime) (s : GestaltGraphState) (rows : List Row) (score : Int) : Score :=
  cohesion rt (s.withCohesion score) (Blackboard.computeCohesionInputs rows)

variable {rt : Runtime} {s : GestaltGraphState} {rows rows' : List Row}

theorem cohesionPenalty_nonneg (inputs : CohesionInputs) : 0 ≤ cohesionPenalty rt inputs := by
  have hfailed : (0 : Int) ≤
      inputs.failedCommands * rt.settings.stats.cohesionPenalties.failedCommand := by positivity
  rw [cohesionPenalty]
  omega

/-- A score of 0 counts as 100. -/
theorem cohesionOver_zero :
    cohesionOver rt s rows 0 =
      Score.clamp (100 - cohesionPenalty rt (Blackboard.computeCohesionInputs rows)) := rfl

theorem cohesionOver_of_ne {score : Int} (h : score ≠ 0) :
    cohesionOver rt s rows score =
      Score.clamp (score - cohesionPenalty rt (Blackboard.computeCohesionInputs rows)) := by
  change Score.clamp ((if score = 0 then 100 else score) - _) = _
  rw [if_neg h]
  rfl

/-- Worse evidence has no smaller penalty. -/
theorem cohesionPenalty_mono (h : Blackboard.Worse rows rows') :
    cohesionPenalty rt (Blackboard.computeCohesionInputs rows) ≤
      cohesionPenalty rt (Blackboard.computeCohesionInputs rows') := by
  have hfailed : ((Blackboard.computeCohesionInputs rows).failedCommands : Int) *
      rt.settings.stats.cohesionPenalties.failedCommand ≤
        (Blackboard.computeCohesionInputs rows').failedCommands *
          rt.settings.stats.cohesionPenalties.failedCommand := by
    exact_mod_cast Nat.mul_le_mul_right _ h.failedCommands
  have hrisk := truncate_mono (div_le_div_of_nonneg_right h.recentAverageAuditRisk
    (by norm_num : (0 : Rat) ≤ 10))
  rw [cohesionPenalty, cohesionPenalty]
  omega

/-- **Worse evidence never raises the score**, whatever the state. -/
theorem cohesionOver_antitone (h : Blackboard.Worse rows rows') (score : Int) :
    (cohesionOver rt s rows' score).val ≤ (cohesionOver rt s rows score).val := by
  have hpenalty : cohesionPenalty rt (Blackboard.computeCohesionInputs rows) ≤
      cohesionPenalty rt (Blackboard.computeCohesionInputs rows') := cohesionPenalty_mono h
  by_cases hscore : score = 0
  · subst hscore
    rw [cohesionOver_zero, cohesionOver_zero]
    exact Score.clamp_mono (by omega)
  · rw [cohesionOver_of_ne hscore, cohesionOver_of_ne hscore]
    exact Score.clamp_mono (by omega)

/-- The score is no more than the state's own exactly when that is positive, or is 0
and the penalty leaves nothing of 100. -/
theorem cohesionOver_le_iff (score : Int) :
    (cohesionOver rt s rows score).val ≤ score ↔ 0 < score ∨ (score = 0 ∧
      100 ≤ cohesionPenalty rt (Blackboard.computeCohesionInputs rows)) := by
  have hpenalty : 0 ≤ cohesionPenalty rt (Blackboard.computeCohesionInputs rows) :=
    cohesionPenalty_nonneg _
  by_cases hscore : score = 0
  · subst hscore
    rw [cohesionOver_zero, Score.clamp_val]
    omega
  · rw [cohesionOver_of_ne hscore, Score.clamp_val]
    omega

/-- Above 0 a higher score of the state never lowers the result. -/
theorem cohesionOver_mono {a b : Int} (hab : a ≤ b) (ha : 0 < a) :
    (cohesionOver rt s rows a).val ≤ (cohesionOver rt s rows b).val := by
  rw [cohesionOver_of_ne (by omega), cohesionOver_of_ne (by omega)]
  exact Score.clamp_mono (by omega)

/-- **Cohesion is monotone except at 0.**  Over any rows the evaluation returns the
score computed from them.  For two states that differ in their own score only, a
higher one never lowers the result, no result exceeds the state's own score and no
worse evidence raises one, exactly when the lower of the two scores is positive, or
is 0 and the penalty leaves nothing of 100. -/
theorem cohesion_monotone_iff (rt : Runtime) (s : GestaltGraphState) (rows : List Row)
    (a b : Int) (hab : a ≤ b) :
    (∀ (w : Surroundings Services) rows' score,
      w 0 (.call .computeCohesionInputs) = .ok (Blackboard.computeCohesionInputs rows') →
        ((evaluateCohesion rt).run w (s.withCohesion score)).result =
          .ok (cohesionOver rt s rows' score)) ∧
    (((cohesionOver rt s rows a).val ≤ (cohesionOver rt s rows b).val ∧
      (cohesionOver rt s rows a).val ≤ a ∧ (cohesionOver rt s rows b).val ≤ b ∧
      ∀ rows', Blackboard.Worse rows rows' →
        (cohesionOver rt s rows' a).val ≤ (cohesionOver rt s rows a).val ∧
        (cohesionOver rt s rows' b).val ≤ (cohesionOver rt s rows b).val) ↔
      0 < a ∨ (a = 0 ∧
        100 ≤ cohesionPenalty rt (Blackboard.computeCohesionInputs rows))) := by
  have hworse : ∀ rows', Blackboard.Worse rows rows' →
      (cohesionOver rt s rows' a).val ≤ (cohesionOver rt s rows a).val ∧
      (cohesionOver rt s rows' b).val ≤ (cohesionOver rt s rows b).val :=
    fun rows' h => ⟨cohesionOver_antitone h a, cohesionOver_antitone h b⟩
  have hbounded (score : Int) : (cohesionOver rt s rows score).val ≤ score ↔ 0 < score ∨
      (score = 0 ∧ 100 ≤ cohesionPenalty rt (Blackboard.computeCohesionInputs rows)) :=
    cohesionOver_le_iff score
  refine ⟨fun w rows' score hinputs => ?_, ⟨fun h => (hbounded a).mp h.2.1, fun h => ?_⟩⟩
  · rw [run_evaluateCohesion hinputs]
    rfl
  · have ha : (cohesionOver rt s rows a).val ≤ a := (hbounded a).mpr h
    have hb : (cohesionOver rt s rows b).val ≤ b := by
      refine (hbounded b).mpr ?_
      omega
    refine ⟨?_, ha, hb, hworse⟩
    rcases h with hpositive | ⟨rfl, -⟩
    · exact cohesionOver_mono hab hpositive
    · -- the lower score is 0 and the result with it, and no result is negative
      have hnonneg := (cohesionOver rt s rows b).nonneg
      omega

/-- On a blackboard without evidence nothing is subtracted. -/
theorem cohesionPenalty_nil : cohesionPenalty rt (Blackboard.computeCohesionInputs []) = 0 := by
  simp [cohesionPenalty, Blackboard.computeCohesionInputs, Blackboard.recentCommands,
    Blackboard.commandRows, Blackboard.auditRows, Blackboard.mostRecent, truncate]

/-- The fresh state of the reference request, with score 50 and with score 60. -/
theorem cohesion_monotone_iff_half :
    let s := buildGraphState Reference.fresh Reference.watchRequest
    (cohesionOver Reference.runtime s [] 50).val ≤ (cohesionOver Reference.runtime s [] 60).val :=
  ((cohesion_monotone_iff Reference.runtime (buildGraphState Reference.fresh
    Reference.watchRequest) [] 50 60 (by decide)).2.mpr (Or.inl (by decide))).1

/-- The lowest score is taken for a missing one: 0 evaluates to 100, and 50 to 50. -/
theorem cohesion_raised :
    let s := buildGraphState Reference.fresh Reference.watchRequest
    (cohesionOver Reference.runtime s [] 0).val = 100 ∧
      (cohesionOver Reference.runtime s [] 50).val = 50 ∧
      ¬ ((cohesionOver Reference.runtime s [] 0).val ≤
        (cohesionOver Reference.runtime s [] 50).val) := by
  intro s
  have hlowest : (cohesionOver Reference.runtime s [] 0).val = 100 := by
    rw [cohesionOver_zero, cohesionPenalty_nil]
    rfl
  have hhalf : (cohesionOver Reference.runtime s [] 50).val = 50 := by
    rw [cohesionOver_of_ne (by decide), cohesionPenalty_nil]
    rfl
  refine ⟨hlowest, hhalf, ?_⟩
  rw [hlowest, hhalf]
  omega

end Orchestrator

end Gestalt
