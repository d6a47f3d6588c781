import Gestalt.BaseAgent.Persistence

/-!
# Gestalt.Blackboard

What the orchestrator reads back from the tables of the blackboard
(`gestalt/blackboard.py`).  A table holds its rows in the order in which they
were written; rows with one timestamp come in that order.
-/

namespace Gestalt

namespace Blackboard

/-- The rows of the command table. -/
def commandRows (rows : List Row) : List GestaltCommand :=
  rows.filterMap fun
    | .command command => some command
    | _ => none

/-- The rows of the audit table. -/
def auditRows (rows : List Row) : List GestaltAuditReport :=
  rows.filterMap fun
    | .auditReport report => some report
    | _ => none

/-- `order_by(created_at.desc()).limit(limit)`. -/
def mostRecent {α : Type} (createdAt : α → Int) (limit : Nat) (table : List α) : List α :=
  (table.mergeSort fun a b => decide (createdAt b ≤ createdAt a)).take limit

/-- The commands `compute_cohesion_inputs` looks at. -/
def recentCommands (rows : List Row) : List GestaltCommand :=
  mostRecent GestaltCommand.createdAt 25 (commandRows rows)

/-- `compute_cohesion_inputs`. -/
def computeCohesionInputs (rows : List Row) : CohesionInputs :=
  let audits := mostRecent GestaltAuditReport.createdAt 10 (auditRows rows)
  { failedCommands := (recentCommands rows).countP fun command => command.status = .failed
    recentAverageAuditRisk :=
      if audits.isEmpty then 0
      else ((audits.map fun report => report.overallRiskScore.val).sum : Rat) / audits.length }

theorem mem_of_mem_mostRecent {α : Type} {createdAt : α → Int} {limit : Nat} {table : List α}
    {row : α} (h : row ∈ mostRecent createdAt limit table) : row ∈ table :=
  List.mem_mergeSort.mp (List.mem_of_mem_take h)

/-- Without a failed command in the table none is counted. -/
theorem failedCommands_eq_zero {rows : List Row}
    (h : ∀ command ∈ commandRows rows, command.status ≠ .failed) :
    (computeCohesionInputs rows).failedCommands = 0 := by
  rw [computeCohesionInputs, List.countP_eq_zero]
  intro command hmem
  simpa using h command (mem_of_mem_mostRecent hmem)

end Blackboard

end Gestalt
