import Gestalt.Graph.Reference
import Gestalt.Library.Shell

/-!
# Gestalt.Graph.Planner

What the planner hands to the shell.

Without a command in an inbound payload, the planner puts the objective between
single quotes as it stands.  The shell reads it back as one argument of `echo`
exactly when the objective holds no single quote of its own.
-/

namespace Gestalt

open Effects Program Shell

namespace PlannerExecutor

/-- The text the planner builds in a state. -/
def builtText (s : GestaltGraphState) : String :=
  commandText s.objective.val (inboundCommands .plannerExecutor s.commands).head?

/-- The words of the command it is meant to be. -/
def inertTokens (objective : String) : List Token :=
  [literalWord "echo".toList,
   literalWord ("gestalt planner executed objective: " ++ objective).toList]

/-- Whatever happens during the visit, the text built is the only one handed to
the shell. -/
theorem runs_builtText (rt : Runtime) (w : Surroundings Services) (s : GestaltGraphState) :
    ∀ ev ∈ ((run rt (agentAt rt .plannerExecutor)).run w s).trace,
      RunsOnly (some (builtText s)) ev :=
  (spec_visit (fun _ => True) True .plannerExecutor
    fun _ _ _ => Or.inr trivial).emits_of_mem fun _ _ => trivial

/-- Where no inbound payload holds a command, the objective is quoted. -/
theorem builtText_of_no_candidate {s : GestaltGraphState}
    (h : ∀ c ∈ inboundCommands .plannerExecutor s.commands, candidateCommand (some c) = none) :
    builtText s = "echo 'gestalt planner executed objective: " ++ s.objective.val ++ "'" := by
  rw [builtText, commandText]
  cases hhead : (inboundCommands .plannerExecutor s.commands).head? with
  | none => rfl
  | some c => rw [h c (List.mem_of_mem_head? hhead)]; rfl

/-- **When the objective is inert.**  In a state in which no inbound command of
the planner holds a command text, whatever a visit to the planner hands to the
shell is the text built, and the shell reads that text as `echo` with the one
literal argument exactly when the objective holds no single quote. -/
theorem inert_iff (rt : Runtime) (s : GestaltGraphState)
    (h : ∀ c ∈ inboundCommands .plannerExecutor s.commands, candidateCommand (some c) = none) :
    (∀ w, ∀ ev ∈ ((run rt (agentAt rt .plannerExecutor)).run w s).trace,
      ∀ command cwd timeoutSeconds, ev.op = .call (.bash command cwd timeoutSeconds) →
        command = builtText s) ∧
    (Shell.tokens (builtText s).toList = some (inertTokens s.objective.val) ↔
      '\'' ∉ s.objective.val.toList) := by
  refine ⟨fun w ev hev command cwd timeoutSeconds hop => ?_, ?_⟩
  · exact (Option.some.inj (runs_builtText rt w s ev hev command cwd timeoutSeconds hop)).symm
  · have htext : (builtText s).toList = "echo '".toList ++
        ("gestalt planner executed objective: " ++ s.objective.val).toList ++ ['\''] := by
      rw [builtText_of_no_candidate h]
      simp
    have hinitial : '\'' ∉ "gestalt planner executed objective: ".toList := by decide
    rw [htext, inertTokens]
    have hbefore : "echo '".toList.foldl State.step {} =
        ⟨[literalWord "echo".toList], some [], .single⟩ := by decide
    refine (tokens_quoted_iff hbefore _).trans ?_
    rw [String.toList_append, List.mem_append, not_or]
    exact and_iff_right hinitial

/-- A state whose objective the planner quotes safely. -/
theorem inert_watchRequest :
    Shell.tokens (builtText (buildGraphState Reference.fresh Reference.watchRequest)).toList =
      some (inertTokens "Watch the cluster") :=
  (inert_iff Reference.runtime (buildGraphState Reference.fresh Reference.watchRequest)
    (by intro c hc; contradiction)).2.mpr (by decide)

/-- An objective that closes the quotes, runs `id`, and opens them again. -/
def quotingRequest : CycleRequest where
  objective := .text "x'; id; echo 'y"

/-- The text passes the blocklist, and the shell reads three commands in it, the
second of which is `id`. -/
theorem not_inert :
    let s := buildGraphState Reference.fresh quotingRequest
    (∀ c ∈ inboundCommands .plannerExecutor s.commands, candidateCommand (some c) = none) ∧
    (∀ blocked ∈ blockedTerms, ¬ occursIn blocked (Reference.runtime.lower (builtText s))) ∧
    Shell.tokens (builtText s).toList =
      some [literalWord "echo".toList,
        literalWord "gestalt planner executed objective: x".toList, .operator ';',
        literalWord "id".toList, .operator ';',
        literalWord "echo".toList, literalWord "y".toList] ∧
    Shell.tokens (builtText s).toList ≠ some (inertTokens quotingRequest.objective.val) := by
  exact ⟨by intro c hc; contradiction, by decide +kernel, by decide +kernel, by decide +kernel⟩

end PlannerExecutor

end Gestalt
