import Mathlib.Logic.Function.Basic

/-!
# Gestalt.Library.Interleaving

Processes that take turns.

A family of processes shares one transition function and nothing else; a turn
is the index of the process that moves together with the input of its move.
In whatever order the turns come, a process ends up where its own turns alone
would have led it.
-/

namespace Interleaving

variable {ι σ τ : Type} [DecidableEq ι]

/-- Take the turns one after the other. -/
def interleave (step : τ → σ → σ) (family : ι → σ) : List (ι × τ) → ι → σ
  | [] => family
  | (j, t) :: turns => interleave step (Function.update family j (step t (family j))) turns

/-- The inputs of the turns of one process. -/
def own (i : ι) : List (ι × τ) → List τ
  | [] => []
  | (j, t) :: turns => if j = i then t :: own i turns else own i turns

/-- **Projection**: only its own turns move a process. -/
theorem interleave_apply (step : τ → σ → σ) (family : ι → σ) (turns : List (ι × τ)) (i : ι) :
    interleave step family turns i = (own i turns).foldl (fun s t => step t s) (family i) := by
  induction turns generalizing family with
  | nil => rfl
  | cons turn turns ih =>
      obtain ⟨j, t⟩ := turn
      rw [interleave, ih, own]
      by_cases hj : j = i
      · subst hj
        rw [Function.update_self, if_pos rfl, List.foldl_cons]
      · rw [Function.update_of_ne (Ne.symm hj), if_neg hj]

/-- The turns of a process are among the turns of all. -/
theorem mem_of_mem_own {i : ι} {turns : List (ι × τ)} {t : τ} (h : t ∈ own i turns) :
    (i, t) ∈ turns := by
  induction turns with
  | nil => simp [own] at h
  | cons turn turns ih =>
      obtain ⟨j, t'⟩ := turn
      by_cases hj : j = i
      · subst hj
        rw [own, if_pos rfl, List.mem_cons] at h
        rcases h with rfl | h
        · exact List.mem_cons_self
        · exact List.mem_cons_of_mem _ (ih h)
      · rw [own, if_neg hj] at h
        exact List.mem_cons_of_mem _ (ih h)

/-- The `n`-th turn of a process, in its place between the turns of all. -/
theorem own_split {i : ι} {turns : List (ι × τ)} {n : Nat} {t : τ}
    (h : (own i turns)[n]? = some t) :
    ∃ before rest, turns = before ++ (i, t) :: rest ∧ own i before = (own i turns).take n := by
  induction turns generalizing n with
  | nil => simp [own] at h
  | cons turn turns ih =>
      obtain ⟨j, t'⟩ := turn
      by_cases hj : j = i
      · subst hj
        cases n with
        | zero =>
            obtain rfl : t' = t := by simpa [own] using h
            exact ⟨[], turns, rfl, by simp [own]⟩
        | succ n =>
            obtain ⟨before, rest, rfl, hbefore⟩ := ih (by simpa [own] using h)
            exact ⟨(j, t') :: before, rest, rfl, by simp [own, hbefore]⟩
      · obtain ⟨before, rest, rfl, hbefore⟩ := ih (by simpa [own, hj] using h)
        exact ⟨(j, t') :: before, rest, rfl, by simp [own, hj, hbefore]⟩

end Interleaving
