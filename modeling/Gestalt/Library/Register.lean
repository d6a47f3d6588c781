import Gestalt.Library.Value
import Mathlib.Data.List.Induction

/-!
# Gestalt.Library.Register

Keyed registrations over a history of writes.

A register is written by putting a value under a key, which replaces the one
that was there, and by clearing everything.  `replay` is the table a history
of writes leaves; `InForce` says the same thing about the history itself: the
value was put after the last clearing and not replaced since.  The two agree
(`get?_replay_iff`), so an invariant of the table can be read as a statement
about the past.
-/

namespace Register

variable {κ α : Type}

/-- One write to a register. -/
inductive Write (κ α : Type) where
  | put (key : κ) (value : α)
  | clear
  | skip

/-- What a write does to the table. -/
def Write.apply [DecidableEq κ] (d : Table κ α) : Write κ α → Table κ α
  | .put key value => d.set key value
  | .clear => []
  | .skip => d

/-- The table a history of writes leaves. -/
def replay [DecidableEq κ] (ws : List (Write κ α)) : Table κ α := ws.foldl Write.apply []

/-- `value` was put under `key` after the last clearing and not replaced since. -/
def InForce (ws : List (Write κ α)) (key : κ) (value : α) : Prop :=
  ∃ before after, ws = before ++ .put key value :: after ∧ .clear ∉ after ∧
    ∀ v, .put key v ∉ after

theorem replay_snoc [DecidableEq κ] (ws : List (Write κ α)) (w : Write κ α) :
    replay (ws ++ [w]) = w.apply (replay ws) := by
  simp [replay]

/-- The latest write is in force. -/
theorem inForce_snoc_put (ws : List (Write κ α)) (key : κ) (value : α) :
    InForce (ws ++ [.put key value]) key value :=
  ⟨ws, [], rfl, by simp, by simp⟩

/-- A write that neither clears nor touches the key leaves what is in force. -/
theorem InForce.snoc {ws : List (Write κ α)} {key : κ} {value : α} {w : Write κ α}
    (h : InForce ws key value) (hclear : w ≠ .clear) (hput : ∀ v, w ≠ .put key v) :
    InForce (ws ++ [w]) key value := by
  obtain ⟨before, after, rfl, hc, hp⟩ := h
  refine ⟨before, after ++ [w], by simp, ?_, fun v => ?_⟩
  · simp [hc, Ne.symm hclear]
  · simp [hp v, Ne.symm (hput v)]

/-- A place in a history with one more entry is the last one, or was there before. -/
theorem place_of_snoc {xs before after : List α} {x y : α}
    (h : xs ++ [y] = before ++ x :: after) :
    (after = [] ∧ before = xs ∧ x = y) ∨
      ∃ rest, after = rest ++ [y] ∧ xs = before ++ x :: rest := by
  rcases List.eq_nil_or_concat after with rfl | ⟨rest, last, rfl⟩
  · obtain ⟨hxs, hlast⟩ := List.append_inj' h rfl
    exact Or.inl ⟨rfl, hxs.symm, (List.singleton_inj.mp hlast).symm⟩
  · rw [List.concat_eq_append, ← List.cons_append, ← List.append_assoc] at h
    obtain ⟨hxs, hlast⟩ := List.append_inj' h rfl
    obtain rfl := List.singleton_inj.mp hlast
    exact Or.inr ⟨rest, List.concat_eq_append, hxs⟩

/-- What is in force before the latest write, or is that write. -/
theorem inForce_of_snoc {ws : List (Write κ α)} {key : κ} {value : α} {w : Write κ α}
    (h : InForce (ws ++ [w]) key value) :
    w = .put key value ∨ (w ≠ .clear ∧ (∀ v, w ≠ .put key v) ∧ InForce ws key value) := by
  obtain ⟨before, after, heq, hc, hp⟩ := h
  obtain ⟨-, -, hw⟩ | ⟨rest, rfl, hws⟩ := place_of_snoc heq
  · exact Or.inl hw.symm
  · simp only [List.mem_append, List.mem_singleton, not_or] at hc hp
    exact Or.inr ⟨Ne.symm hc.2, fun v => Ne.symm (hp v).2, before, rest, hws, hc.1,
      fun v => (hp v).1⟩

/-- **The table holds exactly what is in force.** -/
theorem get?_replay_iff [DecidableEq κ] {ws : List (Write κ α)} {key : κ} {value : α} :
    (replay ws).get? key = some value ↔ InForce ws key value := by
  induction ws using List.reverseRecOn with
  | nil => simp [replay, InForce]
  | append_singleton ws w ih =>
      rw [replay_snoc]
      cases w with
      | clear =>
          simp only [Write.apply, Table.get?_nil, reduceCtorEq, false_iff]
          intro h
          rcases inForce_of_snoc h with h | h
          · contradiction
          · exact h.1 rfl
      | skip =>
          simp only [Write.apply, ih]
          constructor
          · exact fun h => h.snoc (by simp) (by simp)
          · intro h
            rcases inForce_of_snoc h with h | h
            · contradiction
            · exact h.2.2
      | put k v =>
          simp only [Write.apply]
          by_cases hk : k = key
          · subst hk
            rw [Table.get?_set_self, Option.some.injEq]
            constructor
            · intro heq
              obtain rfl := heq
              exact inForce_snoc_put ws k v
            · intro h
              rcases inForce_of_snoc h with h | h
              · exact (Write.put.injEq .. ▸ h).2
              · exact absurd rfl (h.2.1 v)
          · rw [Table.get?_set_of_ne hk, ih]
            constructor
            · exact fun h => h.snoc (by simp) fun v' hv => hk (Write.put.injEq .. ▸ hv).1
            · intro h
              rcases inForce_of_snoc h with h | h
              · exact absurd (Write.put.injEq .. ▸ h).1 hk
              · exact h.2.2

end Register
