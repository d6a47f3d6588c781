import Gestalt.Library.Log
import Mathlib.Algebra.Order.Group.Multiset
import Mathlib.Tactic.Abel

/-!
# Gestalt.Library.Fresh

Names that are drawn once and used once.

The surroundings hand out names, and a program puts them into the values it
builds and into its state.  Names are counted with their multiplicity:
`Mints` says that what a program returns and what its state carries in the end
were held before or drawn on the way, and that no name was used more often than
it was there.  If no name is drawn twice, no two things have the same name.
-/

namespace Effects

namespace Program

variable {I : Interface} {σ ε α β ρ ν : Type}

/-- Each item of a list has one name. -/
theorem sum_map_singleton (name : α → ν) (items : List α) :
    (items.map fun item => ({name item} : Multiset ν)).sum = ↑(items.map name) := by
  induction items with
  | nil => rfl
  | cons item items ih => rw [List.map_cons, List.sum_cons, ih, List.map_cons]; rfl

/-- From `s`, with the names `held` at hand: where `p` returns, the names of the
value and those in the state were held, were in the state, or were drawn; where
it raises, so were those in the state. -/
def Mints (draws : Event I → List ν) (carried : σ → Multiset ν) (held : Multiset ν) (s : σ)
    (p : Program I σ ε α) (names : α → Multiset ν) : Prop :=
  Logs draws s p (fun a s' drawn => names a + carried s' ≤ held + carried s + ↑drawn)
    fun _ s' drawn => carried s' ≤ held + carried s + ↑drawn

section Rules

variable {draws : Event I → List ν} {carried : σ → Multiset ν} {held : Multiset ν} {s : σ}
variable {names : α → Multiset ν}

/-- The rule of consequence: names may be dropped. -/
theorem Mints.mono {p : Program I σ ε α} {names' : α → Multiset ν}
    (h : Mints draws carried held s p names) (hnames : ∀ a, names' a ≤ names a) :
    Mints draws carried held s p names' :=
  Logs.mono h (fun a _ _ ha => le_trans (add_le_add_left (hnames a) _) ha) fun _ _ _ he => he

theorem mints_pure {a : α} (h : names a ≤ held) :
    Mints (ε := ε) draws carried held s (pure a) names := by
  refine logs_pure ?_
  simpa using h

theorem mints_raise {e : ε} : Mints (α := α) draws carried held s (raise e) names := by
  refine logs_raise ?_
  rw [Multiset.coe_nil, add_zero]
  exact Multiset.le_add_left _ _

theorem mints_read_bind {f : σ → Program I σ ε α}
    (h : Mints draws carried held s (f s) names) :
    Mints draws carried held s (read >>= f) names :=
  h

/-- An answer adds the names it hands out. -/
theorem mints_query {o : I.Op} {names : I.Answer o → Multiset ν}
    (h : ∀ r, names r ≤ held + ↑(draws ⟨o, r⟩)) :
    Mints (ε := ε) draws carried held s (query o) names := by
  refine logs_query fun r => ?_
  calc names r + carried s ≤ held + ↑(draws ⟨o, r⟩) + carried s := add_le_add_left (h r) _
    _ = held + carried s + ↑(draws ⟨o, r⟩) := by abel

/-- Names move from the hand into the state. -/
theorem mints_modify {f : σ → σ} {kept : Multiset ν}
    (h : kept + carried (f s) ≤ held + carried s) :
    Mints (ε := ε) draws carried held s (modify f) fun _ => kept := by
  intro w
  simpa using h

/-- What leaves the state alone draws no name it is known by. -/
theorem mints_of_steady {emits : Event I → Prop} {p : Program I σ ε α} {ok : α → Prop}
    (h : Steady (fun _ => True) emits True s p ok) (hnames : ∀ a, ok a → names a ≤ held) :
    Mints draws carried held s p names := by
  refine (logs_of_spec h).mono ?_ ?_
  · intro a s' drawn hpost
    obtain ⟨rfl, ha⟩ := hpost
    exact le_trans (add_le_add_left (hnames a ha) _) (Multiset.le_add_right _ _)
  · intro _ s' drawn hpost
    rw [hpost.1, add_assoc]
    exact le_trans (Multiset.le_add_right _ _) (Multiset.le_add_left _ _)

/-- Sequencing: what follows has the names at hand that the first part leaves. -/
theorem mints_bind {p : Program I σ ε β} {f : β → Program I σ ε α} {mid : β → Multiset ν}
    (hp : Mints draws carried held s p mid)
    (hf : ∀ b s', Mints draws carried (mid b) s' (f b) names) :
    Mints draws carried held s (p >>= f) names := by
  refine logs_bind hp (fun _ _ _ h => h) fun b s' drawn hmid => Logs.mono (hf b s') ?_ ?_
  · intro a s'' drawn' ha
    calc names a + carried s'' ≤ mid b + carried s' + ↑drawn' := ha
      _ ≤ held + carried s + ↑drawn + ↑drawn' := add_le_add_left hmid _
      _ = held + carried s + ↑(drawn ++ drawn') := by rw [← Multiset.coe_add, add_assoc]
  · intro _ s'' drawn' he
    calc carried s'' ≤ mid b + carried s' + ↑drawn' := he
      _ ≤ held + carried s + ↑drawn + ↑drawn' := add_le_add_left hmid _
      _ = held + carried s + ↑(drawn ++ drawn') := by rw [← Multiset.coe_add, add_assoc]

end Rules

end Program

end Effects
