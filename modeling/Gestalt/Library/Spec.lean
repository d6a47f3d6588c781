import Gestalt.Library.Program

/-!
# Gestalt.Library.Spec

Specifications of programs, one program at a time.

`Spec` reads a weakest precondition as a triple from one state: what holds
where the program returns, what holds where it raises, and what kind of event
it emits on the way.  The rules below build the specification of a program
from those of its parts, so each function is specified once and its callers
cite the specification.  `Steady` is the common case of a program that leaves
the state as it found it.
-/

namespace Effects

namespace Program

variable {I : Interface} {σ ε α β : Type}

/-! ## events emitted -/

/-- `t'` is `t` followed by events `emits` holds of. -/
def Extends (emits : Event I → Prop) (t t' : List (Event I)) : Prop :=
  ∃ new, t' = t ++ new ∧ ∀ ev ∈ new, emits ev

theorem Extends.refl (emits : Event I → Prop) (t : List (Event I)) : Extends emits t t :=
  ⟨[], by simp, by simp⟩

theorem Extends.snoc {emits : Event I → Prop} (t : List (Event I)) {ev : Event I}
    (h : emits ev) : Extends emits t (t ++ [ev]) :=
  ⟨[ev], rfl, by simpa using h⟩

theorem Extends.trans {emits : Event I → Prop} {t t' t'' : List (Event I)}
    (h : Extends emits t t') (h' : Extends emits t' t'') : Extends emits t t'' := by
  obtain ⟨new, rfl, hnew⟩ := h
  obtain ⟨new', rfl, hnew'⟩ := h'
  refine ⟨new ++ new', by simp, fun ev hev => ?_⟩
  rcases List.mem_append.mp hev with hev | hev
  · exact hnew ev hev
  · exact hnew' ev hev

/-! ## specifications -/

/-- From the state `s`, under answers `allows` permits: where `p` returns, `ok`
holds of the value and the state, where it raises, `err` holds, and all it
emits are events `emits` holds of. -/
def Spec (allows emits : Event I → Prop) (s : σ) (p : Program I σ ε α)
    (ok : α → σ → Prop) (err : ε → σ → Prop) : Prop :=
  ∀ t, wp allows p (fun a s' t' => Extends emits t t' ∧ ok a s')
    (fun e s' t' => Extends emits t t' ∧ err e s') s t

section Rules

variable {allows emits : Event I → Prop} {s : σ}

theorem Spec.mono {p : Program I σ ε α} {ok ok' : α → σ → Prop} {err err' : ε → σ → Prop}
    (h : Spec allows emits s p ok err) (hok : ∀ a s', ok a s' → ok' a s')
    (herr : ∀ e s', err e s' → err' e s') : Spec allows emits s p ok' err' :=
  fun t => wp_mono (fun a s' _ ha => ⟨ha.1, hok a s' ha.2⟩)
    (fun e s' _ he => ⟨he.1, herr e s' he.2⟩) (h t)

/-- Two specifications of one program hold together. -/
theorem Spec.and {emits' : Event I → Prop} {p : Program I σ ε α} {ok ok' : α → σ → Prop}
    {err err' : ε → σ → Prop} (h : Spec allows emits s p ok err)
    (h' : Spec allows emits' s p ok' err') :
    Spec allows emits s p (fun a s' => ok a s' ∧ ok' a s') fun e s' => err e s' ∧ err' e s' :=
  fun t => wp_mono (fun _ _ _ ha => ⟨ha.1.1, ha.1.2, ha.2.2⟩)
    (fun _ _ _ he => ⟨he.1.1, he.1.2, he.2.2⟩) (wp_and (h t) (h' t))

theorem spec_pure {a : α} {ok : α → σ → Prop} {err : ε → σ → Prop} (h : ok a s) :
    Spec allows emits s (pure a) ok err :=
  fun t => ⟨Extends.refl emits t, h⟩

theorem spec_raise {e : ε} {ok : α → σ → Prop} {err : ε → σ → Prop} (h : err e s) :
    Spec allows emits s (raise e) ok err :=
  fun t => ⟨Extends.refl emits t, h⟩

/-- A program that reads the state goes on with the state it starts from. -/
theorem spec_read_bind {f : σ → Program I σ ε α} {ok : α → σ → Prop} {err : ε → σ → Prop}
    (h : Spec allows emits s (f s) ok err) : Spec allows emits s (read >>= f) ok err := by
  intro t
  rw [wp_bind, wp_read]
  exact h t

theorem spec_modify {f : σ → σ} {err : ε → σ → Prop} :
    Spec allows emits s (modify f) (fun _ s' => s' = f s) err :=
  fun t => ⟨Extends.refl emits t, rfl⟩

theorem spec_query {o : I.Op} {err : ε → σ → Prop} (h : ∀ r, allows ⟨o, r⟩ → emits ⟨o, r⟩) :
    Spec allows emits s (query o) (fun r s' => allows ⟨o, r⟩ ∧ s' = s) err :=
  fun t r hr => ⟨Extends.snoc t (h r hr), hr, rfl⟩

theorem spec_ofExcept {x : Except ε α} {ok : α → σ → Prop} {err : ε → σ → Prop}
    (hok : ∀ a, x = .ok a → ok a s) (herr : ∀ e, x = .error e → err e s) :
    Spec allows emits s (ofExcept x) ok err := by
  cases x with
  | ok a => exact fun t => ⟨Extends.refl emits t, hok a rfl⟩
  | error e => exact fun t => ⟨Extends.refl emits t, herr e rfl⟩

/-- Sequencing: the rest is specified from wherever the first part returns. -/
theorem spec_bind {p : Program I σ ε β} {f : β → Program I σ ε α} {mid : β → σ → Prop}
    {ok : α → σ → Prop} {err : ε → σ → Prop} (hp : Spec allows emits s p mid err)
    (hf : ∀ b s', mid b s' → Spec allows emits s' (f b) ok err) :
    Spec allows emits s (p >>= f) ok err := by
  intro t
  rw [wp_bind]
  refine wp_mono ?_ (fun _ _ _ he => he) (hp t)
  intro b s' t' hpost
  obtain ⟨ht, hb⟩ := hpost
  exact wp_mono (fun _ _ _ ha => ⟨ht.trans ha.1, ha.2⟩) (fun _ _ _ he => ⟨ht.trans he.1, he.2⟩)
    (hf b s' hb t')

/-- Exceptions: the handler is specified from wherever the body raises. -/
theorem spec_tryCatch {p : Program I σ ε α} {h : ε → Program I σ ε α} {ok : α → σ → Prop}
    {err : ε → σ → Prop} (raised : ε → σ → Prop) (hp : Spec allows emits s p ok raised)
    (hh : ∀ e s', raised e s' → Spec allows emits s' (h e) ok err) :
    Spec allows emits s (p.tryCatch h) ok err := by
  intro t
  rw [wp_tryCatch]
  refine wp_mono (fun _ _ _ ha => ha) ?_ (hp t)
  intro e s' t' hpost
  obtain ⟨ht, he⟩ := hpost
  exact wp_mono (fun _ _ _ ha => ⟨ht.trans ha.1, ha.2⟩) (fun _ _ _ he => ⟨ht.trans he.1, he.2⟩)
    (hh e s' he t')

end Rules

/-! ## from specifications to runs -/

section Runs

variable {allows emits : Event I → Prop} {s : σ} {p : Program I σ ε α}
variable {ok : α → σ → Prop} {err : ε → σ → Prop} {w : Surroundings I}

theorem Spec.of_ok (h : Spec allows emits s p ok err) (hw : ∀ ev ∈ (p.run w s).trace, allows ev)
    {a : α} (ha : (p.run w s).result = .ok a) : ok a (p.run w s).state := by
  have hm := wp_run (h []) hw
  simp only [Meets, ha] at hm
  exact hm.2

theorem Spec.of_error (h : Spec allows emits s p ok err)
    (hw : ∀ ev ∈ (p.run w s).trace, allows ev) {e : ε} (he : (p.run w s).result = .error e) :
    err e (p.run w s).state := by
  have hm := wp_run (h []) hw
  simp only [Meets, he] at hm
  exact hm.2

/-- Every event of the run is of the kind the specification names. -/
theorem Spec.emits_of_mem (h : Spec allows emits s p ok err)
    (hw : ∀ ev ∈ (p.run w s).trace, allows ev) : ∀ ev ∈ (p.run w s).trace, emits ev := by
  have hm := wp_run (h []) hw
  cases hr : (p.run w s).result with
  | ok a =>
      simp only [Meets, hr, List.nil_append] at hm
      obtain ⟨⟨new, hnew, hev⟩, -⟩ := hm
      rw [hnew]
      exact hev
  | error e =>
      simp only [Meets, hr, List.nil_append] at hm
      obtain ⟨⟨new, hnew, hev⟩, -⟩ := hm
      rw [hnew]
      exact hev

/-- A program that cannot raise under allowed answers returns. -/
theorem Spec.exists_ok (h : Spec allows emits s p ok fun _ _ => False)
    (hw : ∀ ev ∈ (p.run w s).trace, allows ev) :
    ∃ a, (p.run w s).result = .ok a ∧ ok a (p.run w s).state := by
  cases hr : (p.run w s).result with
  | ok a => exact ⟨a, rfl, h.of_ok hw hr⟩
  | error e => exact (h.of_error hw hr).elim

end Runs

/-! ## specifications and questions -/

/-- A program that asks only what it may emits only events of such questions. -/
theorem Spec.asks {allows emits emits' : Event I → Prop} {may : I.Op → Prop}
    {p : Program I σ ε α} {s : σ} {ok : α → σ → Prop} {err : ε → σ → Prop}
    (h : Spec allows emits s p ok err) (hp : p.Asks may)
    (hemits : ∀ ev, emits ev → may ev.op → emits' ev) : Spec allows emits' s p ok err := by
  intro t₀
  -- both restrictions hold of the events since `t₀`, at the end of every branch
  have hand : ∀ {t : List (Event I)}, Extends emits t₀ t → Extends (fun ev => may ev.op) t₀ t →
      Extends emits' t₀ t := by
    intro t hemit hmay
    obtain ⟨new, rfl, hnew⟩ := hemit
    obtain ⟨new', heq, hnew'⟩ := hmay
    obtain rfl := List.append_cancel_left heq
    exact ⟨new, rfl, fun ev hev => hemits ev (hnew ev hev) (hnew' ev hev)⟩
  have hbranches : ∀ (s : σ) (t : List (Event I)), Extends (fun ev => may ev.op) t₀ t →
      wp allows p (fun a s' t' => Extends emits t₀ t' ∧ ok a s')
        (fun e s' t' => Extends emits t₀ t' ∧ err e s') s t →
      wp allows p (fun a s' t' => Extends emits' t₀ t' ∧ ok a s')
        (fun e s' t' => Extends emits' t₀ t' ∧ err e s') s t := by
    clear h
    induction p with
    | ret a => exact fun s t ht hpost => ⟨hand hpost.1 ht, hpost.2⟩
    | raise e => exact fun s t ht hpost => ⟨hand hpost.1 ht, hpost.2⟩
    | ask o k ih =>
        intro s t ht hpost r hr
        exact ih r (hp.2 r) s _ (ht.trans (Extends.snoc t hp.1)) (hpost r hr)
    | get k ih => exact fun s t ht hpost => ih s (hp s) s t ht hpost
    | put s' k ih => exact fun s t ht hpost => ih hp s' t ht hpost
  exact hbranches s t₀ (Extends.refl _ t₀) (h t₀)

/-- A program of which only the questions are known. -/
theorem spec_of_asks {allows emits : Event I → Prop} {may : I.Op → Prop} {p : Program I σ ε α}
    {s : σ} (hp : p.Asks may) (hemits : ∀ ev, may ev.op → emits ev) :
    Spec allows emits s p (fun _ _ => True) fun _ _ => True := by
  have hany : Spec allows (fun _ => True) s p (fun _ _ => True) fun _ _ => True := by
    intro t₀
    have hbranches : ∀ (s : σ) (t : List (Event I)), Extends (fun _ => True) t₀ t →
        wp allows p (fun _ _ t' => Extends (fun _ => True) t₀ t' ∧ True)
          (fun _ _ t' => Extends (fun _ => True) t₀ t' ∧ True) s t := by
      clear hp
      induction p with
      | ret a => exact fun s t ht => ⟨ht, trivial⟩
      | raise e => exact fun s t ht => ⟨ht, trivial⟩
      | ask o k ih => exact fun s t ht r _ => ih r s _ (ht.trans (Extends.snoc t trivial))
      | get k ih => exact fun s t ht => ih s s t ht
      | put s' k ih => exact fun s t ht => ih s' t ht
    exact hbranches s t₀ (Extends.refl _ t₀)
  exact hany.asks hp fun ev _ hmay => hemits ev hmay

/-! ## programs that leave the state alone -/

/-- `p` leaves the state `s` as it is, returns only values `ok` holds of and
raises only if `mayRaise`. -/
def Steady (allows emits : Event I → Prop) (mayRaise : Prop) (s : σ) (p : Program I σ ε α)
    (ok : α → Prop) : Prop :=
  Spec allows emits s p (fun a s' => s' = s ∧ ok a) fun _ s' => s' = s ∧ mayRaise

section Steady

variable {allows emits : Event I → Prop} {mayRaise : Prop} {s : σ}

theorem Steady.mono {p : Program I σ ε α} {ok ok' : α → Prop}
    (h : Steady allows emits mayRaise s p ok) (hok : ∀ a, ok a → ok' a) :
    Steady allows emits mayRaise s p ok' :=
  Spec.mono h (fun _ _ ha => ⟨ha.1, hok _ ha.2⟩) fun _ _ he => he

theorem steady_pure {a : α} {ok : α → Prop} (h : ok a) :
    Steady (ε := ε) allows emits mayRaise s (pure a) ok :=
  spec_pure ⟨rfl, h⟩

theorem steady_raise {e : ε} {ok : α → Prop} (h : mayRaise) :
    Steady allows emits mayRaise s (raise e) ok :=
  spec_raise ⟨rfl, h⟩

theorem steady_read_bind {f : σ → Program I σ ε α} {ok : α → Prop}
    (h : Steady allows emits mayRaise s (f s) ok) :
    Steady allows emits mayRaise s (read >>= f) ok :=
  spec_read_bind h

theorem steady_query {o : I.Op} (h : ∀ r, allows ⟨o, r⟩ → emits ⟨o, r⟩) :
    Steady (ε := ε) allows emits mayRaise s (query o) fun r => allows ⟨o, r⟩ :=
  Spec.mono (spec_query h) (fun _ _ h => ⟨h.2, h.1⟩) fun _ _ h => h

theorem steady_ofExcept {x : Except ε α} {ok : α → Prop} (hok : ∀ a, x = .ok a → ok a)
    (herr : ∀ e, x = .error e → mayRaise) :
    Steady allows emits mayRaise s (ofExcept x) ok :=
  spec_ofExcept (fun a ha => ⟨rfl, hok a ha⟩) fun e he => ⟨rfl, herr e he⟩

/-- A value that is there is passed on. -/
theorem steady_ofExcept_bind {x : Except ε β} {b : β} {f : β → Program I σ ε α} {ok : α → Prop}
    (hx : x = .ok b) (h : Steady allows emits mayRaise s (f b) ok) :
    Steady allows emits mayRaise s (ofExcept x >>= f) ok := by
  subst hx
  exact h

theorem steady_bind {p : Program I σ ε β} {f : β → Program I σ ε α} {mid : β → Prop}
    {ok : α → Prop} (hp : Steady allows emits mayRaise s p mid)
    (hf : ∀ b, mid b → Steady allows emits mayRaise s (f b) ok) :
    Steady allows emits mayRaise s (p >>= f) ok := by
  refine spec_bind hp ?_
  intro b s' hpost
  obtain ⟨rfl, hb⟩ := hpost
  exact hf b hb

theorem steady_forEach {f : α → Program I σ ε Unit} {xs : List α}
    (h : ∀ x ∈ xs, Steady allows emits mayRaise s (f x) fun _ => True) :
    Steady allows emits mayRaise s (forEach f xs) fun _ => True := by
  induction xs with
  | nil => exact steady_pure trivial
  | cons x xs ih =>
      refine steady_bind (p := f x) (f := fun _ => forEach f xs) (h x (List.mem_cons_self ..)) ?_
      exact fun _ _ => ih fun y hy => h y (List.mem_cons_of_mem _ hy)

/-- A run of a steady program that returns, whatever it is answered. -/
theorem Steady.of_run {p : Program I σ ε α} {ok : α → Prop} {w : Surroundings I} {a : α}
    (h : Steady (fun _ => True) (fun _ => True) True s p ok) (ha : (p.run w s).result = .ok a) :
    (p.run w s).state = s ∧ ok a :=
  h.of_ok (fun _ _ => trivial) ha

/-- The specification of what follows a steady program starts from the same
state. -/
theorem Steady.spec_bind {p : Program I σ ε β} {f : β → Program I σ ε α} {mid : β → Prop}
    {ok : α → σ → Prop} {err : ε → σ → Prop} (hp : Steady allows emits mayRaise s p mid)
    (herr : mayRaise → ∀ e, err e s) (hf : ∀ b, mid b → Spec allows emits s (f b) ok err) :
    Spec allows emits s (p >>= f) ok err := by
  refine Program.spec_bind (Spec.mono hp (fun _ _ h => h) ?_) ?_
  · intro e _ hpost
    obtain ⟨rfl, h⟩ := hpost
    exact herr h e
  · intro b _ hpost
    obtain ⟨rfl, hb⟩ := hpost
    exact hf b hb

/-- What follows a steady program goes on from the same state, after the events
it emitted. -/
theorem Steady.wp_bind {p : Program I σ ε β} {f : β → Program I σ ε α} {mid : β → Prop}
    {ok : α → σ → List (Event I) → Prop} {err : ε → σ → List (Event I) → Prop}
    {t : List (Event I)} (hp : Steady allows emits mayRaise s p mid)
    (herr : mayRaise → ∀ e t', Extends emits t t' → err e s t')
    (hf : ∀ b t', Extends emits t t' → mid b → wp allows (f b) ok err s t') :
    wp allows (p >>= f) ok err s t := by
  rw [Program.wp_bind]
  refine wp_mono ?_ ?_ (hp t)
  · intro b _ t' hpost
    obtain ⟨ht, rfl, hb⟩ := hpost
    exact hf b t' ht hb
  · intro e _ t' hpost
    obtain ⟨ht, rfl, h⟩ := hpost
    exact herr h e t' ht

end Steady

end Program

end Effects
