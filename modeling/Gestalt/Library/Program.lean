/-!
# Gestalt.Library.Program

Programs that ask their surroundings questions.

A `Program` is a tree of effects: it returns, raises, asks a question of an
`Interface` and goes on with the answer, or reads and replaces one piece of
mutable state.  State survives an exception, as an object mutated in place
does.  The surroundings are a stream of answers, one for each question in
turn, so quantifying over them quantifies over every behaviour of the outside
world, failures included.

`Program.wp` is the weakest precondition: a postcondition for normal return
and one for exceptions, over the final state and the trace of questions and
answers, under a restriction `allows` on the answers.  `wp_run` is the only
theorem a client needs to turn such a condition into a fact about runs.
-/

namespace Effects

/-- What a program can ask of its surroundings, and what each answer is. -/
structure Interface where
  Op : Type
  Answer : Op → Type

/-- A question together with the answer it got. -/
structure Event (I : Interface) where
  op : I.Op
  answer : I.Answer op

/-- A program over `I` with mutable state `σ`, exceptions `ε` and result `α`. -/
inductive Program (I : Interface) (σ ε α : Type) : Type where
  | ret (a : α)
  | raise (e : ε)
  | ask (o : I.Op) (k : I.Answer o → Program I σ ε α)
  | get (k : σ → Program I σ ε α)
  | put (s : σ) (k : Program I σ ε α)

/-- The surroundings of one run: the answer to the `n`-th question asked. -/
abbrev Surroundings (I : Interface) := Nat → (o : I.Op) → I.Answer o

/-- The surroundings left after `n` questions. -/
def Surroundings.drop {I : Interface} (w : Surroundings I) (n : Nat) : Surroundings I :=
  fun i => w (n + i)

/-- What a run leaves behind. -/
structure Outcome (I : Interface) (σ ε α : Type) where
  result : Except ε α
  state : σ
  trace : List (Event I)

namespace Program

variable {I : Interface} {σ ε α β γ : Type}

/-! ## sequencing and exceptions -/

/-- Sequential composition; an exception skips what follows. -/
def bind : Program I σ ε α → (α → Program I σ ε β) → Program I σ ε β
  | ret a, f => f a
  | raise e, _ => raise e
  | ask o k, f => ask o fun r => (k r).bind f
  | get k, f => get fun s => (k s).bind f
  | put s k, f => put s (k.bind f)

/-- Run `h` where `p` raises; the state `p` reached is kept. -/
def tryCatch : Program I σ ε α → (ε → Program I σ ε α) → Program I σ ε α
  | ret a, _ => ret a
  | raise e, h => h e
  | ask o k, h => ask o fun r => (k r).tryCatch h
  | get k, h => get fun s => (k s).tryCatch h
  | put s k, h => put s (k.tryCatch h)

instance : Monad (Program I σ ε) where
  pure := ret
  bind := bind

/-- Ask one question and return its answer. -/
def query (o : I.Op) : Program I σ ε (I.Answer o) := ask o ret

/-- The current state. -/
def read : Program I σ ε σ := get ret

/-- Change the state in place. -/
def modify (f : σ → σ) : Program I σ ε Unit := get fun s => put (f s) (ret ())

/-- Raise unless the value is there. -/
def ofExcept : Except ε α → Program I σ ε α
  | .ok a => ret a
  | .error e => raise e

/-- Run `f` on every element in order. -/
def forEach (f : α → Program I σ ε Unit) : List α → Program I σ ε Unit
  | [] => ret ()
  | x :: xs => (f x).bind fun _ => forEach f xs

/-! ## runs -/

/-- Run a program in the surroundings `w` from the state `s`. -/
def run : Program I σ ε α → Surroundings I → σ → Outcome I σ ε α
  | ret a, _, s => ⟨.ok a, s, []⟩
  | raise e, _, s => ⟨.error e, s, []⟩
  | ask o k, w, s =>
      let out := (k (w 0 o)).run (w.drop 1) s
      ⟨out.result, out.state, ⟨o, w 0 o⟩ :: out.trace⟩
  | get k, w, s => (k s).run w s
  | put s' k, w, _ => k.run w s'

section RunRules

variable (w : Surroundings I) (s : σ)

@[simp] theorem run_pure (a : α) : (pure a : Program I σ ε α).run w s = ⟨.ok a, s, []⟩ := rfl

@[simp] theorem run_raise (e : ε) : (raise e : Program I σ ε α).run w s = ⟨.error e, s, []⟩ := rfl

@[simp] theorem run_query (o : I.Op) :
    (query o : Program I σ ε (I.Answer o)).run w s = ⟨.ok (w 0 o), s, [⟨o, w 0 o⟩]⟩ := rfl

@[simp] theorem run_read : (read : Program I σ ε σ).run w s = ⟨.ok s, s, []⟩ := rfl

@[simp] theorem run_modify (f : σ → σ) :
    (modify f : Program I σ ε Unit).run w s = ⟨.ok (), f s, []⟩ := rfl

@[simp] theorem drop_zero : w.drop 0 = w := by
  funext i
  simp [Surroundings.drop]

@[simp] theorem drop_drop (n m : Nat) : (w.drop n).drop m = w.drop (n + m) := by
  funext i
  simp [Surroundings.drop, Nat.add_assoc]

/-- A sequence runs its first part, then the rest in what is left of the
surroundings. -/
@[simp] theorem run_bind (p : Program I σ ε α) (f : α → Program I σ ε β) :
    (p >>= f).run w s =
      match (p.run w s).result with
      | .error e => ⟨.error e, (p.run w s).state, (p.run w s).trace⟩
      | .ok a =>
          let rest := (f a).run (w.drop (p.run w s).trace.length) (p.run w s).state
          ⟨rest.result, rest.state, (p.run w s).trace ++ rest.trace⟩ := by
  change (p.bind f).run w s = _
  induction p generalizing w s with
  | ret a => simp [bind, run]
  | raise e => simp [bind, run]
  | ask o k ih =>
      simp only [bind, run, ih]
      cases ((k (w 0 o)).run (w.drop 1) s).result <;> simp [Nat.add_comm]
  | get k ih => exact ih s w s
  | put s' k ih => exact ih w s'

/-- A sequence that returns has a first part that returns. -/
theorem exists_of_run_bind {w : Surroundings I} {s : σ} {p : Program I σ ε α}
    {f : α → Program I σ ε β} {b : β} (h : ((p >>= f).run w s).result = .ok b) :
    ∃ a, (p.run w s).result = .ok a ∧
      ((f a).run (w.drop (p.run w s).trace.length) (p.run w s).state).result = .ok b := by
  rw [run_bind] at h
  cases hp : (p.run w s).result with
  | error e => simp [hp] at h
  | ok a => exact ⟨a, rfl, by simpa [hp] using h⟩

/-- What follows a part that returns adds its events to those of the part. -/
theorem trace_of_run_bind {w : Surroundings I} {s : σ} {p : Program I σ ε α}
    {f : α → Program I σ ε β} {a : α} (h : (p.run w s).result = .ok a) :
    ((p >>= f).run w s).trace = (p.run w s).trace ++
      ((f a).run (w.drop (p.run w s).trace.length) (p.run w s).state).trace := by
  rw [run_bind, h]

/-- A program whose value is dropped. -/
theorem run_discard (p : Program I σ ε α) :
    (p >>= fun _ => (pure () : Program I σ ε Unit)).run w s =
      ⟨(p.run w s).result.map fun _ => (), (p.run w s).state, (p.run w s).trace⟩ := by
  rw [run_bind]
  cases (p.run w s).result with
  | error e => rfl
  | ok a => simp [Except.map]

/-- A handler runs in what is left of the surroundings, on the state the body
reached. -/
theorem run_tryCatch (p : Program I σ ε α) (h : ε → Program I σ ε α) :
    (p.tryCatch h).run w s =
      match (p.run w s).result with
      | .ok a => ⟨.ok a, (p.run w s).state, (p.run w s).trace⟩
      | .error e =>
          let rest := (h e).run (w.drop (p.run w s).trace.length) (p.run w s).state
          ⟨rest.result, rest.state, (p.run w s).trace ++ rest.trace⟩ := by
  induction p generalizing w s with
  | ret a => simp [tryCatch, run]
  | raise e => simp [tryCatch, run]
  | ask o k ih =>
      simp only [tryCatch, run, ih]
      cases ((k (w 0 o)).run (w.drop 1) s).result <;> simp [Nat.add_comm]
  | get k ih => exact ih s w s
  | put s' k ih => exact ih w s'

end RunRules

/-- Every event of a run carries an answer the surroundings gave. -/
theorem answer_of_mem_trace (p : Program I σ ε α) (w : Surroundings I) (s : σ) :
    ∀ ev ∈ (p.run w s).trace, ∃ n, ev = ⟨ev.op, w n ev.op⟩ := by
  induction p generalizing w s with
  | ret a => simp [run]
  | raise e => simp [run]
  | ask o k ih =>
      intro ev hev
      simp only [run, List.mem_cons] at hev
      rcases hev with rfl | hev
      · exact ⟨0, rfl⟩
      · obtain ⟨n, hn⟩ := ih (w 0 o) (w.drop 1) s ev hev
        exact ⟨1 + n, hn⟩
  | get k ih => exact ih s w s
  | put s' k ih => exact ih w s'

/-! ## the questions of a program -/

/-- Whatever the answers, `p` asks no questions but those that `may` be asked. -/
def Asks (may : I.Op → Prop) : Program I σ ε α → Prop
  | ret _ | raise _ => True
  | ask o k => may o ∧ ∀ r, (k r).Asks may
  | get k => ∀ s, (k s).Asks may
  | put _ k => k.Asks may

section Asks

variable {may : I.Op → Prop}

theorem asks_pure (a : α) : Asks may (pure a : Program I σ ε α) := trivial

theorem asks_raise (e : ε) : Asks may (raise e : Program I σ ε α) := trivial

theorem asks_query {o : I.Op} (h : may o) : Asks may (query o : Program I σ ε (I.Answer o)) :=
  ⟨h, fun _ => trivial⟩

theorem asks_read : Asks may (read : Program I σ ε σ) := fun _ => trivial

theorem asks_modify (f : σ → σ) : Asks may (modify f : Program I σ ε Unit) := fun _ => trivial

theorem asks_ofExcept (x : Except ε α) : Asks may (ofExcept x : Program I σ ε α) := by
  cases x <;> trivial

/-- A sequence asks what its parts ask. -/
theorem asks_bind {p : Program I σ ε β} {f : β → Program I σ ε α} (hp : p.Asks may)
    (hf : ∀ b, (f b).Asks may) : (p >>= f).Asks may := by
  change (p.bind f).Asks may
  induction p with
  | ret b => exact hf b
  | raise e => trivial
  | ask o k ih => exact ⟨hp.1, fun r => ih r (hp.2 r)⟩
  | get k ih => exact fun s => ih s (hp s)
  | put s' k ih => exact ih hp

theorem asks_read_bind {f : σ → Program I σ ε α} (hf : ∀ s, (f s).Asks may) :
    (read >>= f).Asks may :=
  asks_bind asks_read hf

theorem asks_tryCatch {p : Program I σ ε α} {h : ε → Program I σ ε α} (hp : p.Asks may)
    (hh : ∀ e, (h e).Asks may) : (p.tryCatch h).Asks may := by
  induction p with
  | ret a => trivial
  | raise e => exact hh e
  | ask o k ih => exact ⟨hp.1, fun r => ih r (hp.2 r)⟩
  | get k ih => exact fun s => ih s (hp s)
  | put s' k ih => exact ih hp

theorem asks_forEach {f : α → Program I σ ε Unit} {xs : List α}
    (h : ∀ x ∈ xs, (f x).Asks may) : (forEach f xs).Asks may := by
  induction xs with
  | nil => trivial
  | cons x xs ih =>
      change ((f x) >>= fun _ => forEach f xs).Asks may
      exact asks_bind (h x List.mem_cons_self) fun _ =>
        ih fun y hy => h y (List.mem_cons_of_mem x hy)

/-- The questions of a run are among those the program may ask. -/
theorem Asks.op_of_mem {p : Program I σ ε α} (h : p.Asks may) (w : Surroundings I) (s : σ) :
    ∀ ev ∈ (p.run w s).trace, may ev.op := by
  induction p generalizing w s with
  | ret a => simp [run]
  | raise e => simp [run]
  | ask o k ih =>
      intro ev hev
      simp only [run, List.mem_cons] at hev
      rcases hev with rfl | hev
      · exact h.1
      · exact ih _ (h.2 _) _ _ ev hev
  | get k ih => exact ih s (h s) w s
  | put s' k ih => exact ih h w s'

end Asks

/-! ## weakest preconditions -/

/-- Weakest precondition of a program whose answers all satisfy `allows`:
`ok` must hold where it returns, `err` where it raises.  The last argument is
the trace of the events so far. -/
def wp (allows : Event I → Prop) : Program I σ ε α →
    (α → σ → List (Event I) → Prop) → (ε → σ → List (Event I) → Prop) →
    σ → List (Event I) → Prop
  | ret a, ok, _, s, t => ok a s t
  | raise e, _, err, s, t => err e s t
  | ask o k, ok, err, s, t => ∀ r, allows ⟨o, r⟩ → (k r).wp allows ok err s (t ++ [⟨o, r⟩])
  | get k, ok, err, s, t => (k s).wp allows ok err s t
  | put s' k, ok, err, _, t => k.wp allows ok err s' t

section Rules

variable (allows : Event I → Prop)
variable (ok : α → σ → List (Event I) → Prop) (err : ε → σ → List (Event I) → Prop)
variable (s : σ) (t : List (Event I))

@[simp] theorem wp_pure (a : α) :
    wp allows (pure a : Program I σ ε α) ok err s t ↔ ok a s t := Iff.rfl

@[simp] theorem wp_ret (a : α) :
    wp allows (ret a : Program I σ ε α) ok err s t ↔ ok a s t := Iff.rfl

@[simp] theorem wp_raise (e : ε) :
    wp allows (raise e : Program I σ ε α) ok err s t ↔ err e s t := Iff.rfl

@[simp] theorem wp_read (ok : σ → σ → List (Event I) → Prop) :
    wp allows (read : Program I σ ε σ) ok err s t ↔ ok s s t := Iff.rfl

@[simp] theorem wp_modify (f : σ → σ) (ok : Unit → σ → List (Event I) → Prop) :
    wp allows (modify f : Program I σ ε Unit) ok err s t ↔ ok () (f s) t := Iff.rfl

/-- Sequencing: the rest must be right wherever the first part returns. -/
@[simp] theorem wp_bind (p : Program I σ ε β) (f : β → Program I σ ε α) :
    wp allows (p >>= f) ok err s t ↔
      wp allows p (fun b s t => wp allows (f b) ok err s t) err s t := by
  change wp allows (p.bind f) ok err s t ↔ _
  induction p generalizing s t with
  | ret b => exact Iff.rfl
  | raise e => exact Iff.rfl
  | ask o k ih => exact forall_congr' fun r => imp_congr_right fun _ => ih r s (t ++ [⟨o, r⟩])
  | get k ih => exact ih s s t
  | put s' k ih => exact ih s' t

/-- Exceptions: the handler must be right wherever the body raises. -/
@[simp] theorem wp_tryCatch (p : Program I σ ε α) (h : ε → Program I σ ε α) :
    wp allows (p.tryCatch h) ok err s t ↔
      wp allows p ok (fun e s t => wp allows (h e) ok err s t) s t := by
  induction p generalizing s t with
  | ret b => exact Iff.rfl
  | raise e => exact Iff.rfl
  | ask o k ih => exact forall_congr' fun r => imp_congr_right fun _ => ih r s (t ++ [⟨o, r⟩])
  | get k ih => exact ih s s t
  | put s' k ih => exact ih s' t

end Rules

/-- The rule of consequence. -/
theorem wp_mono {allows : Event I → Prop} {p : Program I σ ε α}
    {ok ok' : α → σ → List (Event I) → Prop} {err err' : ε → σ → List (Event I) → Prop}
    (hok : ∀ a s t, ok a s t → ok' a s t) (herr : ∀ e s t, err e s t → err' e s t)
    {s : σ} {t : List (Event I)} (h : wp allows p ok err s t) : wp allows p ok' err' s t := by
  induction p generalizing s t with
  | ret a => exact hok a s t h
  | raise e => exact herr e s t h
  | ask o k ih => exact fun r hr => ih r (h r hr)
  | get k ih => exact ih s h
  | put s' k ih => exact ih h

/-- The rule of conjunction. -/
theorem wp_and {allows : Event I → Prop} {p : Program I σ ε α}
    {ok ok' : α → σ → List (Event I) → Prop} {err err' : ε → σ → List (Event I) → Prop}
    {s : σ} {t : List (Event I)} (h : wp allows p ok err s t) (h' : wp allows p ok' err' s t) :
    wp allows p (fun a s t => ok a s t ∧ ok' a s t) (fun e s t => err e s t ∧ err' e s t) s t := by
  induction p generalizing s t with
  | ret a => exact ⟨h, h'⟩
  | raise e => exact ⟨h, h'⟩
  | ask o k ih => exact fun r hr => ih r (h r hr) (h' r hr)
  | get k ih => exact ih s h h'
  | put s' k ih => exact ih h h'

/-- The postcondition a run satisfies: `ok` of a returned value, `err` of an
exception, both over the final state and the events so far. -/
def Meets (ok : α → σ → List (Event I) → Prop) (err : ε → σ → List (Event I) → Prop)
    (t : List (Event I)) (out : Outcome I σ ε α) : Prop :=
  match out.result with
  | .ok a => ok a out.state (t ++ out.trace)
  | .error e => err e out.state (t ++ out.trace)

/-- **Soundness**: a run whose answers are all allowed meets every condition
its weakest precondition establishes. -/
theorem wp_run {allows : Event I → Prop} {p : Program I σ ε α}
    {ok : α → σ → List (Event I) → Prop} {err : ε → σ → List (Event I) → Prop}
    {w : Surroundings I} {s : σ} {t : List (Event I)} (h : wp allows p ok err s t)
    (hw : ∀ ev ∈ (p.run w s).trace, allows ev) : Meets ok err t (p.run w s) := by
  induction p generalizing w s t with
  | ret a => simpa [Meets, run] using h
  | raise e => simpa [Meets, run] using h
  | ask o k ih =>
      simp only [run, List.mem_cons, forall_eq_or_imp] at hw
      have hk := ih (w 0 o) (w := w.drop 1) (h (w 0 o) hw.1) hw.2
      simpa [Meets, run] using hk
  | get k ih => exact ih s h hw
  | put s' k ih => exact ih h hw

/-- A loop keeps an invariant that every pass keeps. -/
theorem wp_forEach {allows : Event I → Prop} {f : α → Program I σ ε Unit}
    (inv : List α → σ → List (Event I) → Prop) {err : ε → σ → List (Event I) → Prop}
    (hstep : ∀ x xs s t, inv (x :: xs) s t → wp allows (f x) (fun _ s t => inv xs s t) err s t)
    (xs : List α) {s : σ} {t : List (Event I)} (h : inv xs s t) :
    wp allows (forEach f xs) (fun _ s t => inv [] s t) err s t := by
  induction xs generalizing s t with
  | nil => exact h
  | cons x xs ih =>
      change wp allows (f x >>= fun _ => forEach f xs) _ _ s t
      rw [wp_bind]
      exact wp_mono (fun _ s t hi => ih hi) (fun _ _ _ he => he) (hstep x xs s t h)

end Program

end Effects
