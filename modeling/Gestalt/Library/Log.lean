import Gestalt.Library.Spec

/-!
# Gestalt.Library.Log

What a program logs.

An observation reads items off the events of a run, and the items of all events
in order are its log.  `Logs` specifies a program by what it returns or raises
together with what it has logged by then, in any surroundings; a sequence logs
what its parts log, one after the other, and a handler goes on where the body
stopped.  This is the form of a statement about work that is cut short.
-/

namespace Effects

namespace Program

variable {I : Interface} {σ ε α β ρ : Type}

/-- Run from `s`, the program returns with `ok` of the value, the state and the
log, or raises with `err` of the exception, the state and the log. -/
def Logs (obs : Event I → List ρ) (s : σ) (p : Program I σ ε α)
    (ok : α → σ → List ρ → Prop) (err : ε → σ → List ρ → Prop) : Prop :=
  ∀ w, match (p.run w s).result with
    | .ok a => ok a (p.run w s).state ((p.run w s).trace.flatMap obs)
    | .error e => err e (p.run w s).state ((p.run w s).trace.flatMap obs)

section Rules

variable {obs : Event I → List ρ} {s : σ}
variable {ok ok' : α → σ → List ρ → Prop} {err err' : ε → σ → List ρ → Prop}

/-- The rule of consequence. -/
theorem Logs.mono {p : Program I σ ε α} (h : Logs obs s p ok err)
    (hok : ∀ a s log, ok a s log → ok' a s log) (herr : ∀ e s log, err e s log → err' e s log) :
    Logs obs s p ok' err' := by
  intro w
  have hw := h w
  cases hr : (p.run w s).result with
  | ok a =>
      simp only [hr] at hw ⊢
      exact hok _ _ _ hw
  | error e =>
      simp only [hr] at hw ⊢
      exact herr _ _ _ hw

/-- Two accounts of one program hold together. -/
theorem Logs.and {p : Program I σ ε α} (h : Logs obs s p ok err) (h' : Logs obs s p ok' err') :
    Logs obs s p (fun a s log => ok a s log ∧ ok' a s log)
      fun e s log => err e s log ∧ err' e s log := by
  intro w
  have hw := h w
  have hw' := h' w
  cases hr : (p.run w s).result with
  | ok a =>
      simp only [hr] at hw hw' ⊢
      exact ⟨hw, hw'⟩
  | error e =>
      simp only [hr] at hw hw' ⊢
      exact ⟨hw, hw'⟩

/-- A specification that restricts no answer says what is returned or raised. -/
theorem logs_of_spec {emits : Event I → Prop} {p : Program I σ ε α} {ok : α → σ → Prop}
    {err : ε → σ → Prop} (h : Spec (fun _ => True) emits s p ok err) :
    Logs obs s p (fun a s _ => ok a s) fun e s _ => err e s := by
  intro w
  cases hr : (p.run w s).result with
  | ok a => exact h.of_ok (fun _ _ => trivial) hr
  | error e => exact h.of_error (fun _ _ => trivial) hr

/-- Every log is read off the events of the run. -/
theorem Logs.events {p : Program I σ ε α} (h : Logs obs s p ok err) :
    Logs (fun ev => [ev]) s p (fun a s events => ok a s (events.flatMap obs))
      fun e s events => err e s (events.flatMap obs) := by
  intro w
  simpa using h w

theorem logs_pure {a : α} (h : ok a s []) : Logs obs s (pure a) ok err :=
  fun _ => h

theorem logs_raise {e : ε} (h : err e s []) : Logs obs s (raise e) ok err :=
  fun _ => h

theorem logs_read_bind {f : σ → Program I σ ε α} (h : Logs obs s (f s) ok err) :
    Logs obs s (read >>= f) ok err :=
  h

theorem logs_query {o : I.Op} {ok : I.Answer o → σ → List ρ → Prop}
    (h : ∀ r, ok r s (obs ⟨o, r⟩)) : Logs obs s (query o) ok err := by
  intro w
  simpa using h (w 0 o)

theorem logs_ofExcept {x : Except ε α} (hok : ∀ a, x = .ok a → ok a s [])
    (herr : ∀ e, x = .error e → err e s []) : Logs obs s (ofExcept x) ok err := by
  cases x with
  | ok a => exact logs_pure (hok a rfl)
  | error e => exact logs_raise (herr e rfl)

/-- A sequence logs what its parts log. -/
theorem logs_bind {p : Program I σ ε β} {f : β → Program I σ ε α} {mid : β → σ → List ρ → Prop}
    {stop : ε → σ → List ρ → Prop} (hp : Logs obs s p mid stop)
    (hstop : ∀ e s' log, stop e s' log → err e s' log)
    (hf : ∀ b s' log, mid b s' log → Logs obs s' (f b) (fun a s'' log' => ok a s'' (log ++ log'))
      fun e s'' log' => err e s'' (log ++ log')) :
    Logs obs s (p >>= f) ok err := by
  intro w
  have hw := hp w
  rw [run_bind]
  cases hr : (p.run w s).result with
  | error e =>
      simp only [hr] at hw ⊢
      exact hstop _ _ _ hw
  | ok b =>
      simp only [hr, List.flatMap_append] at hw ⊢
      exact hf b _ _ hw (w.drop (p.run w s).trace.length)

/-- A handler goes on where the body stopped. -/
theorem logs_tryCatch {p : Program I σ ε α} {h : ε → Program I σ ε α}
    (stop : ε → σ → List ρ → Prop) (hp : Logs obs s p ok stop)
    (hh : ∀ e s' log, stop e s' log → Logs obs s' (h e) (fun a s'' log' => ok a s'' (log ++ log'))
      fun e s'' log' => err e s'' (log ++ log')) :
    Logs obs s (p.tryCatch h) ok err := by
  intro w
  have hw := hp w
  rw [run_tryCatch]
  cases hr : (p.run w s).result with
  | ok a =>
      simp only [hr] at hw ⊢
      exact hw
  | error e =>
      simp only [hr, List.flatMap_append] at hw ⊢
      exact hh e _ _ hw (w.drop (p.run w s).trace.length)

/-- A program logs nothing but what its questions let it log. -/
theorem logs_of_asks {may : I.Op → Prop} {allowed : ρ → Prop} {p : Program I σ ε α}
    (h : p.Asks may) (hobs : ∀ ev, may ev.op → ∀ item ∈ obs ev, allowed item) :
    Logs obs s p (fun _ _ log => ∀ item ∈ log, allowed item)
      fun _ _ log => ∀ item ∈ log, allowed item := by
  intro w
  have hlog : ∀ item ∈ (p.run w s).trace.flatMap obs, allowed item := by
    intro item hitem
    obtain ⟨ev, hev, hitem⟩ := List.mem_flatMap.mp hitem
    exact hobs ev (h.op_of_mem w s ev hev) item hitem
  cases hr : (p.run w s).result with
  | ok a => exact hlog
  | error e => exact hlog

end Rules

/-! ## programs that log a given list -/

/-- `p` leaves the state alone and logs `items`, or the first of them where it
raises. -/
def LogsAll (obs : Event I → List ρ) (s : σ) (p : Program I σ ε α) (items : List ρ)
    (ok : α → Prop) : Prop :=
  Logs obs s p (fun a s' log => s' = s ∧ log = items ∧ ok a) fun _ s' log => s' = s ∧ log <+: items

section LogsAll

variable {obs : Event I → List ρ} {s : σ} {items items' : List ρ}

theorem logsAll_bind {p : Program I σ ε β} {f : β → Program I σ ε α} {mid : β → Prop}
    {ok : α → Prop} (hp : LogsAll obs s p items mid)
    (hf : ∀ b, mid b → LogsAll obs s (f b) items' ok) :
    LogsAll obs s (p >>= f) (items ++ items') ok := by
  refine logs_bind hp ?_ ?_
  · intro e _ log hpost
    obtain ⟨rfl, hlog⟩ := hpost
    exact ⟨rfl, hlog.trans (List.prefix_append _ _)⟩
  · intro b _ _ hpost
    obtain ⟨rfl, rfl, hb⟩ := hpost
    refine (hf b hb).mono ?_ ?_
    · intro a _ _ hpost
      obtain ⟨rfl, rfl, ha⟩ := hpost
      exact ⟨rfl, rfl, ha⟩
    · intro e _ log hpost
      obtain ⟨rfl, hlog⟩ := hpost
      exact ⟨rfl, (List.prefix_append_right_inj _).mpr hlog⟩

/-- A loop logs an item for each element, up to the first failure. -/
theorem logsAll_forEach {f : α → Program I σ ε Unit} {item : α → ρ} {xs : List α}
    (h : ∀ x, LogsAll obs s (f x) [item x] fun _ => True) :
    LogsAll obs s (forEach f xs) (xs.map item) fun _ => True := by
  induction xs with
  | nil => exact logs_pure ⟨rfl, rfl, trivial⟩
  | cons x xs ih => exact logsAll_bind (p := f x) (f := fun _ => forEach f xs) (h x) fun _ _ => ih

end LogsAll

/-! ## programs that are only cut short by an event -/

/-- As long as `allows` holds of the events, `p` leaves the state alone and logs
all `items`, and raises only if `mayRaise`. -/
def LogsWhole (allows : Event I → Prop) (obs : Event I → List ρ) (mayRaise : Prop) (s : σ)
    (p : Program I σ ε α) (items : List ρ) (ok : α → Prop) : Prop :=
  Logs (fun ev => [ev]) s p
    (fun a s' events => (∀ ev ∈ events, allows ev) → s' = s ∧ events.flatMap obs = items ∧ ok a)
    fun _ s' events => (∀ ev ∈ events, allows ev) → mayRaise ∧ s' = s ∧ events.flatMap obs = items

section LogsWhole

variable {allows : Event I → Prop} {obs : Event I → List ρ} {mayRaise : Prop} {s : σ}
variable {items items' : List ρ}

/-- A program that logs its items until it raises logs all of them if it does not
raise, or has none to log. -/
theorem LogsAll.whole {emits : Event I → Prop} {p : Program I σ ε α} {ok ok' : α → Prop}
    (h : LogsAll obs s p items ok) (hsteady : Steady allows emits mayRaise s p ok')
    (hitems : mayRaise → items = []) : LogsWhole allows obs mayRaise s p items ok' := by
  intro w
  have hlog := h.events w
  cases hr : (p.run w s).result with
  | ok a =>
      simp only [hr] at hlog ⊢
      obtain ⟨hs, hlog, -⟩ := hlog
      intro hallowed
      rw [List.flatMap_singleton'] at hallowed
      exact ⟨hs, hlog, (hsteady.of_ok hallowed hr).2⟩
  | error e =>
      simp only [hr] at hlog ⊢
      obtain ⟨hs, hlog⟩ := hlog
      intro hallowed
      rw [List.flatMap_singleton'] at hallowed
      have hmay : mayRaise := (hsteady.of_error hallowed hr).2
      rw [hitems hmay, List.prefix_nil] at hlog
      exact ⟨hmay, hs, hlog.trans (hitems hmay).symm⟩

/-- What follows a program that does not raise logs the rest. -/
theorem logsWhole_bind {p : Program I σ ε β} {f : β → Program I σ ε α} {mid : β → Prop}
    {ok : α → Prop} (hp : LogsWhole allows obs False s p items mid)
    (hf : ∀ b, mid b → LogsWhole allows obs mayRaise s (f b) items' ok) :
    LogsWhole allows obs mayRaise s (p >>= f) (items ++ items') ok := by
  refine logs_bind hp (fun _ _ _ h hallowed => (h hallowed).1.elim) fun b s' events hpost => ?_
  by_cases hallowed : ∀ ev ∈ events, allows ev
  · obtain ⟨rfl, rfl, hb⟩ := hpost hallowed
    refine (hf b hb).mono ?_ ?_
    · intro a _ events' hpost hall
      obtain ⟨rfl, rfl, ha⟩ := hpost fun ev hev => hall ev (List.mem_append_right _ hev)
      exact ⟨rfl, List.flatMap_append .., ha⟩
    · intro _ _ events' hpost hall
      obtain ⟨hmay, rfl, rfl⟩ := hpost fun ev hev => hall ev (List.mem_append_right _ hev)
      exact ⟨hmay, rfl, List.flatMap_append ..⟩
  · -- nothing is said of a run in which an event was not allowed
    have hnot : ∀ events', ¬ ∀ ev ∈ events ++ events', allows ev :=
      fun events' hall => hallowed fun ev hev => hall ev (List.mem_append_left _ hev)
    intro w
    cases (Program.run (f b) w s').result with
    | ok a => exact fun hall => (hnot _ hall).elim
    | error e => exact fun hall => (hnot _ hall).elim

end LogsWhole

end Program

end Effects
