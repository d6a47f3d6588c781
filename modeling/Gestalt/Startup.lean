import Mathlib.Data.List.Induction
import Mathlib.Logic.Function.Basic

/-!
# Gestalt.Startup

The runtime that request handlers share.

`get_runtime` looks for a runtime and, without one, awaits `build_runtime`
before it stores what it built.  Handlers take turns at their await points:
between the look and the store every other handler may look as well.
-/

namespace Gestalt

namespace Startup

/-! ## a handler -/

/-- Where `build_runtime` awaits: the blackboard, the event bus and, when that
cannot be initialized, its `close` and the in-memory bus. -/
inductive Await where
  | blackboard
  | eventBus
  | close
  | memoryBus

/-- Where a handler is in `get_runtime`. -/
inductive Handler where
  | arrived
  | building (await : Await)
  | received (runtime : Nat)
  | raised

/-- How a handler goes on: whether what it awaited returned, and whether the code from
there to the next await runs through. -/
structure Resumption where
  returned : Bool := true
  runsThrough : Bool := true

/-- How a stretch of `build_runtime` ends. -/
inductive Stretch where
  | suspends (await : Await)
  | completes
  | raises

/-- `build_runtime` from an await on.  A bus that cannot be initialized is replaced
when the blackboard is on SQLite; what its `close` raises is suppressed. -/
def resume (sqlite : Bool) (r : Resumption) : Await → Stretch
  | .blackboard => if r.returned && r.runsThrough then .suspends .eventBus else .raises
  | .eventBus =>
      if r.returned then if r.runsThrough then .completes else .raises
      else if sqlite && r.runsThrough then .suspends .close
      else .raises
  | .close => if r.runsThrough then .suspends .memoryBus else .raises
  | .memoryBus => if r.returned && r.runsThrough then .completes else .raises

/-! ## the application -/

/-- An application and the handlers of its requests.  A runtime is known by how many
were built before it. -/
structure App (ι : Type) where
  /-- `app.state.runtime`. -/
  runtime : Option Nat
  built : Nat
  /-- The runtimes of the schedulers that were started. -/
  schedulers : List Nat
  handlers : ι → Handler

namespace App

variable {ι : Type} [DecidableEq ι]

/-- The handler goes on to `h`. -/
def goesTo (d : App ι) (i : ι) (h : Handler) : App ι :=
  { d with handlers := Function.update d.handlers i h }

/-- The end of `build_runtime` and of `get_runtime` after it: the scheduler is started,
the runtime is stored and the handler has it.  There is no await in between. -/
def completes (d : App ι) (i : ι) : App ι where
  runtime := some d.built
  built := d.built + 1
  schedulers := d.schedulers ++ [d.built]
  handlers := Function.update d.handlers i (.received d.built)

/-- The turn of one handler, from one await to the next. -/
def step (sqlite : Bool) (d : App ι) (turn : ι × Resumption) : App ι :=
  match d.handlers turn.1 with
  | .arrived =>
      match d.runtime with
      | some runtime => d.goesTo turn.1 (.received runtime)
      | none =>
          if turn.2.runsThrough then d.goesTo turn.1 (.building .blackboard)
          else d.goesTo turn.1 .raised
  | .building await =>
      match resume sqlite turn.2 await with
      | .suspends next => d.goesTo turn.1 (.building next)
      | .completes => d.completes turn.1
      | .raises => d.goesTo turn.1 .raised
  | .received _ | .raised => d

/-- An application whose lifespan has not run, after the turns. -/
def run (sqlite : Bool) (turns : List (ι × Resumption)) : App ι :=
  turns.foldl (step sqlite) ⟨none, 0, [], fun _ => .arrived⟩

/-- Every handler that has a runtime has the same one, and no more than one runtime was
built and one scheduler started. -/
structure OneRuntime (d : App ι) : Prop where
  same : ∀ i j runtime runtime', d.handlers i = .received runtime →
    d.handlers j = .received runtime' → runtime = runtime'
  built : d.built ≤ 1
  schedulers : d.schedulers.length ≤ 1

/-- The handler is building. -/
def Building (d : App ι) (i : ι) : Prop := ∃ await, d.handlers i = .building await

/-- The turn begins a build. -/
def Begins (d : App ι) (turn : ι × Resumption) : Prop :=
  d.handlers turn.1 = .arrived ∧ d.runtime = none ∧ turn.2.runsThrough = true

/-- A build that begins with the turn is the only one. -/
def BeginsAlone (d : App ι) (turn : ι × Resumption) : Prop :=
  d.Begins turn → ∀ j, ¬ d.Building j

/-- No turn of `more` begins a build. -/
def GoesOn (sqlite : Bool) (before more : List (ι × Resumption)) : Prop :=
  ∀ start turn rest, more = start ++ turn :: rest → ¬ (run sqlite (before ++ start)).Begins turn

section Steps

variable {sqlite : Bool} {d : App ι} {turn : ι × Resumption}

/-- What one turn does: nothing, hand out the runtime there is, begin a build, go on
with one, complete it, or raise. -/
inductive Steps (d : App ι) (turn : ι × Resumption) : App ι → Prop where
  | stays (h : d.handlers turn.1 ≠ .arrived) (hb : ¬ d.Building turn.1) : Steps d turn d
  | finds {runtime : Nat} (h : d.handlers turn.1 = .arrived) (hr : d.runtime = some runtime) :
      Steps d turn (d.goesTo turn.1 (.received runtime))
  | begins (h : d.Begins turn) : Steps d turn (d.goesTo turn.1 (.building .blackboard))
  | suspends {next : Await} (h : d.Building turn.1) :
      Steps d turn (d.goesTo turn.1 (.building next))
  | completes (h : d.Building turn.1) : Steps d turn (d.completes turn.1)
  | raises : Steps d turn (d.goesTo turn.1 .raised)

theorem steps (sqlite : Bool) (d : App ι) (turn : ι × Resumption) :
    d.Steps turn (d.step sqlite turn) := by
  unfold step
  cases hhandler : d.handlers turn.1 with
  | arrived =>
      cases hruntime : d.runtime with
      | some runtime => exact .finds hhandler hruntime
      | none =>
          by_cases hruns : turn.2.runsThrough = true
          · simp only [hruns, if_true]
            exact .begins ⟨hhandler, hruntime, hruns⟩
          · simp only [hruns, Bool.false_eq_true, if_false]
            exact .raises
  | building await =>
      have hbuilding : d.Building turn.1 := ⟨await, hhandler⟩
      cases hresume : resume sqlite turn.2 await with
      | suspends next => simpa only [hresume] using Steps.suspends hbuilding
      | completes => simpa only [hresume] using Steps.completes hbuilding
      | raises => simpa only [hresume] using Steps.raises
  | received runtime => exact .stays (by simp [hhandler]) (by simp [Building, hhandler])
  | raised => exact .stays (by simp [hhandler]) (by simp [Building, hhandler])

/-! ## one build at a time -/

/-- What holds as long as every build begins alone. -/
structure Single (d : App ι) : Prop where
  alone : ∀ i j, d.Building i → d.Building j → i = j
  unset : ∀ i, d.Building i → d.runtime = none
  received : ∀ i runtime, d.handlers i = .received runtime → d.runtime = some runtime
  built : d.built = d.runtime.toList.length
  schedulers : d.schedulers.length = d.built

omit [DecidableEq ι] in
theorem Single.oneRuntime (h : d.Single) : d.OneRuntime where
  same i j runtime runtime' hi hj := by
    have hsame := (h.received i runtime hi).symm.trans (h.received j runtime' hj)
    exact Option.some.inj hsame
  built := by
    rw [h.built]
    cases d.runtime <;> simp
  schedulers := by
    rw [h.schedulers, h.built]
    cases d.runtime <;> simp

theorem handlers_goesTo (i j : ι) (h : Handler) :
    (d.goesTo i h).handlers j = if j = i then h else d.handlers j := by
  simp [goesTo, Function.update_apply]

theorem handlers_completes (i j : ι) :
    (d.completes i).handlers j = if j = i then .received d.built else d.handlers j := by
  simp [completes, Function.update_apply]

/-- A handler that goes on without a runtime of its own keeps all of it. -/
theorem Single.goesTo (h : d.Single) {i : ι} {handler : Handler}
    (hbuilding : ∀ await, handler = .building await →
      d.runtime = none ∧ ∀ j, d.Building j → j = i)
    (hreceived : ∀ runtime, handler = .received runtime → d.runtime = some runtime) :
    (d.goesTo i handler).Single := by
  have hcases {j : ι} (hj : (d.goesTo i handler).Building j) :
      (j = i ∧ ∃ await, handler = .building await) ∨ (j ≠ i ∧ d.Building j) := by
    obtain ⟨await, hawait⟩ := hj
    rw [handlers_goesTo] at hawait
    by_cases hji : j = i
    · rw [if_pos hji] at hawait
      exact Or.inl ⟨hji, await, hawait⟩
    · rw [if_neg hji] at hawait
      exact Or.inr ⟨hji, await, hawait⟩
  refine ⟨fun j k hj hk => ?_, fun j hj => ?_, fun j runtime hj => ?_, h.built, h.schedulers⟩
  · rcases hcases hj with ⟨hji, await, ha⟩ | ⟨hji, hj⟩
    · rcases hcases hk with ⟨hki, -⟩ | ⟨hki, hk⟩
      · rw [hji, hki]
      · exact absurd ((hbuilding await ha).2 k hk) hki
    · rcases hcases hk with ⟨-, await, ha⟩ | ⟨-, hk⟩
      · exact absurd ((hbuilding await ha).2 j hj) hji
      · exact h.alone j k hj hk
  · rcases hcases hj with ⟨-, await, ha⟩ | ⟨-, hj⟩
    · exact (hbuilding await ha).1
    · exact h.unset j hj
  · rw [handlers_goesTo] at hj
    by_cases hji : j = i
    · rw [if_pos hji] at hj
      exact hreceived runtime hj
    · rw [if_neg hji] at hj
      exact h.received j runtime hj

/-- The one build in progress completes. -/
theorem Single.completes (h : d.Single) {i : ι} (hi : d.Building i) : (d.completes i).Single := by
  have hnone := h.unset i hi
  have hbuilt : d.built = 0 := by
    rw [h.built, hnone]
    rfl
  have hidle (j : ι) : ¬ (d.completes i).Building j := by
    rintro ⟨await, hawait⟩
    rw [handlers_completes] at hawait
    by_cases hji : j = i
    · simp [hji] at hawait
    · rw [if_neg hji] at hawait
      exact hji (h.alone j i ⟨await, hawait⟩ hi)
  refine ⟨fun j _ hj => absurd hj (hidle j), fun j hj => absurd hj (hidle j),
    fun j runtime hj => ?_, ?_, ?_⟩
  · rw [handlers_completes] at hj
    by_cases hji : j = i
    · rw [if_pos hji] at hj
      rw [← Handler.received.inj hj]
      rfl
    · rw [if_neg hji] at hj
      rw [h.received j runtime hj] at hnone
      contradiction
  · simp [App.completes, hbuilt]
  · simp [App.completes, h.schedulers]

/-- A turn that begins a build only alone keeps builds single. -/
theorem Single.step (h : d.Single) (halone : d.BeginsAlone turn) : (d.step sqlite turn).Single := by
  have hsteps := steps sqlite d turn
  generalize d.step sqlite turn = next at hsteps ⊢
  cases hsteps with
  | stays _ _ => exact h
  | finds _ hr =>
      refine h.goesTo (by simp) fun runtime' heq => ?_
      rw [hr, Handler.received.inj heq]
  | begins hbegins =>
      refine h.goesTo (fun _ _ => ⟨hbegins.2.1, fun j hj => ?_⟩) (by simp)
      exact absurd hj (halone hbegins j)
  | suspends hbuilding =>
      exact h.goesTo (fun _ _ => ⟨h.unset _ hbuilding, fun j hj => h.alone j _ hj hbuilding⟩)
        (by simp)
  | completes hbuilding => exact h.completes hbuilding
  | raises => exact h.goesTo (by simp) (by simp)

end Steps

section Runs

variable {sqlite : Bool} {turns : List (ι × Resumption)}

theorem run_snoc (turn : ι × Resumption) :
    run sqlite (turns ++ [turn]) = (run sqlite turns).step sqlite turn := by
  rw [run, List.foldl_append]
  rfl

theorem single_run_nil : (run sqlite ([] : List (ι × Resumption))).Single := by
  constructor <;> simp [run, Building]

/-- In a run whose builds begin alone there is one runtime. -/
theorem single_run (halone : ∀ before turn after, turns = before ++ turn :: after →
    (run sqlite before).BeginsAlone turn) : (run sqlite turns).Single := by
  induction turns using List.reverseRecOn with
  | nil => exact single_run_nil
  | append_singleton turns turn ih =>
      rw [run_snoc]
      refine (ih fun before turn' after hsplit => ?_).step (halone turns turn [] rfl)
      exact halone before turn' (after ++ [turn]) (by simp [hsplit])

/-- A handler that has looked does not look again. -/
theorem not_arrived_step {d : App ι} {turn : ι × Resumption} {i : ι}
    (h : d.handlers i ≠ .arrived) : (d.step sqlite turn).handlers i ≠ .arrived := by
  have hgoes (j : ι) {handler : Handler} (hlooked : handler ≠ .arrived) :
      (d.goesTo j handler).handlers i ≠ .arrived := by
    rw [handlers_goesTo]
    split <;> assumption
  have hsteps := steps sqlite d turn
  generalize d.step sqlite turn = next at hsteps ⊢
  cases hsteps with
  | stays _ _ => exact h
  | finds _ _ => exact hgoes _ (by simp)
  | begins _ => exact hgoes _ (by simp)
  | suspends _ => exact hgoes _ (by simp)
  | completes _ =>
      rw [handlers_completes]
      split <;> simp [h]
  | raises => exact hgoes _ (by simp)

theorem not_arrived_foldl (more : List (ι × Resumption)) {d : App ι} {i : ι}
    (h : d.handlers i ≠ .arrived) : (more.foldl (step sqlite) d).handlers i ≠ .arrived := by
  induction more generalizing d with
  | nil => exact h
  | cons turn more ih => exact ih (not_arrived_step h)

/-- The turns in which a build completes, where nothing fails. -/
def finish : Await → List Resumption
  | .blackboard => [{}, {}]
  | .eventBus => [{}]
  | .close => [{}, {}]
  | .memoryBus => [{}]

/-- A build that nothing disturbs completes. -/
theorem foldl_finish {d : App ι} {i : ι} {await : Await} (h : d.handlers i = .building await) :
    ((finish await).map fun r => (i, r)).foldl (step sqlite) d = d.completes i := by
  have hidem (handlers : ι → Handler) (a b : Handler) :
      Function.update (Function.update handlers i a) i b = Function.update handlers i b :=
    Function.update_idem a b handlers
  cases await <;>
    simp [finish, step, resume, h, goesTo, App.completes, hidem]

/-- The turns in which two builds complete, one after the other. -/
def finishBoth (i j : ι) (a b : Await) : List (ι × Resumption) :=
  ((finish a).map fun r => (i, r)) ++ (finish b).map fun r => (j, r)

/-- **Two builds under way** can both complete, and then two runtimes are built. -/
theorem built_finishBoth {d : App ι} {i j : ι} (hij : i ≠ j) {a b : Await}
    (hi : d.handlers i = .building a) (hj : d.handlers j = .building b) :
    ((finishBoth i j a b).foldl (step sqlite) d).built = d.built + 2 := by
  have hj' : (d.completes i).handlers j = .building b := by
    rw [handlers_completes, if_neg hij.symm, hj]
  rw [finishBoth, List.foldl_append, foldl_finish hi, foldl_finish hj']
  rfl

/-- A handler that has looked begins no build. -/
theorem not_begins_of_mem {before more : List (ι × Resumption)}
    (h : ∀ turn ∈ more, (run sqlite before).handlers turn.1 ≠ .arrived) :
    GoesOn sqlite before more := by
  intro start turn rest hsplit hbegins
  have hmem : turn ∈ more := by
    rw [hsplit]
    exact List.mem_append_right _ List.mem_cons_self
  have hlooked : (start.foldl (step sqlite) (run sqlite before)).handlers turn.1 ≠ .arrived :=
    not_arrived_foldl start (h turn hmem)
  rw [run, ← List.foldl_append] at hlooked
  exact hlooked hbegins.1

end Runs

/-- **One runtime per application.**  Whatever the number of requests and the order in
which their handlers take turns: however the builds under way go on from any point of
the run, all handlers receive one and the same runtime, no more than one is built and
one scheduler started, exactly when every build of the run begins while no other is
under way. -/
theorem oneRuntime_iff (sqlite : Bool) (turns : List (ι × Resumption)) :
    (∀ before after, turns = before ++ after → ∀ more, GoesOn sqlite before more →
        (run sqlite (before ++ more)).OneRuntime) ↔
      ∀ before turn after, turns = before ++ turn :: after →
        (run sqlite before).BeginsAlone turn := by
  constructor
  · intro hone before turn after hsplit hbegins j hj
    -- the other build and this one would both complete
    obtain ⟨await, hawait⟩ := hj
    have hne : j ≠ turn.1 := by
      rintro rfl
      rw [hbegins.1] at hawait
      contradiction
    have hstep : (run sqlite (before ++ [turn])) =
        (run sqlite before).goesTo turn.1 (.building .blackboard) := by
      rw [run_snoc, step]
      simp [hbegins.1, hbegins.2.1, hbegins.2.2]
    have hother : (run sqlite (before ++ [turn])).handlers j = .building await := by
      rw [hstep, handlers_goesTo, if_neg hne, hawait]
    have hself : (run sqlite (before ++ [turn])).handlers turn.1 = .building .blackboard := by
      rw [hstep, handlers_goesTo, if_pos rfl]
    have hgoesOn : GoesOn sqlite (before ++ [turn])
        (finishBoth j turn.1 await .blackboard) := by
      refine not_begins_of_mem fun turn' hmem => ?_
      rcases List.mem_append.mp hmem with hmem | hmem
      · obtain ⟨r, -, rfl⟩ := List.mem_map.mp hmem
        simp [hother]
      · obtain ⟨r, -, rfl⟩ := List.mem_map.mp hmem
        simp [hself]
    have hbuilt := (hone (before ++ [turn]) after (by simp [hsplit]) _ hgoesOn).built
    rw [run, List.foldl_append, ← run, built_finishBoth hne hother hself] at hbuilt
    omega
  · intro halone before after hsplit more hgoesOn
    refine (single_run fun start turn rest hstart => ?_).oneRuntime
    rcases List.append_eq_append_iff.mp hstart with ⟨start', rfl, hmore⟩ | ⟨rest', hbefore, hrest⟩
    · exact fun hbegins => absurd hbegins (hgoesOn start' turn rest hmore)
    · cases rest' with
      | nil =>
          have hempty : start = before := by simpa using hbefore.symm
          subst hempty
          have hmore : more = [] ++ turn :: rest := by simpa using hrest.symm
          exact fun hbegins => absurd (by simpa using hbegins) (hgoesOn [] turn rest hmore)
      | cons first rest' =>
          obtain ⟨rfl, hrest⟩ := List.cons.inj hrest
          exact halone start turn (rest' ++ after) (by simp [hsplit, hbefore])

/-- Two requests at once: both look before either has built, and each builds a runtime
and starts a scheduler of its own. -/
theorem two_runtimes :
    let turns : List (Bool × Resumption) :=
      [(false, {}), (true, {}), (false, {}), (false, {}), (true, {}), (true, {})]
    (run false turns).handlers false = .received 0 ∧
      (run false turns).handlers true = .received 1 ∧
      (run false turns).schedulers = [0, 1] ∧ ¬ (run false turns).OneRuntime := by
  intro turns
  have hbuilt : (run false turns).built = 2 := rfl
  refine ⟨rfl, rfl, rfl, fun h => ?_⟩
  have hatMost := h.built
  rw [hbuilt] at hatMost
  omega

end App

end Startup

end Gestalt
