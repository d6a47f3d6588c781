import Gestalt.Agents.Scripts
import Gestalt.Graph.WriteAhead

/-!
# Gestalt.Graph.Choreography

In which order a cycle calls the services.

Every visit keeps to the script of its agent, and leaves it early only where the
invocation fails.  So the calls of a whole cycle are told by the agents it
visited, up to what the scripts leave open, and so is how often a service is
called at most.
-/

namespace Gestalt

open Effects Program

/-! ## one invocation -/

/-- The word is the beginning of the script, and all of it unless a failure was
reported. -/
def Performs (node : AgentName) (out : GestaltGraphState) (word : List Service) : Prop :=
  node.script.Begins word ∧
    (word ∈ node.script.words ∨ ∃ report ∈ out.executionReports, report.status = .failed)

section Invocation

variable {rt : Runtime} {node : AgentName} {s : GestaltGraphState}

/-- The body of the `try` keeps to the script. -/
theorem follows_lifecycle {startedAt : Int} :
    Follows calledServices (lifecycle rt (agentAt rt node) startedAt) node.script
      fun _ => True := by
  rw [lifecycle, agentAt_name]
  have hprepared : Follows calledServices (prepareContext rt node) (.say .recall) fun _ => True :=
    follows_read_bind fun _ => follows_bind_silent (follows_send _) fun _ _ => follows_pure trivial
  refine follows_seq hprepared fun context _ => ?_
  refine follows_silent_bind (silent_of_inward asks_runAlignmentChecks) fun _ _ => ?_
  refine follows_silent_bind (silent_of_inward asks_inward_buildInputMessages) fun messages _ => ?_
  refine follows_seq (scripted rt context node) fun artifacts hservices => ?_
  refine follows_bind_silent (follows_persistOutputs hservices) fun _ _ => ?_
  refine follows_silent_bind (silent_of_inward asks_inward_buildExecutionReport) fun report _ => ?_
  exact follows_read_bind fun _ => follows_pure trivial

/-- The `except` branch calls nothing and reports the failure. -/
theorem logs_recovers {startedAt : Int} {e : Exc} :
    Logs calledServices s (recover rt node startedAt e)
      (fun out _ word => word = [] ∧ ∃ report ∈ out.executionReports, report.status = .failed)
      fun _ _ word => word = [] := by
  have hsilent : Silent (recover rt node startedAt e) fun _ => True :=
    silent_of_inward asks_inward_recover
  have hfailed : Spec (fun _ => True) (fun _ => True) s (recover rt node startedAt e)
      (fun out _ => FailedAs rt node s out) fun _ _ => True :=
    Spec.mono (spec_recover trivial (fun _ _ => Or.inr trivial) e)
      (fun _ _ h => h.2.1.failedAs) fun _ _ h => h
  refine ((hsilent s).and (logs_of_spec hfailed)).mono ?_ ?_
  · intro out _ word hpost
    obtain ⟨⟨hword, -⟩, hout⟩ := hpost
    obtain ⟨report, hreports, hstatus⟩ := hout.reported
    exact ⟨Script.eq_nil_of_mem_words_done hword, report, by simp [hreports], hstatus⟩
  · intro _ _ word hpost
    exact Script.eq_nil_of_begins_done hpost.1

/-- **One invocation** performs the script of its agent. -/
theorem logs_performs (rt : Runtime) (node : AgentName) (s : GestaltGraphState) :
    Logs calledServices s (run rt (agentAt rt node)) (fun out _ word => Performs node out word)
      fun _ _ word => node.script.Begins word := by
  refine logs_bind (silent_utcNow .started s) ?_ fun startedAt s' word hpost => ?_
  · intro _ _ word hbegins
    rw [Script.eq_nil_of_begins_done hbegins]
    exact Script.begins_nil _
  rw [Script.eq_nil_of_mem_words_done hpost.1, agentAt_name]
  simp only [List.nil_append]
  refine logs_tryCatch (fun _ _ word => node.script.Begins word) ?_ fun e s'' word hbegins => ?_
  · exact (follows_lifecycle s').mono
      (fun _ _ _ h => ⟨Script.begins_of_mem h.1, Or.inl h.1⟩) fun _ _ _ h => h
  · refine logs_recovers.mono ?_ ?_
    · intro out _ word' hpost
      rw [hpost.1, List.append_nil]
      exact ⟨hbegins, Or.inr hpost.2⟩
    · intro _ _ word' hpost
      rwa [hpost, List.append_nil]

end Invocation

/-! ## cycles -/

/-- The services the step calls. -/
def Cycle.called (rt : Runtime) (v : Visit) (c : Cycle) : List Service :=
  (c.events rt v).flatMap calledServices

/-- The services called within `n` steps. -/
def Cycle.services (rt : Runtime) (visits : Nat → Visit) (c : Cycle) : Nat → List Service
  | 0 => []
  | n + 1 => services rt visits c n ++ (after rt visits c n).called rt (visits n)

/-- **One step** calls nothing and visits no agent, or performs the script of the
agent it visits. -/
theorem Cycle.called_step {c : Cycle} (hrange : c.state.stats.InRange) (rt : Runtime)
    (v : Visit) :
    ((c.step rt v).visited = c.visited ∧ c.called rt v = []) ∨
      ∃ node, (c.step rt v).visited = c.visited ++ [node] ∧
        node.script.Begins (c.called rt v) ∧
        (c.called rt v ∈ node.script.words ∨ (c.step rt v).Troubled) := by
  have hcalled : ∀ {node}, c.cursor = .at node → c.HandsOver v →
      c.called rt v = (c.agentRun rt v node).trace.flatMap calledServices :=
    fun hcursor hover => by rw [called, events_of_handsOver hcursor hrange hover]
  have hmoves := moves hrange rt v
  generalize c.step rt v = c' at hmoves ⊢
  cases hmoves with
  | stays hcursor => exact Or.inl ⟨rfl, by rw [called, events_of_not_at hcursor]; rfl⟩
  | rejected hcursor hlost => exact Or.inl ⟨rfl, by rw [called, events_of_lost hrange hlost]; rfl⟩
  | @raised node e hcursor hover hrun =>
      have hperforms := logs_performs rt node c.state v.answers
      rw [agentRun] at hrun
      simp only [hrun] at hperforms
      rw [hcalled hcursor hover]
      exact Or.inr ⟨node, rfl, hperforms, Or.inr (Or.inl ⟨_, rfl⟩)⟩
  | @visited node out hcursor hover hrun =>
      have hperforms := logs_performs rt node c.state v.answers
      rw [agentRun] at hrun
      simp only [hrun] at hperforms
      rw [hcalled hcursor hover]
      exact Or.inr ⟨node, rfl, hperforms.1, hperforms.2.imp_right Or.inr⟩

/-- The services called are a word for each agent visited: the beginning of its
script, and all of it as long as nothing goes wrong. -/
def Cycle.Recites (c : Cycle) (called : List Service) : Prop :=
  ∃ words : List (List Service), called = words.flatten ∧
    List.Forall₂ (fun node word => node.script.Begins word) c.visited words ∧
    (c.Troubled ∨ List.Forall₂ (fun node word => word ∈ node.script.words) c.visited words)

/-- A step adds the word of the agent it visits. -/
theorem Cycle.Recites.step {c : Cycle} {called : List Service} (h : c.Recites called)
    (hrange : c.state.stats.InRange) (rt : Runtime) (v : Visit) :
    (c.step rt v).Recites (called ++ c.called rt v) := by
  obtain ⟨words, rfl, hbegins, hwhole⟩ := h
  have htroubled : c.Troubled → (c.step rt v).Troubled := fun h => h.step hrange
  rcases called_step hrange rt v with ⟨hvisited, hnone⟩ | ⟨node, hvisited, hword, hall⟩
  · rw [Recites, hvisited, hnone, List.append_nil]
    exact ⟨words, rfl, hbegins, hwhole.imp_left htroubled⟩
  · rw [Recites, hvisited]
    refine ⟨words ++ [c.called rt v], by simp, ?_, ?_⟩
    · exact List.rel_append hbegins (.cons hword .nil)
    · rcases hwhole with hwhole | hwhole
      · exact Or.inl (htroubled hwhole)
      · exact hall.symm.imp_right fun hmem => List.rel_append hwhole (.cons hmem .nil)

/-- No service is called more often than the scripts allow. -/
theorem count_flatten_le {visited : List AgentName} {words : List (List Service)}
    (h : List.Forall₂ (fun node word => node.script.Begins word) visited words)
    (service : Service) :
    words.flatten.count service ≤ (visited.map fun node => node.script.most service).sum := by
  induction h with
  | nil => simp
  | @cons node word visited words hword _ ih =>
      have hcount := hword.count_le service
      rw [List.flatten_cons, List.count_append, List.map_cons, List.sum_cons]
      omega

/-- **Choreography.**  In every run of every cycle, whatever is answered and
whatever fails, the services called are one word after the other, a word for each
agent visited: the beginning of the script of the agent, and a whole word of it
as long as no invocation fails and the cycle does not crash.  No service is called
more often than the scripts of the agents visited add up to. -/
theorem Cycle.recites_after (rt : Runtime) (fresh : Fresh) (request : CycleRequest)
    (visits : Nat → Visit) (n : Nat) :
    let c := after rt visits (start fresh request) n
    let called := services rt visits (start fresh request) n
    c.Recites called ∧
      ∀ service, called.count service ≤
        (c.visited.map fun node => node.script.most service).sum := by
  intro c called
  have hrecites : c.Recites called := by
    induction n with
    | zero => exact ⟨[], rfl, .nil, Or.inr .nil⟩
    | succ n ih => exact ih.step (sound_after rt fresh request visits n).inRange rt (visits n)
  refine ⟨hrecites, fun service => ?_⟩
  obtain ⟨words, hcalled, hbegins, -⟩ := hrecites
  rw [hcalled]
  exact count_flatten_le hbegins service

/-- No visit has more than one completion requested. -/
example (node : AgentName) : node.script.most .completion = 1 := by
  cases node <;> rfl

/-- Only the planner calls the shell. -/
example : ∀ node ∈ [AgentName.orchestrator, .monitor, .analyzer, .optimizer, .knowledge,
    .securityAudit], node.script.most .shell = 0 := by
  decide

end Gestalt
