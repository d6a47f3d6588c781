import Gestalt.Agents.Identifiers
import Gestalt.Graph.WriteAhead

/-!
# Gestalt.Graph.Identity

The identifiers of all that the cycles produce.

An invocation merges the artifacts of its builder and a report, and stores rows
of the same artifacts.  So the identifiers in a state are among those its own
cycle has drawn, and the keys in the blackboard among those all cycles have
drawn, each no more often than it was drawn.  As long as `uuid4` repeats none, no
write meets a key that is taken.
-/

namespace Gestalt

open Effects Program

/-! ## accounts -/

/-- The identifiers handed out among the events. -/
def drawn (events : List (Event Services)) : Multiset Uuid :=
  ↑(events.flatMap drawnIds)

/-- The keys of the rows stored among the events. -/
def storedKeys (events : List (Event Services)) : Multiset Uuid :=
  ↑((events.flatMap storedRows).map Row.key)

@[simp] theorem drawn_nil : drawn [] = 0 := rfl

@[simp] theorem storedKeys_nil : storedKeys [] = 0 := rfl

@[simp] theorem drawn_append (events events' : List (Event Services)) :
    drawn (events ++ events') = drawn events + drawn events' := by
  simp [drawn, ← Multiset.coe_add]

@[simp] theorem storedKeys_append (events events' : List (Event Services)) :
    storedKeys (events ++ events') = storedKeys events + storedKeys events' := by
  simp [storedKeys, ← Multiset.coe_add]

/-- From the identifiers `before` to those `after`, each new one was drawn, and so
was the key of each row. -/
structure Supplied (before after : Multiset Uuid) (events : List (Event Services)) : Prop where
  carried : after ≤ before + drawn events
  keyed : storedKeys events ≤ drawn events

/-! ## one invocation -/

section Invocation

variable {s : GestaltGraphState} {rt : Runtime} {a node : AgentName}

/-- An account of events, as a specification. -/
abbrev Accounts {α : Type} (s : GestaltGraphState) (p : Action α)
    (ok : α → GestaltGraphState → List (Event Services) → Prop)
    (err : GestaltGraphState → List (Event Services) → Prop) : Prop :=
  Logs (fun ev => [ev]) s p ok fun _ => err

theorem AtMostIssued.ids_le {allows : Event Services → Prop} {s s' : GestaltGraphState}
    (h : AtMostIssued allows rt s s') : s.ids ≤ s'.ids := by
  rcases h with rfl | ⟨approval, -, rfl⟩
  · exact le_rfl
  · simp only [GestaltGraphState.ids, GestaltGraphState.withApproval, List.map_append,
      ← Multiset.coe_add]
    exact add_le_add_right (Multiset.le_add_right _ _) _

/-- A part of the lifecycle that stores no row and keeps the state. -/
theorem Quiet.accounts {α : Type} {p : Action α} {ok : α → Prop} (h : Quiet s p ok) :
    Accounts s p (fun _ s' events => s' = s ∧ storedKeys events = 0)
      fun s' events => s' = s ∧ storedKeys events = 0 := by
  refine (Logs.events h).mono ?_ ?_
  · intro _ s' events hpost
    exact ⟨hpost.1, by simp [storedKeys, hpost.2.1]⟩
  · intro _ s' events hpost
    exact ⟨hpost.1, by simp [storedKeys, List.prefix_nil.mp hpost.2]⟩

/-- The builder draws what its artifacts are named by. -/
theorem accounts_builder {context : AgentContextEnvelope} (hcontext : ContextOf node s context) :
    Accounts s ((agentAt rt node).produceArtifacts context)
      (fun art s' events => art.ids + s'.ids ≤ s.ids + drawn events ∧ s.ids ≤ s'.ids ∧
        storedKeys events = 0)
      fun s' events => s'.ids ≤ s.ids + drawn events ∧ storedKeys events = 0 := by
  have hspent := (spends_builder rt node context s).events
  refine (hspent.and (logs_builder hcontext).events).mono ?_ ?_
  · intro art s' events hpost
    obtain ⟨hids, hnone, hissued, -⟩ := hpost
    refine ⟨by simpa [drawn] using hids, hissued.ids_le, by simp [storedKeys, hnone]⟩
  · intro _ s' events hpost
    obtain ⟨hids, hnone, -⟩ := hpost
    exact ⟨by simpa [drawn] using hids, by simp [storedKeys, hnone]⟩

/-- A report is named by a draw. -/
theorem accounts_buildExecutionReport {art : AgentArtifacts} {startedAt : Int}
    {status : CommandStatus} :
    Accounts s (buildExecutionReport a art startedAt status)
      (fun report s' events => s' = s ∧ ReportOf a status art s report ∧
        {report.reportId} ≤ drawn events ∧ storedKeys events = 0)
      fun s' events => s' = s ∧ storedKeys events = 0 := by
  have hspent : Spends 0 s (buildExecutionReport a art startedAt status)
      fun report => {report.reportId} := by
    refine mints_read_bind ?_
    refine mints_bind (spends_utcNow _) fun finishedAt s => ?_
    refine mints_bind spends_uuid4 fun reportId s => ?_
    split
    · exact mints_pure (by simp)
    · exact mints_raise
  refine (hspent.events.and (Logs.events quiet_buildExecutionReport)).mono ?_ ?_
  · intro report s' events hpost
    obtain ⟨hids, rfl, hnone, hreport⟩ := hpost
    refine ⟨rfl, hreport, ?_, by simp [storedKeys, hnone]⟩
    rw [zero_add, add_comm] at hids
    exact le_of_add_le_add_left hids
  · intro _ s' events hpost
    obtain ⟨-, rfl, hnone⟩ := hpost
    exact ⟨rfl, by simp [storedKeys, List.prefix_nil.mp hnone]⟩

/-- Once the artifacts are there, their rows are stored, and they are merged
together with a report. -/
theorem accounts_complete {startedAt : Int} {messages : List GestaltMessage}
    {art : AgentArtifacts} :
    Accounts s (complete a startedAt messages art)
      (fun out _ events =>
        out.ids ≤ s.ids + ↑(messages.map GestaltMessage.messageId) + art.ids + drawn events ∧
        storedKeys events ≤ art.ids)
      fun s' events => s' = s ∧ storedKeys events ≤ art.ids := by
  have hstored : Accounts s (persistOutputs art)
      (fun _ s' events => s' = s ∧ storedKeys events ≤ art.ids)
      fun s' events => s' = s ∧ storedKeys events ≤ art.ids := by
    refine (Logs.events logsAll_persistOutputs).mono ?_ ?_
    · intro _ s' events hpost
      obtain ⟨rfl, hrows, -⟩ := hpost
      exact ⟨rfl, by rw [storedKeys, hrows]; exact art.keys_rows_le⟩
    · intro _ s' events hpost
      obtain ⟨rfl, hrows⟩ := hpost
      have hkeys : (↑((events.flatMap storedRows).map Row.key) : Multiset Uuid) ≤
          ↑(art.rows.map Row.key) := (hrows.map Row.key).sublist.subperm
      exact ⟨rfl, hkeys.trans art.keys_rows_le⟩
  refine logs_bind hstored (fun _ _ _ h => h) fun _ s' events hpost => ?_
  obtain ⟨rfl, hkeys⟩ := hpost
  refine logs_bind accounts_buildExecutionReport (fun _ s'' events' h => ?_)
    fun report s'' events' hpost => ?_
  · exact ⟨h.1, by simpa [h.2] using hkeys⟩
  · obtain ⟨rfl, -, hreport, hnone⟩ := hpost
    refine logs_read_bind (logs_pure ⟨?_, by simpa [hnone] using hkeys⟩)
    refine (ids_applyStateUpdate_le _ _ _ _).trans (add_le_add_right ?_ _)
    simp only [drawn_append, List.append_nil]
    exact hreport.trans (Multiset.le_add_left _ _)

theorem Supplied.nil (before : Multiset Uuid) : Supplied before before [] :=
  ⟨by simp, by simp⟩

/-- Events that store no row are accounted for. -/
theorem Supplied.quiet {before : Multiset Uuid} {events : List (Event Services)}
    (h : storedKeys events = 0) : Supplied before before events :=
  ⟨Multiset.le_add_right _ _, h ▸ Multiset.zero_le _⟩

theorem Supplied.append {before mid after : Multiset Uuid} {events events' : List (Event Services)}
    (h : Supplied before mid events) (h' : Supplied mid after events') :
    Supplied before after (events ++ events') where
  carried := by
    rw [drawn_append, ← add_assoc]
    exact h'.carried.trans (add_le_add_left h.carried _)
  keyed := by
    rw [drawn_append, storedKeys_append]
    exact add_le_add h.keyed h'.keyed

/-- What the builder and the merge account for, taken together. -/
theorem Supplied.built {s s' out : GestaltGraphState} {messages art : Multiset Uuid}
    {events events' : List (Event Services)}
    (hbuilt : art + s'.ids ≤ s.ids + drawn events) (hkept : s.ids ≤ s'.ids)
    (hnone : storedKeys events = 0)
    (hout : out.ids ≤ s'.ids + messages + art + drawn events')
    (hkeys : storedKeys events' ≤ art) :
    Supplied (s.ids + messages) out.ids (events ++ events') := by
  constructor
  · refine Multiset.le_iff_count.mpr fun id => ?_
    have hbuilt := Multiset.count_le_of_le id hbuilt
    have hout := Multiset.count_le_of_le id hout
    simp only [drawn_append, Multiset.count_add] at hbuilt hout ⊢
    omega
  · refine Multiset.le_iff_count.mpr fun id => ?_
    have hbuilt := Multiset.count_le_of_le id hbuilt
    have hkept := Multiset.count_le_of_le id hkept
    have hkeys := Multiset.count_le_of_le id hkeys
    simp only [drawn_append, storedKeys_append, hnone, zero_add, Multiset.count_add] at hbuilt ⊢
    omega

/-- What follows a part that keeps the state goes on with the account. -/
theorem accounts_bind {β : Type} {p : Action β} {f : β → Action GestaltGraphState}
    {before : Multiset Uuid} {mid : β → Prop} {named : β → Multiset Uuid} (hs : s.ids ≤ before)
    (hp : Accounts s p (fun b s' events => s' = s ∧ mid b ∧ Supplied before (named b) events)
      fun s' events => s' = s ∧ storedKeys events = 0)
    (hf : ∀ b, mid b → Accounts s (f b) (fun out _ events => Supplied (named b) out.ids events)
      fun s' events => Supplied (named b) s'.ids events) :
    Accounts s (p >>= f) (fun out _ events => Supplied before out.ids events)
      fun s' events => Supplied before s'.ids events := by
  refine logs_bind hp (fun _ s' events h => ?_) fun b s' events hpost => ?_
  · obtain ⟨hs', hnone⟩ := h
    rw [hs']
    exact ⟨hs.trans (Multiset.le_add_right _ _), hnone ▸ Multiset.zero_le _⟩
  · obtain ⟨hs', hmid, hbefore⟩ := hpost
    rw [hs']
    exact (hf b hmid).mono (fun _ _ _ h => hbefore.append h) fun _ _ _ h => hbefore.append h

/-- A failure is reported, and its report is named by a draw. -/
theorem accounts_recover {startedAt : Int} {e : Exc} :
    Accounts s (recover rt a startedAt e) (fun out _ events => Supplied s.ids out.ids events)
      fun s' events => s' = s ∧ storedKeys events = 0 := by
  refine logs_bind accounts_buildExecutionReport (fun _ _ _ h => h) fun report s' events hpost => ?_
  obtain ⟨rfl, -, hdrawn, hnone⟩ := hpost
  refine logs_read_bind (logs_pure ?_)
  rw [List.append_nil]
  have hids := ids_applyStateUpdate_le s' [] (failureArtifacts rt a e) report
  refine ⟨hids.trans ?_, hnone ▸ Multiset.zero_le _⟩
  simpa using hdrawn

/-- The body of the `try`. -/
theorem accounts_lifecycle {startedAt : Int} :
    Accounts s (lifecycle rt (agentAt rt node) startedAt)
      (fun out _ events => Supplied s.ids out.ids events)
      fun s' events => Supplied s.ids s'.ids events := by
  rw [lifecycle, agentAt_name]
  have hprepared : Accounts s (prepareContext rt node)
      (fun context s' events => s' = s ∧ ContextOf node s context ∧ Supplied s.ids s.ids events)
      fun s' events => s' = s ∧ storedKeys events = 0 := by
    have hcontext : Yields s (prepareContext rt node) (ContextOf node s) :=
      steady_prepareContext fun _ _ _ => trivial
    exact ((logs_of_spec hcontext).and quiet_prepareContext.accounts).mono
      (fun _ _ _ h => ⟨h.2.1, h.1.2, .quiet h.2.2⟩) fun _ _ _ h => h.2
  have haligned : ∀ {context}, Accounts s (runAlignmentChecks rt node context)
      (fun _ s' events => s' = s ∧ True ∧ Supplied s.ids s.ids events)
      fun s' events => s' = s ∧ storedKeys events = 0 :=
    quiet_runAlignmentChecks.accounts.mono (fun _ _ _ h => ⟨h.1, trivial, .quiet h.2⟩)
      fun _ _ _ h => h
  have hmessages : ∀ {context}, Accounts s (buildInputMessages rt node context)
      (fun messages s' events => s' = s ∧ True ∧
        Supplied s.ids (s.ids + ↑(messages.map GestaltMessage.messageId)) events)
      fun s' events => s' = s ∧ storedKeys events = 0 := by
    intro context
    refine (spends_buildInputMessages.events.and quiet_buildInputMessages.accounts).mono ?_
      fun _ _ _ h => h.2
    intro messages s' events hpost
    obtain ⟨hids, hs', hnone⟩ := hpost
    refine ⟨hs', trivial, ?_, hnone ▸ Multiset.zero_le _⟩
    rw [hs', zero_add, add_comm] at hids
    exact hids
  refine accounts_bind le_rfl hprepared fun context hcontext => ?_
  refine accounts_bind le_rfl haligned fun _ _ => ?_
  refine accounts_bind le_rfl hmessages fun messages _ => ?_
  refine logs_bind (accounts_builder hcontext) (fun _ s' events h => ?_)
    fun art s' events hpost => ?_
  · obtain ⟨hids, hnone⟩ := h
    refine ⟨hids.trans (add_le_add_left (Multiset.le_add_right _ _) _), ?_⟩
    exact hnone ▸ Multiset.zero_le _
  · obtain ⟨hbuilt, hkept, hnone⟩ := hpost
    refine accounts_complete.mono ?_ ?_
    · intro out _ events' h
      exact .built hbuilt hkept hnone h.1 h.2
    · intro _ s'' events' h
      refine .built hbuilt hkept hnone ?_ h.2
      rw [h.1, add_assoc, add_assoc]
      exact Multiset.le_add_right _ _

/-- **One invocation** names what it produces by identifiers it has drawn, whether
it returns or raises. -/
theorem accounts_run (rt : Runtime) (node : AgentName) (s : GestaltGraphState) :
    Accounts s (run rt (agentAt rt node))
      (fun out _ events => Supplied s.ids out.ids events)
      fun _ events => storedKeys events ≤ drawn events := by
  refine logs_bind (quiet_utcNow .started).accounts (fun _ _ events h => ?_)
    fun startedAt s' events hpost => ?_
  · exact h.2 ▸ Multiset.zero_le _
  · obtain ⟨rfl, hnone⟩ := hpost
    refine logs_tryCatch (fun _ s'' events' => Supplied s'.ids s''.ids (events ++ events'))
      (accounts_lifecycle.mono (fun _ _ _ h => (Supplied.quiet hnone).append h)
        fun _ _ _ h => (Supplied.quiet hnone).append h) fun e s'' events' hraised => ?_
    refine accounts_recover.mono (fun out _ events'' h => ?_) fun _ _ events'' h => ?_
    · rw [← List.append_assoc]
      exact hraised.append h
    · rw [← List.append_assoc, storedKeys_append, h.2, add_zero, drawn_append]
      exact hraised.keyed.trans (Multiset.le_add_right _ _)

end Invocation

/-! ## steps -/

/-- **One step** accounts for what the state gains and for the rows it stores. -/
theorem Cycle.supplied_step {c : Cycle} (hrange : c.state.stats.InRange) (rt : Runtime)
    (v : Visit) : Supplied c.state.ids (c.step rt v).state.ids (c.events rt v) := by
  have hmoves := moves hrange rt v
  generalize c.step rt v = c' at hmoves ⊢
  cases hmoves with
  | stays hcursor =>
      rw [events_of_not_at hcursor]
      exact .nil _
  | rejected hcursor hlost =>
      rw [events_of_lost hrange hlost]
      exact .nil _
  | @raised node e hcursor hover hrun =>
      have hlog := accounts_run rt node c.state v.answers
      rw [agentRun] at hrun
      simp only [hrun, List.flatMap_singleton'] at hlog
      rw [events_of_handsOver hcursor hrange hover]
      exact ⟨Multiset.le_add_right _ _, hlog⟩
  | @visited node out hcursor hover hrun =>
      have hlog := accounts_run rt node c.state v.answers
      rw [agentRun] at hrun
      simp only [hrun, List.flatMap_singleton'] at hlog
      rw [events_of_handsOver hcursor hrange hover]
      exact hlog

/-! ## boards -/

namespace SharedBoard

variable {ι : Type} [DecidableEq ι] {rt : Runtime} {fresh : ι → Fresh}
variable {request : ι → CycleRequest}

/-- The identifiers handed out in the turns from a board on, with the cycle that
draws them. -/
def draws (rt : Runtime) (d : SharedBoard ι) : List (ι × Visit) → List (ι × Uuid)
  | [] => []
  | turn :: turns =>
      (((d.cycles turn.1).events rt turn.2).flatMap drawnIds).map (turn.1, ·) ++
        draws rt (d.step rt turn) turns

/-- The identifiers that one cycle draws. -/
def drawnBy (i : ι) (ids : List (ι × Uuid)) : Multiset Uuid :=
  ↑((ids.filter fun id => id.1 = i).map Prod.snd)

theorem drawnBy_append (i : ι) (ids ids' : List (ι × Uuid)) :
    drawnBy i (ids ++ ids') = drawnBy i ids + drawnBy i ids' := by
  simp [drawnBy, ← Multiset.coe_add]

theorem drawnBy_self (i : ι) (ids : List Uuid) : drawnBy i (ids.map (i, ·)) = ↑ids := by
  simp [drawnBy, List.filter_map, Function.comp_def]

theorem drawnBy_other {i j : ι} (h : j ≠ i) (ids : List Uuid) :
    drawnBy i (ids.map (j, ·)) = 0 := by
  simp [drawnBy, h]

theorem drawnBy_le (i : ι) (ids : List (ι × Uuid)) : drawnBy i ids ≤ ↑(ids.map Prod.snd) :=
  (List.filter_sublist.map Prod.snd).subperm

/-- What two cycles draw, they draw apart. -/
theorem drawnBy_add_le {i j : ι} (h : i ≠ j) (ids : List (ι × Uuid)) :
    drawnBy i ids + drawnBy j ids ≤ ↑(ids.map Prod.snd) := by
  induction ids with
  | nil => simp [drawnBy]
  | cons id ids ih =>
      rw [← List.singleton_append, drawnBy_append, drawnBy_append, List.map_append,
        ← Multiset.coe_add, add_add_add_comm]
      refine add_le_add ?_ ih
      by_cases hi : id.1 = i
      · simp [drawnBy, hi, h]
      · simpa [drawnBy, hi] using drawnBy_le j [id]

/-- The turns account for what the cycles gain and for the rows they store. -/
theorem supplied_turns {d : SharedBoard ι} (h : d.Sound fresh request)
    (turns : List (ι × Visit)) :
    (↑((turns.foldl (step rt) d).rows.map Row.key) : Multiset Uuid) ≤
        ↑(d.rows.map Row.key) + ↑((draws rt d turns).map Prod.snd) ∧
      ∀ i, ((turns.foldl (step rt) d).cycles i).state.ids ≤
        (d.cycles i).state.ids + drawnBy i (draws rt d turns) := by
  induction turns generalizing d with
  | nil => simp [draws, drawnBy]
  | cons turn turns ih =>
      have hsound : (d.step rt turn).Sound fresh request := h.step turn
      obtain ⟨hrows, hids⟩ := ih hsound
      have hstep := Cycle.supplied_step (h.cycles turn.1).inRange rt turn.2
      obtain ⟨hcarried, hkeyed⟩ := hstep
      constructor
      · calc (↑((turns.foldl (step rt) (d.step rt turn)).rows.map Row.key) : Multiset Uuid)
          _ ≤ ↑((d.step rt turn).rows.map Row.key) +
                ↑((draws rt (d.step rt turn) turns).map Prod.snd) := hrows
          _ = ↑(d.rows.map Row.key) + storedKeys ((d.cycles turn.1).events rt turn.2) +
                ↑((draws rt (d.step rt turn) turns).map Prod.snd) := by
              simp [step, storedKeys, ← Multiset.coe_add]
          _ ≤ ↑(d.rows.map Row.key) + drawn ((d.cycles turn.1).events rt turn.2) +
                ↑((draws rt (d.step rt turn) turns).map Prod.snd) := by
              gcongr
          _ = ↑(d.rows.map Row.key) + ↑((draws rt d (turn :: turns)).map Prod.snd) := by
              simp [draws, drawn, ← Multiset.coe_add, add_assoc, Function.comp_def]
      · intro i
        refine (hids i).trans ?_
        rw [draws, drawnBy_append, ← add_assoc]
        refine add_le_add_left ?_ _
        by_cases hi : turn.1 = i
        · subst hi
          rw [drawnBy_self]
          simpa [step, drawn] using hcarried
        · rw [drawnBy_other hi, add_zero]
          simp [step, Function.update_of_ne (Ne.symm hi)]

/-- As long as no identifier is handed out twice, no two rows have the same key. -/
theorem keys_nodup_run {turns : List (ι × Visit)}
    (hdraws : ((draws rt (run rt fresh request []) turns).map Prod.snd).Nodup) :
    ((run rt fresh request turns).rows.map Row.key).Nodup := by
  have hsound : (run rt fresh request []).Sound fresh request := sound_run rt fresh request []
  obtain ⟨hrows, -⟩ := supplied_turns hsound turns
  have hnodup : (↑((draws rt (run rt fresh request []) turns).map Prod.snd) :
      Multiset Uuid).Nodup := hdraws
  exact Multiset.nodup_of_le hrows (by simpa [run] using hnodup)

/-- No two records have one identifier: no two rows of the blackboard the same
key, and no two records in the states of the cycles the same identifier. -/
structure Distinct (d : SharedBoard ι) : Prop where
  rows : (d.rows.map Row.key).Nodup
  records : ∀ i, (d.cycles i).state.ids.Nodup
  apart : ∀ i j, i ≠ j → Disjoint (d.cycles i).state.ids (d.cycles j).state.ids

/-- **No identifier is used twice.**  Among any number of cycles that share a
blackboard, in whatever order they take their turns and whatever fails: if
`uuid4` hands out no identifier twice, no write meets a primary key that is taken,
and no two messages, commands, memories, proposals, reports, findings,
instructions, approvals and summaries, of one cycle or of two, are named alike. -/
theorem distinct_run (rt : Runtime) (fresh : ι → Fresh) (request : ι → CycleRequest)
    (turns : List (ι × Visit))
    (hdraws : ((draws rt ⟨fun i => .start (fresh i) (request i), [], []⟩ turns).map
      Prod.snd).Nodup) :
    (run rt fresh request turns).Distinct := by
  have hsound : (run rt fresh request []).Sound fresh request := sound_run rt fresh request []
  obtain ⟨-, hids⟩ := supplied_turns hsound turns
  have hnodup : (↑((draws rt (run rt fresh request []) turns).map Prod.snd) :
      Multiset Uuid).Nodup := hdraws
  have hdrawn : ∀ i, ((run rt fresh request turns).cycles i).state.ids ≤
      drawnBy i (draws rt (run rt fresh request []) turns) := fun i => (hids i).trans (by
    simp [run, Cycle.start, buildGraphState, GestaltGraphState.ids])
  constructor
  · exact keys_nodup_run hdraws
  · exact fun i => Multiset.nodup_of_le ((hdrawn i).trans (drawnBy_le i _)) hnodup
  · intro i j hij
    have hboth := (add_le_add (hdrawn i) (hdrawn j)).trans (drawnBy_add_le hij _)
    exact (Multiset.nodup_add.mp (Multiset.nodup_of_le hboth hnodup)).2.2

end SharedBoard

/-- A calm visit that hands out the numbers from `first` on. -/
def Reference.numbered (first : Nat) : Visit where
  received := ⟨0, 0⟩
  answers n
    | .uuid4 => first + n
    | op => answer (fun _ => false) op

/-- Two cycles of the reference world, and three visits with numbers of their own. -/
theorem SharedBoard.distinct_run_pair :
    (run Reference.runtime Reference.freshPair (fun _ => Reference.monitorRequest)
      [(true, Reference.numbered 100), (false, Reference.numbered 200),
        (true, Reference.numbered 300)]).Distinct :=
  distinct_run Reference.runtime Reference.freshPair (fun _ => Reference.monitorRequest)
    [(true, Reference.numbered 100), (false, Reference.numbered 200),
      (true, Reference.numbered 300)] (by decide +kernel)

end Gestalt
