import Gestalt.Graph.Questions
import Gestalt.Graph.Reference
import Gestalt.Library.Log
import Gestalt.Library.Register

/-!
# Gestalt.Graph.Lineage

The relations of the graph store and the memories they join.

The knowledge agent recalls memories, drafts one of its own and links the best
match to it, all while it builds its artifacts; the memory is written after
that, by the lifecycle all agents share, into another store.  No transaction
spans the two: a relation whose memory could not be written stays behind.
-/

namespace Gestalt

open Effects Program

/-! ## the events that matter -/

/-- What an event says about the memory table and the graph store. -/
inductive Mark where
  | recalled (record : BlackboardMemoryRecord)
  | linked (relation : BlackboardRelation)
  | stored (record : BlackboardMemoryRecord)
  | lost (record : BlackboardMemoryRecord)

namespace Mark

/-- The memory that was written. -/
def stored? : Mark → Option BlackboardMemoryRecord
  | stored record => some record
  | _ => none

/-- The relation that was merged. -/
def linked? : Mark → Option BlackboardRelation
  | linked relation => some relation
  | _ => none

end Mark

/-- The marks of an event: a query that succeeds recalls its matches, a merge that
succeeds links, and a write stores its memory or, when it fails, loses it. -/
def marks : Event Services → List Mark
  | ⟨.call (.queryMemory _), .ok result⟩ => result.matching.map .recalled
  | ⟨.call (.linkEntities relations), .ok _⟩ => relations.map .linked
  | ⟨.call (.writeMemory record), .ok _⟩ => [.stored record]
  | ⟨.call (.writeMemory record), .error _⟩ => [.lost record]
  | _ => []

theorem eq_of_recalled_mem {ev : Event Services} {record : BlackboardMemoryRecord}
    (h : .recalled record ∈ marks ev) :
    ∃ query result, ev = ⟨.call (.queryMemory query), .ok result⟩ ∧ record ∈ result.matching := by
  unfold marks at h
  split at h
  · exact ⟨_, _, rfl, by simpa using h⟩
  all_goals simp at h

theorem eq_of_lost_mem {ev : Event Services} {record : BlackboardMemoryRecord}
    (h : .lost record ∈ marks ev) : ∃ e, ev = ⟨.call (.writeMemory record), .error e⟩ := by
  unfold marks at h
  split at h
  case h_4 e =>
      obtain rfl := (Mark.lost.inj (List.mem_singleton.mp h))
      exact ⟨e, rfl⟩
  all_goals simp at h

/-! ## the knowledge agent -/

/-- The relations of the log lead from memories that were recalled to this one, which
has not been written so far. -/
structure Leads (rt : Runtime) (memory : BlackboardMemoryRecord) (log : List Mark) : Prop where
  source : ∀ relation, .linked relation ∈ log → ∃ record, .recalled record ∈ log ∧
    relation.sourceId = rt.idText record.recordId
  target : ∀ relation, .linked relation ∈ log →
    relation.relationType.val = "CURATED_INTO" ∧ relation.targetId = rt.idText memory.recordId
  unwritten : ∀ record, .stored record ∉ log ∧ .lost record ∉ log

/-- What one invocation does to the two stores: it links nothing; or it links memories
that it recalled to one that it then writes, with or without success. -/
inductive Lineage (rt : Runtime) : List Mark → Prop where
  | apart {log : List Mark} (h : ∀ relation, .linked relation ∉ log) : Lineage rt log
  | kept {before : List Mark} {memory : BlackboardMemoryRecord} (h : Leads rt memory before) :
      Lineage rt (before ++ [.stored memory])
  | lost {before : List Mark} {memory : BlackboardMemoryRecord} (h : Leads rt memory before) :
      Lineage rt (before ++ [.lost memory])

/-- A mark of recalling. -/
def Mark.IsRecall : Mark → Prop
  | recalled _ => True
  | _ => False

theorem marks_of_apart {ev : Event Services} (h : Apart ev.op) : marks ev = [] := by
  obtain ⟨op, answer⟩ := ev
  cases op with
  | call c => cases c <;> cases answer <;> first | exact h.elim | rfl
  | _ => rfl

theorem isRecall_of_recalling {ev : Event Services} (h : Recalling ev.op) :
    ∀ mark ∈ marks ev, mark.IsRecall := by
  obtain ⟨op, answer⟩ := ev
  by_cases hapart : Apart op
  · simp [@marks_of_apart ⟨op, answer⟩ hapart]
  · cases op with
    | call c =>
        cases c <;> cases answer <;>
          first | exact h.elim | exact absurd trivial hapart | simp [marks, Mark.IsRecall]
    | _ => exact absurd trivial hapart

section Knowledge

variable {rt : Runtime} {s : GestaltGraphState}

/-- A program apart from the stores logs nothing. -/
theorem logs_of_apart {α : Type} {p : Action α} (h : p.Asks Apart) :
    Logs marks s p (fun _ _ log => log = []) fun _ _ log => log = [] := by
  have hlogs : Logs marks s p (fun _ _ log => ∀ mark ∈ log, False)
      fun _ _ log => ∀ mark ∈ log, False :=
    logs_of_asks h fun ev hev mark hmark => by simp [marks_of_apart hev] at hmark
  exact hlogs.mono (fun _ _ _ h => List.eq_nil_iff_forall_not_mem.mpr h)
    fun _ _ _ h => List.eq_nil_iff_forall_not_mem.mpr h

/-- A program that may recall logs what it recalled. -/
theorem logs_of_recalling {α : Type} {p : Action α} (h : p.Asks Recalling) :
    Logs marks s p (fun _ _ log => ∀ mark ∈ log, mark.IsRecall)
      fun _ _ log => ∀ mark ∈ log, mark.IsRecall :=
  logs_of_asks h fun _ hev => isRecall_of_recalling hev

/-- What follows a program apart from the stores logs what the whole logs. -/
theorem logs_apart_bind {α β : Type} {p : Action β} {f : β → Action α}
    {ok : α → GestaltGraphState → List Mark → Prop}
    {err : Exc → GestaltGraphState → List Mark → Prop}
    (hp : p.Asks Apart) (hstop : ∀ e s', err e s' [])
    (hf : ∀ b s', Logs marks s' (f b) ok err) : Logs marks s (p >>= f) ok err := by
  refine logs_bind (logs_of_apart hp) ?_ ?_
  · rintro e s' _ rfl
    exact hstop e s'
  · rintro b s' _ rfl
    exact hf b s'

theorem logs_send {c : Call} :
    Logs marks s (send c) (fun reply _ log => log = marks ⟨.call c, .ok reply⟩)
      fun e _ log => log = marks ⟨.call c, .error e⟩ := by
  have hasked : Logs marks s (query (I := Services) (.call c) : Action _)
      (fun answer _ log => log = marks ⟨.call c, answer⟩) fun _ _ _ => False :=
    logs_query fun _ => rfl
  refine logs_bind hasked (fun _ _ _ h => h.elim) ?_
  rintro answer _ _ rfl
  refine logs_ofExcept ?_ ?_
  · rintro reply rfl
    exact List.append_nil _
  · rintro e rfl
    exact List.append_nil _

/-- A query logs its matches. -/
theorem logs_queryBlackboard {a : AgentName} {query : MinStr 1} {limit : Nat}
    {in_range : decide (1 ≤ limit ∧ limit ≤ 100) = true} :
    Logs marks s (queryBlackboard rt a query limit in_range)
      (fun result _ log => log = result.matching.map .recalled) fun _ _ log => log = [] := by
  unfold queryBlackboard executeAllowed
  split
  · exact logs_send
  · exact logs_raise rfl

/-- The best match is linked, or nothing is. -/
theorem logs_linkLineage {found : List BlackboardMemoryRecord} {target : Uuid} :
    Logs marks s (Knowledge.linkLineage rt found target)
      (fun _ _ log => log = [] ∨ ∃ record ∈ found, ∃ relationId,
        log = [.linked (Knowledge.curatedInto relationId rt.idText record.recordId target)])
      fun _ _ log => log = [] := by
  unfold Knowledge.linkLineage
  split
  · exact logs_pure (Or.inl rfl)
  · next record rest =>
      refine logs_apart_bind asks_uuid4 (fun _ _ => rfl) fun relationId s' => ?_
      refine logs_send.mono ?_ ?_
      · rintro _ _ _ rfl
        exact Or.inr ⟨record, List.mem_cons_self, relationId, rfl⟩
      · rintro _ _ _ rfl
        rfl

/-- **The run of the knowledge agent** up to its artifacts: one memory, and a relation
that leads to it, if any. -/
theorem logs_knowledge {context : AgentContextEnvelope} :
    Logs marks s (Knowledge.produceArtifacts rt context)
      (fun art _ log => ∃ memory, art.memories = [memory] ∧ Leads rt memory log)
      fun _ _ log => ∀ mark ∈ log, mark.IsRecall := by
  refine logs_read_bind ?_
  refine logs_bind logs_queryBlackboard ?_ ?_
  · rintro _ _ _ rfl
    simp
  rintro result s' _ rfl
  have hrecalls : ∀ mark ∈ result.matching.map Mark.recalled, mark.IsRecall := by
    simp [Mark.IsRecall]
  refine logs_apart_bind (asks_completeStructured fun _ => trivial)
    (fun _ _ => by simpa using hrecalls) fun reasoning s' => ?_
  refine logs_apart_bind asks_newMemory (fun _ _ => by simpa using hrecalls) fun memory s' => ?_
  refine logs_bind logs_linkLineage ?_ ?_
  · rintro _ _ _ rfl
    simpa using hrecalls
  intro _ s' links hlinks
  refine logs_pure ⟨memory, rfl, ?_⟩
  rw [List.append_nil]
  rcases hlinks with rfl | ⟨record, hrecord, relationId, rfl⟩
  · constructor <;> simp
  · constructor
    · intro relation hrelation
      obtain rfl : relation = _ := by simpa using hrelation
      exact ⟨record, by simp [hrecord], rfl⟩
    · intro relation hrelation
      obtain rfl : relation = _ := by simpa using hrelation
      exact ⟨rfl, rfl⟩
    · simp

/-- The memory is written once, by the lifecycle. -/
theorem logs_complete {a : AgentName} {startedAt : Int} {messages : List GestaltMessage}
    {art : AgentArtifacts} {memory : BlackboardMemoryRecord} (h : art.memories = [memory]) :
    Logs marks s (complete a startedAt messages art) (fun _ _ log => log = [.stored memory])
      fun _ _ log => log = [.stored memory] ∨ log = [.lost memory] := by
  have hwrite : Logs marks s (forEach (fun memory => send (.writeMemory memory)) art.memories)
      (fun _ _ log => log = [.stored memory]) fun _ _ log => log = [.lost memory] := by
    rw [h]
    refine logs_bind (p := send (.writeMemory memory)) logs_send (fun _ _ _ h => h) ?_
    rintro _ _ _ rfl
    exact logs_pure rfl
  -- without its memories, what is left of the artifacts is apart from the stores
  have hrest : (persistOutputs { art with memories := [] }).Asks Apart :=
    asks_persistOutputs fun _ hmem => absurd hmem List.not_mem_nil
  have hpersist : Logs marks s (persistOutputs art) (fun _ _ log => log = [.stored memory])
      fun _ _ log => log = [.stored memory] ∨ log = [.lost memory] := by
    refine logs_bind hwrite (fun _ _ _ h => Or.inr h) ?_
    rintro _ s' _ rfl
    refine (logs_of_apart hrest).mono ?_ ?_
    · rintro _ _ _ rfl
      rfl
    · rintro _ _ _ rfl
      exact Or.inl rfl
  refine logs_bind hpersist (fun _ _ _ h => h) ?_
  rintro _ s' _ rfl
  have hreport : (buildExecutionReport a art startedAt .completed >>= fun report =>
      read >>= fun state => (pure (applyStateUpdate state (messages ++ art.messages) art report) :
        Action GestaltGraphState)).Asks Apart :=
    asks_bind asks_buildExecutionReport fun _ => asks_read_bind fun _ => asks_pure _
  refine (logs_of_apart hreport).mono ?_ ?_
  · rintro _ _ _ rfl
    rfl
  · rintro _ _ _ rfl
    exact Or.inl rfl

/-- More recalling leads to the same memory. -/
theorem Leads.append {memory : BlackboardMemoryRecord} {recalls log : List Mark}
    (hrecalls : ∀ mark ∈ recalls, mark.IsRecall) (h : Leads rt memory log) :
    Leads rt memory (recalls ++ log) := by
  have hright {mark : Mark} (hmem : mark ∈ recalls ++ log) (hmark : ¬ mark.IsRecall) :
      mark ∈ log :=
    (List.mem_append.mp hmem).resolve_left fun hleft => hmark (hrecalls mark hleft)
  constructor
  · intro relation hrelation
    obtain ⟨record, hrecord, hsource⟩ := h.source relation (hright hrelation id)
    exact ⟨record, List.mem_append_right _ hrecord, hsource⟩
  · intro relation hrelation
    exact h.target relation (hright hrelation id)
  · intro record
    obtain ⟨hstored, hlost⟩ := h.unwritten record
    exact ⟨fun hmem => hstored (hright hmem id), fun hmem => hlost (hright hmem id)⟩

/-- Where all is recalling, nothing is linked. -/
theorem Lineage.of_recalls {log : List Mark} (h : ∀ mark ∈ log, mark.IsRecall) : Lineage rt log :=
  .apart fun _ hrelation => h _ hrelation

/-- **What the knowledge agent does to the stores.** -/
theorem logs_run_knowledge :
    Logs marks s (run rt (agentAt rt .knowledge)) (fun _ _ log => Lineage rt log)
      fun _ _ log => Lineage rt log := by
  refine logs_apart_bind (asks_utcNow _) (fun _ _ => .of_recalls (by simp)) fun startedAt s' => ?_
  refine logs_tryCatch (fun _ _ log => Lineage rt log) ?_ ?_
  · refine logs_bind (logs_of_recalling (asks_prepareContext fun _ => trivial))
      (fun _ _ _ h => .of_recalls h) fun context s' recalls hrecalls => ?_
    have hnone : Lineage rt (recalls ++ []) := .of_recalls (by simpa using hrecalls)
    refine logs_apart_bind asks_runAlignmentChecks (fun _ _ => hnone) fun _ s' => ?_
    refine logs_apart_bind asks_buildInputMessages (fun _ _ => hnone) fun messages s' => ?_
    refine logs_bind logs_knowledge ?_ ?_
    · intro e _ log hlog
      refine .of_recalls fun mark hmark => ?_
      exact (List.mem_append.mp hmark).elim (hrecalls mark) (hlog mark)
    rintro art s' log ⟨memory, hmemory, hleads⟩
    have hleads' := hleads.append hrecalls
    refine (logs_complete hmemory).mono ?_ ?_
    · rintro _ _ _ rfl
      rw [← List.append_assoc]
      exact .kept hleads'
    · intro e _ write hwrite
      rw [← List.append_assoc]
      rcases hwrite with rfl | rfl
      · exact .kept hleads'
      · exact .lost hleads'
  · intro e s' log hlog
    refine (logs_of_apart asks_recover).mono ?_ ?_
    all_goals
      rintro _ _ _ rfl
      rw [List.append_nil]
      exact hlog

end Knowledge

/-- **What an invocation does to the stores**, whatever is answered. -/
theorem lineage_of_run (rt : Runtime) (node : AgentName) (w : Surroundings Services)
    (s : GestaltGraphState) :
    Lineage rt (((run rt (agentAt rt node)).run w s).trace.flatMap marks) := by
  by_cases hnode : node = .knowledge
  · subst hnode
    have hw := @logs_run_knowledge rt s w
    split at hw <;> exact hw
  · refine .apart fun relation hrelation => ?_
    obtain ⟨ev, hev, hmark⟩ := List.mem_flatMap.mp hrelation
    have hunlinked := (unlinked_run hnode).op_of_mem w s ev hev
    obtain ⟨op, answer⟩ := ev
    unfold marks at hmark
    split at hmark <;> simp_all [Unlinked]

/-! ## cycles that share the stores -/

/-- The marks of a step. -/
def Cycle.marks (rt : Runtime) (v : Visit) (c : Cycle) : List Mark :=
  (c.events rt v).flatMap Gestalt.marks

theorem Cycle.lineage (rt : Runtime) (v : Visit) (c : Cycle) : Lineage rt (c.marks rt v) := by
  unfold marks events
  split
  · exact .of_recalls (by simp)
  · exact .of_recalls (by simp)
  · split
    · exact .of_recalls (by simp)
    · exact lineage_of_run rt _ _ _

/-- The surroundings have answered every event of a step. -/
theorem Cycle.answer_of_mem_events {rt : Runtime} {v : Visit} {c : Cycle} {ev : Event Services}
    (h : ev ∈ c.events rt v) : ∃ n, ev = ⟨ev.op, v.answers n ev.op⟩ := by
  unfold events at h
  split at h
  · contradiction
  · contradiction
  · split at h
    · contradiction
    · exact answer_of_mem_trace _ _ _ ev h

/-- Any number of cycles that share a memory table and a graph store. -/
structure SharedStores (ι : Type) where
  cycles : ι → Cycle
  memories : List BlackboardMemoryRecord
  relations : List BlackboardRelation

namespace SharedStores

variable {ι : Type} [DecidableEq ι]

/-- The turn of one cycle.  Without a driver the graph store merges nothing. -/
def step (rt : Runtime) (driver : Bool) (d : SharedStores ι) (turn : ι × Visit) :
    SharedStores ι where
  cycles := Function.update d.cycles turn.1 ((d.cycles turn.1).step rt turn.2)
  memories := d.memories ++ ((d.cycles turn.1).marks rt turn.2).filterMap Mark.stored?
  relations := d.relations ++
    if driver then ((d.cycles turn.1).marks rt turn.2).filterMap Mark.linked? else []

/-- The cycles of the requests and two empty stores, after the turns. -/
def run (rt : Runtime) (driver : Bool) (fresh : ι → Fresh) (request : ι → CycleRequest)
    (turns : List (ι × Visit)) : SharedStores ι :=
  turns.foldl (step rt driver) ⟨fun i => .start (fresh i) (request i), [], []⟩

/-- The text is the identifier of a memory in the table. -/
def Holds (rt : Runtime) (d : SharedStores ι) (id : MinStr 1) : Prop :=
  ∃ record ∈ d.memories, rt.idText record.recordId = id

/-- No relation dangles. -/
def Anchored (rt : Runtime) (d : SharedStores ι) : Prop :=
  ∀ relation ∈ d.relations, relation.relationType.val = "CURATED_INTO" →
    d.Holds rt relation.sourceId ∧ d.Holds rt relation.targetId

/-- The turn recalls memories of the table only. -/
def RecallsHeld (rt : Runtime) (d : SharedStores ι) (turn : ι × Visit) : Prop :=
  ∀ record, .recalled record ∈ (d.cycles turn.1).marks rt turn.2 →
    d.Holds rt (rt.idText record.recordId)

/-- If the turn links memories and loses one, the table has one of that identifier. -/
def KeepsLinked (rt : Runtime) (d : SharedStores ι) (turn : ι × Visit) : Prop :=
  ∀ relation, .linked relation ∈ (d.cycles turn.1).marks rt turn.2 →
    ∀ record, .lost record ∈ (d.cycles turn.1).marks rt turn.2 →
      d.Holds rt (rt.idText record.recordId)

section Turns

variable {rt : Runtime} {driver : Bool} {d : SharedStores ι} {turn : ι × Visit}

omit [DecidableEq ι] in
/-- A table that has grown holds what it held. -/
theorem Holds.append {id : MinStr 1} (h : d.Holds rt id) {d' : SharedStores ι}
    {records : List BlackboardMemoryRecord} (hmemories : d'.memories = d.memories ++ records) :
    d'.Holds rt id := by
  obtain ⟨record, hmem, hid⟩ := h
  refine ⟨record, ?_, hid⟩
  rw [hmemories]
  exact List.mem_append_left _ hmem

/-- Without a driver a turn merges nothing. -/
theorem relations_step_false : (d.step rt false turn).relations = d.relations := by
  simp [step]

theorem mem_relations_step {relation : BlackboardRelation} :
    relation ∈ (d.step rt true turn).relations ↔
      relation ∈ d.relations ∨ .linked relation ∈ (d.cycles turn.1).marks rt turn.2 := by
  have hlinked {mark : Mark} : mark.linked? = some relation ↔ mark = .linked relation := by
    cases mark <;> simp [Mark.linked?]
  simp [step, hlinked]

theorem mem_memories_step {record : BlackboardMemoryRecord} :
    record ∈ (d.step rt driver turn).memories ↔
      record ∈ d.memories ∨ .stored record ∈ (d.cycles turn.1).marks rt turn.2 := by
  have hstored {mark : Mark} : mark.stored? = some record ↔ mark = .stored record := by
    cases mark <;> simp [Mark.stored?]
  simp [step, hstored]

/-- A turn that keeps what it links keeps the relations anchored. -/
theorem KeepsLinked.anchored (hkeeps : d.KeepsLinked rt turn) (h : d.Anchored rt)
    (hrecalls : d.RecallsHeld rt turn) : (d.step rt true turn).Anchored rt := by
  have hold {id : MinStr 1} (hid : d.Holds rt id) : (d.step rt true turn).Holds rt id :=
    hid.append rfl
  intro relation hrelation hkind
  rcases mem_relations_step.mp hrelation with hrelation | hrelation
  · obtain ⟨hsource, htarget⟩ := h relation hrelation hkind
    exact ⟨hold hsource, hold htarget⟩
  -- a relation of this turn leads from a memory that was recalled
  have hlineage := (d.cycles turn.1).lineage rt turn.2
  generalize hmarks : (d.cycles turn.1).marks rt turn.2 = log at hlineage
  rw [hmarks] at hrelation
  cases hlineage with
  | apart hnone => exact absurd hrelation (hnone relation)
  | @kept before memory hleads =>
      have hbefore : .linked relation ∈ before := by simpa using hrelation
      obtain ⟨record, hrecord, hsource⟩ := hleads.source relation hbefore
      obtain ⟨-, htarget⟩ := hleads.target relation hbefore
      rw [hsource, htarget]
      refine ⟨hold (hrecalls record ?_), memory, mem_memories_step.mpr (Or.inr ?_), rfl⟩
      · rw [hmarks]
        exact List.mem_append_left _ hrecord
      · rw [hmarks]
        exact List.mem_append_right _ (List.mem_singleton_self _)
  | @lost before memory hleads =>
      have hbefore : .linked relation ∈ before := by simpa using hrelation
      obtain ⟨record, hrecord, hsource⟩ := hleads.source relation hbefore
      obtain ⟨-, htarget⟩ := hleads.target relation hbefore
      rw [hsource, htarget]
      refine ⟨hold (hrecalls record ?_), hold (hkeeps relation ?_ memory ?_)⟩
      · rw [hmarks]
        exact List.mem_append_left _ hrecord
      · rw [hmarks]
        exact hrelation
      · rw [hmarks]
        exact List.mem_append_right _ (List.mem_singleton_self _)

/-- A turn that leaves the relations anchored has kept what it linked. -/
theorem Anchored.keepsLinked (h : (d.step rt true turn).Anchored rt) : d.KeepsLinked rt turn := by
  intro relation hrelation record hlost
  have hmerged : relation ∈ (d.step rt true turn).relations :=
    mem_relations_step.mpr (Or.inr hrelation)
  have hlineage := (d.cycles turn.1).lineage rt turn.2
  generalize hmarks : (d.cycles turn.1).marks rt turn.2 = log at hlineage
  rw [hmarks] at hrelation hlost
  cases hlineage with
  | apart hnone => exact absurd hrelation (hnone relation)
  | @kept before memory hleads =>
      have hbefore : .lost record ∈ before := by simpa using hlost
      exact absurd hbefore (hleads.unwritten record).2
  | @lost before memory hleads =>
      have hbefore : .linked relation ∈ before := by simpa using hrelation
      obtain ⟨hkind, htarget⟩ := hleads.target relation hbefore
      obtain rfl : record = memory := by
        simpa [(hleads.unwritten record).2] using hlost
      -- nothing was stored in this turn, so the table had it before
      obtain ⟨stored, hstored, hid⟩ := (h relation hmerged hkind).2
      rw [htarget] at hid
      rw [mem_memories_step, hmarks] at hstored
      refine ⟨stored, hstored.resolve_right fun hmem => ?_, hid⟩
      exact (hleads.unwritten stored).1 (by simpa using hmem)

end Turns

section Runs

variable {rt : Runtime} {driver : Bool} {fresh : ι → Fresh} {request : ι → CycleRequest}
variable {turns : List (ι × Visit)}

theorem run_snoc (turn : ι × Visit) :
    run rt driver fresh request (turns ++ [turn]) =
      (run rt driver fresh request turns).step rt driver turn := by
  rw [run, List.foldl_append]
  rfl

theorem anchored_run_nil : (run rt driver fresh request []).Anchored rt := by
  simp [run, Anchored]

/-- Without a driver there are no relations at all. -/
theorem relations_run_false : (run rt false fresh request turns).relations = [] := by
  induction turns using List.reverseRecOn with
  | nil => rfl
  | append_singleton turns turn ih => rw [run_snoc, relations_step_false, ih]

/-- **No relation dangles**, for the cycles, whatever their order and whatever fails, as
long as queries return memories of the table, exactly when there is no graph store, or
every invocation that links memories and cannot write its own finds one of the same
identifier in the table. -/
theorem anchored_iff (rt : Runtime) (driver : Bool) (fresh : ι → Fresh)
    (request : ι → CycleRequest) (turns : List (ι × Visit))
    (hrecalls : ∀ before turn after, turns = before ++ turn :: after →
      (run rt driver fresh request before).RecallsHeld rt turn) :
    (∀ before after, turns = before ++ after →
        (run rt driver fresh request before).Anchored rt) ↔
      driver = false ∨ ∀ before turn after, turns = before ++ turn :: after →
        (run rt driver fresh request before).KeepsLinked rt turn := by
  cases driver with
  | false =>
      have hanchored before : (run rt false fresh request before).Anchored rt := by
        simp [Anchored, relations_run_false]
      simp [hanchored]
  | true =>
      simp only [Bool.true_eq_false, false_or]
      constructor
      · intro hanchored before turn after hturns
        have hnext := hanchored (before ++ [turn]) after (by simp [hturns])
        rw [run_snoc] at hnext
        exact hnext.keepsLinked
      · intro hkeeps before
        induction before using List.reverseRecOn with
        | nil => exact fun _ _ => anchored_run_nil
        | append_singleton before turn ih =>
            intro after hturns
            have hsplit : turns = before ++ turn :: after := by simpa using hturns
            rw [run_snoc]
            exact (hkeeps before turn after hsplit).anchored (ih _ hsplit)
              (hrecalls before turn after hsplit)

end Runs

/-! ## two cycles -/

section Answers

variable {rt : Runtime} {d : SharedStores ι} {turn : ι × Visit}

omit [DecidableEq ι] in
/-- Queries that find memories of the table recall nothing else. -/
theorem recallsHeld_of_answers
    (h : ∀ n query result, turn.2.answers n (.call (.queryMemory query)) = .ok result →
      ∀ record ∈ result.matching, record ∈ d.memories) : d.RecallsHeld rt turn := by
  intro record hrecalled
  obtain ⟨ev, hev, hmark⟩ := List.mem_flatMap.mp hrecalled
  obtain ⟨n, hn⟩ := Cycle.answer_of_mem_events hev
  obtain ⟨query, result, rfl, hmatch⟩ := eq_of_recalled_mem hmark
  obtain ⟨-, hanswer⟩ := Event.mk.inj hn
  exact ⟨record, h n query result (eq_of_heq hanswer).symm record hmatch, rfl⟩

omit [DecidableEq ι] in
/-- Where every memory can be written, none is lost. -/
theorem keepsLinked_of_answers
    (h : ∀ n record e, turn.2.answers n (.call (.writeMemory record)) ≠ .error e) :
    d.KeepsLinked rt turn := by
  intro relation _ record hlost
  obtain ⟨ev, hev, hmark⟩ := List.mem_flatMap.mp hlost
  obtain ⟨n, hn⟩ := Cycle.answer_of_mem_events hev
  obtain ⟨e, rfl⟩ := eq_of_lost_mem hmark
  obtain ⟨-, hanswer⟩ := Event.mk.inj hn
  exact absurd (eq_of_heq hanswer).symm (h n record e)

end Answers

end SharedStores

namespace Reference

/-- A request for the knowledge agent alone. -/
def knowledgeRequest : CycleRequest :=
  { watchRequest with metadata := [("scheduled_agent", .str "knowledge")] }

/-- A visit in which queries find these memories and the calls `failing` names fail. -/
def recalling (found : List BlackboardMemoryRecord) (failing : Call → Bool) : Visit where
  received := ⟨0, 0⟩
  answers _
    | .uuid4 => 1
    | .call (.queryMemory _) => .ok { matching := found }
    | op => answer failing op

/-- A cycle curates a memory, then another one starts. -/
def curated : List (Bool × Visit) := [(false, calm 0), (false, calm 1), (true, calm 2)]

/-- The stores of two cycles after the turns. -/
def stores (turns : List (Bool × Visit)) : SharedStores Bool :=
  .run runtime true (fun _ => fresh) (fun _ => knowledgeRequest) turns

/-- The knowledge agent of the other cycle finds the memories of the table. -/
def curatedAgain (failing : Call → Bool) : List (Bool × Visit) :=
  curated ++ [(true, recalling (stores curated).memories failing)]

/-- Each turn recalls memories of the table only. -/
theorem recallsHeld_curatedAgain (failing : Call → Bool) {before after : List (Bool × Visit)}
    {turn : Bool × Visit} (h : curatedAgain failing = before ++ turn :: after) :
    (stores before).RecallsHeld runtime turn := by
  refine SharedStores.recallsHeld_of_answers fun n query result hanswer => ?_
  obtain ⟨-, rfl, rfl⟩ | ⟨rest, -, hcurated⟩ := Register.place_of_snoc h
  · obtain rfl := Except.ok.inj hanswer
    exact fun _ hmem => hmem
  · -- one of the calm turns, where queries find nothing
    have hcalm : turn ∈ curated := by
      rw [hcurated]
      exact List.mem_append_right _ List.mem_cons_self
    have hvisit : turn.2 = visit fun _ => false := by
      simp only [curated, List.mem_cons, List.not_mem_nil, or_false] at hcalm
      rcases hcalm with rfl | rfl | rfl <;> rfl
    rw [hvisit] at hanswer
    obtain rfl := Except.ok.inj hanswer
    exact fun _ hmem => absurd hmem List.not_mem_nil

end Reference

namespace SharedStores

/-- As long as every memory can be written, the memory of the second cycle is curated
from that of the first and no relation dangles. -/
theorem anchored_iff_curated :
    let stores := Reference.stores (Reference.curatedAgain fun _ => false)
    stores.relations ≠ [] ∧ stores.Anchored Reference.runtime := by
  refine ⟨by decide +kernel, ?_⟩
  refine (anchored_iff Reference.runtime true (fun _ => Reference.fresh)
    (fun _ => Reference.knowledgeRequest) (Reference.curatedAgain fun _ => false)
    fun _ _ _ h => Reference.recallsHeld_curatedAgain _ h).mpr (Or.inr ?_) _ []
    (List.append_nil _).symm
  intro before turn after h
  refine keepsLinked_of_answers fun n record e => ?_
  have hmem : turn ∈ Reference.curatedAgain fun _ => false := by
    rw [h]
    exact List.mem_append_right _ List.mem_cons_self
  simp only [Reference.curatedAgain, Reference.curated, List.cons_append, List.nil_append,
    List.mem_cons, List.not_mem_nil, or_false] at hmem
  rcases hmem with rfl | rfl | rfl | rfl <;> exact fun h => by contradiction

instance (rt : Runtime) (d : SharedStores ι) : Decidable (d.Anchored rt) :=
  inferInstanceAs (Decidable (∀ relation ∈ d.relations,
    relation.relationType.val = "CURATED_INTO" →
      (∃ record ∈ d.memories, rt.idText record.recordId = relation.sourceId) ∧
        ∃ record ∈ d.memories, rt.idText record.recordId = relation.targetId))

/-- When the memory of the second cycle cannot be written, the relation that was merged
for it leads nowhere. -/
theorem relation_dangles :
    let turns := Reference.curatedAgain fun call => match call with
      | .writeMemory _ => true
      | _ => false
    (∀ before turn after, turns = before ++ turn :: after →
        (Reference.stores before).RecallsHeld Reference.runtime turn) ∧
      ¬ (Reference.stores turns).Anchored Reference.runtime := by
  intro turns
  have hdangles : ¬ (Reference.stores turns).Anchored Reference.runtime := by decide +kernel
  exact ⟨fun _ _ _ h => Reference.recallsHeld_curatedAgain _ h, hdangles⟩

end SharedStores

end Gestalt
