import Gestalt.Blackboard.Recall
import Gestalt.Blackboard.Reference
import Gestalt.Graph.Grammar
import Gestalt.Graph.Identity
import Gestalt.Graph.Lineage
import Gestalt.Graph.Replies

/-!
# Gestalt.Graph.Recollection

Cycles that recall what cycles noted.

Elsewhere a query may find anything.  Here its answer is computed from a memory
table that holds notes of the cycles, whichever of them were there at the time, in
whatever order they are scanned.  Every note can be written, whatever its agent
puts in it, and what is recalled is a note as its agent left it.
-/

namespace Gestalt

open Effects Program Blackboard

/-! ## notes in columns -/

/-- The texts of the identifiers are read back, and the numbers are floats of the
format. -/
structure Legible (rt : Runtime) (floats : Json.Floats) (idOf : String → Except Exc Uuid)
    (record : BlackboardMemoryRecord) : Prop where
  recordId : idOf (rt.idText record.recordId).val = .ok record.recordId
  traceId : idOf (rt.idText record.traceId).val = .ok record.traceId
  numbers : ∀ q, .float q ∈ record.metadata.map Prod.snd → floats.IsFloat q

section Columns

variable {rt : Runtime} {floats : Json.Floats} {idOf : String → Except Exc Uuid}
variable {context : LoadContext} {a : AgentName} {metadata : Dict Value}

theorem isJson_texts (texts : List String) : Json.IsJson floats (.list (texts.map .str)) := by
  refine .list fun value hmem => ?_
  obtain ⟨text, -, rfl⟩ := List.mem_map.mp hmem
  exact .str text

/-- What an agent puts in the metadata is JSON data. -/
theorem Annotates.isJson (h : Annotates a metadata)
    (hnumbers : ∀ q, .float q ∈ metadata.map Prod.snd → floats.IsFloat q) :
    Json.IsJson floats (.dict metadata) := by
  have hvalues : ∀ kv ∈ metadata, Json.IsJson floats kv.2 := by
    cases h with
    | monitor queueDepth p95LatencyMs errorRate =>
        have hlatency := hnumbers p95LatencyMs (by simp)
        have hratio := hnumbers errorRate (by simp)
        simpa using ⟨.int queueDepth, .float hlatency, .float hratio⟩
    | analyzer matchedRecords => simpa using Json.IsJson.int matchedRecords
    | plannerExecutor returnCode stdout stderr =>
        simpa using ⟨.int returnCode, .str stdout, .str stderr⟩
    | optimizer historicalMatches => simpa using Json.IsJson.int historicalMatches
    | knowledge sourceTitles => simpa using isJson_texts sourceTitles
    | securityAudit findingCount relatedMemories =>
        simpa using ⟨.int findingCount, .int relatedMemories⟩
  refine .dict ?_ hvalues
  cases h <;> simp

/-- **A note is read back whole.** -/
theorem NotedBy.readsBack {text : String} {record : BlackboardMemoryRecord}
    (h : NotedBy a text record) (hlegible : Legible rt floats idOf record) :
    ReadsBack rt (.ofJson floats idOf context) record where
  recordId := hlegible.recordId
  traceId := hlegible.traceId
  tags := Columns.keeps_ofJson (isJson_texts record.tags)
  embedding embedding hmem := by simp [h.embedding] at hmem
  metadata := by
    have hjson := h.metadata.isJson hlegible.numbers
    have hdump : Schema.values.dump record.metadata = .dict record.metadata := by
      simp [Schema.values, Codec.dict, Codec.any]
    rw [hdump]
    exact Columns.keeps_ofJson hjson

end Columns

/-! ## what is recalled -/

/-- An answer of `query_memory`, of a table to which some of the records were
written. -/
def RecalledFrom (rt : Runtime) (columns : Columns) (records : List BlackboardMemoryRecord)
    (query : BlackboardQuery) (result : BlackboardQueryResult) : Prop :=
  ∃ written relations store scan started finished,
    written.Subperm records ∧
    writeMemories rt columns ⟨[], relations⟩ written = .ok store ∧
    scan.Perm store.memories ∧
    queryMemory rt columns { store with memories := scan } query started finished = .ok result

/-- What the query finds: no more than it asks for, nothing twice, nothing that is
not worth it, and only records of these. -/
structure Finds (rt : Runtime) (records : List BlackboardMemoryRecord) (query : BlackboardQuery)
    (found : List BlackboardMemoryRecord) : Prop where
  limit : found.length ≤ query.limit
  nodup : found.Nodup
  worth : ∀ record ∈ found, 0 < scoreMemory rt record (rt.lower query.query.val) query.filters
  written : ∀ record ∈ found, record ∈ records

section Recalls

variable {rt : Runtime} {columns : Columns} {records : List BlackboardMemoryRecord}

/-- Where every record reads back, a query finds records as they were written. -/
theorem RecalledFrom.finds {query : BlackboardQuery} {result : BlackboardQueryResult}
    (h : RecalledFrom rt columns records query result)
    (hids : (records.map BlackboardMemoryRecord.recordId).Nodup)
    (hreads : ∀ record ∈ records, ReadsBack rt columns record) :
    Finds rt records query result.matching := by
  obtain ⟨written, relations, store, scan, started, finished, hsub, hwrite, hscan, hresult⟩ := h
  have hids' : (written.map BlackboardMemoryRecord.recordId).Nodup := by
    obtain ⟨kept, hperm, hkept⟩ := hsub
    exact (hperm.map _).nodup_iff.mp (hids.sublist (hkept.map _))
  obtain ⟨scanned, hperm, hnodup, hstores⟩ := scanned_of_written hids'
    (fun record hmem => hreads record (hsub.subset hmem)) hwrite hscan
  have hwindow := mapM_memoryFromRow (forall₂_mostRecent hstores (query.limit * 3))
  have hmatching := matching_of_queryMemory { store with memories := scan } hwindow hresult
  rw [bestMatches_eq_top] at hmatching
  rw [hmatching]
  have htop := Ranking.isTop_top
    (fun record => scoreMemory rt record (rt.lower query.query.val) query.filters) 0 query.limit
    (mostRecent BlackboardMemoryRecord.createdAt (query.limit * 3) scanned)
  constructor
  · rw [Ranking.top]
    exact List.length_take_le _ _
  · exact htop.nodup
      (((Ranking.rank_perm ..).nodup_iff.mpr hnodup).sublist (List.take_sublist ..))
  · exact fun record hmem => (Ranking.of_mem_top hmem).2
  · intro record hmem
    have hscanned := mem_of_mem_mostRecent (Ranking.of_mem_top hmem).1
    exact hsub.subset (hperm.subset hscanned)

end Recalls

namespace SharedBoard

variable {ι : Type} [DecidableEq ι] {rt : Runtime} {fresh : ι → Fresh}
variable {request : ι → CycleRequest} {turns : List (ι × Visit)}

/-- The records in the memory table. -/
def notes (d : SharedBoard ι) : List BlackboardMemoryRecord := (Tables.of d.rows).memories

omit [DecidableEq ι] in
theorem mem_notes {d : SharedBoard ι} {record : BlackboardMemoryRecord} :
    record ∈ d.notes ↔ .memory record ∈ d.rows := by
  simp only [notes, Tables.of, List.mem_filterMap]
  constructor
  · rintro ⟨row, hrow, hrecord⟩
    cases row <;> simp_all
  · exact fun h => ⟨_, h, rfl⟩

omit [DecidableEq ι] in
/-- The identifiers of the records are keys of rows. -/
theorem recordIds_sublist (d : SharedBoard ι) :
    (d.notes.map BlackboardMemoryRecord.recordId).Sublist (d.rows.map Row.key) := by
  rw [notes, Tables.of]
  induction d.rows with
  | nil => exact .slnil
  | cons row rows ih =>
      cases row with
      | memory record => exact ih.cons_cons _
      | _ => exact ih.cons _

/-- What the cycles recall they recall from what they noted. -/
def Remembers (rt : Runtime) (columns : Columns) (fresh : ι → Fresh) (request : ι → CycleRequest)
    (turns : List (ι × Visit)) : Prop :=
  ∀ before i v after, turns = before ++ (i, v) :: after → ∀ query result,
    ⟨.call (.queryMemory query), .ok result⟩ ∈
      ((run rt fresh request before).cycles i).events rt v →
    RecalledFrom rt columns (run rt fresh request turns).notes query result

/-- Every row carries the trace id of a cycle. -/
theorem traced_run (rt : Runtime) (fresh : ι → Fresh) (request : ι → CycleRequest)
    (turns : List (ι × Visit)) :
    ∀ row ∈ (run rt fresh request turns).rows, ∃ i, row.traceId = (fresh i).traceId := by
  intro row hmem
  obtain ⟨before, i, v, after, -, hrow⟩ := exists_turn_of_mem_rows hmem
  have hsound := (sound_run rt fresh request before).cycles i
  refine ⟨i, ?_⟩
  rw [(Cycle.stored_step hsound.inRange rt v).1 row hrow]
  exact hsound.same.traceId

/-- **The memory of the cycles.**  Among any number of cycles that share a memory
table, in whatever order they take their turns and whatever fails: as long as
`uuid4` repeats no identifier, every note can be written and is read back as it
was, and wherever queries are answered from the notes, each finds notes that
agents of the cycles left in their forms. -/
theorem recollection_run (rt : Runtime) (floats : Json.Floats)
    (idOf : String → Except Exc Uuid) (context : LoadContext) (fresh : ι → Fresh)
    (request : ι → CycleRequest) (turns : List (ι × Visit))
    (hdraws : ((draws rt ⟨fun i => .start (fresh i) (request i), [], []⟩ turns).map
      Prod.snd).Nodup)
    (hlegible : ∀ record ∈ (run rt fresh request turns).notes, Legible rt floats idOf record)
    (hremembers : Remembers rt (.ofJson floats idOf context) fresh request turns) :
    let notes := (run rt fresh request turns).notes
    let columns := Columns.ofJson floats idOf context
    (∀ relations, ∃ store, writeMemories rt columns ⟨[], relations⟩ notes = .ok store ∧
      store.memories.mapM (memoryFromRow rt columns) = .ok notes) ∧
    (∀ before i v after, turns = before ++ (i, v) :: after → ∀ query result,
      ⟨.call (.queryMemory query), .ok result⟩ ∈
        ((run rt fresh request before).cycles i).events rt v →
      Finds rt notes query result.matching) ∧
    ∀ record ∈ notes, (∃ a, NotedBy a record.content.val record) ∧
      ∃ i, record.traceId = (fresh i).traceId := by
  intro notes columns
  have hnoted : ∀ record ∈ notes, ∃ a, NotedBy a record.content.val record :=
    fun record hmem => writtenBy_run rt fresh request turns _ (mem_notes.mp hmem)
  have hids : (notes.map BlackboardMemoryRecord.recordId).Nodup :=
    (keys_nodup_run hdraws).sublist (recordIds_sublist _)
  have hreads : ∀ record ∈ notes, ReadsBack rt columns record := by
    intro record hmem
    obtain ⟨a, hnote⟩ := hnoted record hmem
    exact hnote.readsBack (hlegible record hmem)
  refine ⟨fun relations => ?_, ?_, fun record hmem => ⟨hnoted record hmem, ?_⟩⟩
  · obtain ⟨rows, hwrite, hstores⟩ := writeMemories_stores ⟨[], relations⟩ notes .nil hids hreads
    exact ⟨⟨rows, relations⟩, hwrite, mapM_memoryFromRow hstores⟩
  · intro before i v after hturns query result hev
    exact (hremembers before i v after hturns query result hev).finds hids hreads
  · exact traced_run rt fresh request turns _ (mem_notes.mp hmem)

/-! ## a cycle that recalls what another noted -/

/-- Surroundings that answer queries from the notes. -/
theorem remembers_of_answers {columns : Columns}
    (h : ∀ turn ∈ turns, ∀ n query result,
      turn.2.answers n (.call (.queryMemory query)) = .ok result →
      RecalledFrom rt columns (run rt fresh request turns).notes query result) :
    Remembers rt columns fresh request turns := by
  intro before i v after hturns query result hev
  obtain ⟨n, hn⟩ := Cycle.answer_of_mem_events hev
  obtain ⟨-, hanswer⟩ := Event.mk.inj hn
  exact h (i, v) (by simp [hturns]) n query result (eq_of_heq hanswer).symm

/-- Notes stay. -/
theorem notes_sublist (rt : Runtime) (fresh : ι → Fresh) (request : ι → CycleRequest)
    (turns : List (ι × Visit)) (turn : ι × Visit) :
    (run rt fresh request turns).notes.Sublist (run rt fresh request (turns ++ [turn])).notes := by
  rw [run_snoc]
  exact (List.sublist_append_left ..).filterMap _

end SharedBoard

namespace Reference

/-- A runtime with a model provider that leaves texts in their case. -/
def plainRuntime : Runtime := { providerRuntime with lower := id }

/-- The number in the text of an identifier. -/
def idOf (text : String) : Except Exc Uuid := .ok (Nat.ofDigitChars 10 (text.toList.drop 2) 0)

/-- JSON columns. -/
def columns : Columns := .ofJson wholeFloats idOf ⟨0, 0⟩

/-- A calm visit that hands out the numbers from `first` on, and answers queries from
the notes. -/
def remembering (first : Nat) (notes : List BlackboardMemoryRecord) : Visit where
  received := ⟨0, 0⟩
  answers n
    | .uuid4 => first + n
    | .call (.queryMemory query) => do
        let store ← writeMemories plainRuntime columns ⟨[], unrelated⟩ notes
        queryMemory plainRuntime columns store query 0 0
    | op => answer (fun _ => false) op

/-- A request for the knowledge agent, whose objective brings its notes to mind. -/
def curateRequest : CycleRequest where
  objective := .text "Curated"
  metadata := [("scheduled_agent", .str "knowledge")]

/-- A cycle curates a note. -/
def noted : List (Bool × Visit) := [(false, remembering 100 []), (false, remembering 200 [])]

/-- What is noted by then. -/
def notes : List BlackboardMemoryRecord :=
  (SharedBoard.run plainRuntime freshPair (fun _ => curateRequest) noted).notes

/-- Another cycle starts. -/
def recalled : List (Bool × Visit) := noted ++ [(true, remembering 300 notes)]

/-- The notes are legible, and have no numbers in them. -/
theorem legible_recalled :
    ∀ record ∈ (SharedBoard.run plainRuntime freshPair (fun _ => curateRequest) recalled).notes,
      Legible plainRuntime wholeFloats idOf record := by
  have hread : ((SharedBoard.run plainRuntime freshPair (fun _ => curateRequest) recalled).notes.all
      fun record => decide (Nat.ofDigitChars 10
          ((plainRuntime.idText record.recordId).val.toList.drop 2) 0 = record.recordId) &&
        decide (Nat.ofDigitChars 10
          ((plainRuntime.idText record.traceId).val.toList.drop 2) 0 = record.traceId) &&
        record.metadata.all fun kv => match kv.2 with | .float _ => false | _ => true) = true := by
    decide +kernel
  intro record hmem
  have hrecord := List.all_eq_true.mp hread record hmem
  simp only [Bool.and_eq_true, decide_eq_true_eq] at hrecord
  obtain ⟨⟨hrecordId, htraceId⟩, hmetadata⟩ := hrecord
  refine ⟨congrArg Except.ok hrecordId, congrArg Except.ok htraceId, fun q hq => ?_⟩
  obtain ⟨kv, hkv, hvalue⟩ := List.mem_map.mp hq
  have hnone := List.all_eq_true.mp hmetadata kv hkv
  simp [hvalue] at hnone

/-- A query is answered with some memory. -/
def finds : Event Services → Bool
  | ⟨.call (.queryMemory _), .ok result⟩ => !result.matching.isEmpty
  | _ => false

/-- Queries are answered from what was noted. -/
theorem remembers_recalled :
    SharedBoard.Remembers plainRuntime columns freshPair (fun _ => curateRequest) recalled := by
  refine SharedBoard.remembers_of_answers fun turn hturn n query result hanswer => ?_
  have hfrom : ∀ first known, turn.2 = remembering first known →
      known.Sublist
        (SharedBoard.run plainRuntime freshPair (fun _ => curateRequest) recalled).notes →
      RecalledFrom plainRuntime columns
        (SharedBoard.run plainRuntime freshPair (fun _ => curateRequest) recalled).notes query
        result := by
    intro first known hvisit hknown
    rw [hvisit] at hanswer
    obtain ⟨store, hwrite, hresult⟩ := Codec.exists_of_bind_eq_ok hanswer
    exact ⟨known, unrelated, store, store.memories, 0, 0, hknown.subperm, hwrite, .refl _, hresult⟩
  rcases List.mem_append.mp hturn with hturn | hturn
  · simp only [noted, List.mem_cons, List.not_mem_nil, or_false] at hturn
    rcases hturn with rfl | rfl
    · exact hfrom 100 [] rfl (List.nil_sublist _)
    · exact hfrom 200 [] rfl (List.nil_sublist _)
  · obtain rfl := List.mem_singleton.mp hturn
    exact hfrom 300 notes rfl (SharedBoard.notes_sublist ..)

end Reference

/-- The orchestrator of the other cycle finds the note. -/
theorem SharedBoard.recollection_run_curated :
    ∃ query result, ⟨.call (.queryMemory query), .ok result⟩ ∈
      ((run Reference.plainRuntime Reference.freshPair (fun _ => Reference.curateRequest)
        Reference.noted).cycles true).events Reference.plainRuntime
          (Reference.remembering 300 Reference.notes) ∧
      result.matching ≠ [] ∧
      Finds Reference.plainRuntime (run Reference.plainRuntime Reference.freshPair
        (fun _ => Reference.curateRequest) Reference.recalled).notes query result.matching := by
  have hfound : ((((run Reference.plainRuntime Reference.freshPair
      (fun _ => Reference.curateRequest) Reference.noted).cycles true).events Reference.plainRuntime
        (Reference.remembering 300 Reference.notes)).any Reference.finds) = true := by
    decide +kernel
  obtain ⟨ev, hev, hmatching⟩ := List.any_eq_true.mp hfound
  unfold Reference.finds at hmatching
  split at hmatching
  · next query result =>
      have hfinds := (recollection_run Reference.plainRuntime Reference.wholeFloats Reference.idOf
        ⟨0, 0⟩ Reference.freshPair (fun _ => Reference.curateRequest) Reference.recalled
        (by decide +kernel) Reference.legible_recalled Reference.remembers_recalled).2.1
      refine ⟨query, result, hev, by simpa using hmatching, ?_⟩
      exact hfinds Reference.noted true _ [] rfl query result hev
  · contradiction

end Gestalt
