import Gestalt.Blackboard
import Gestalt.Protocol.Codec
import Gestalt.Library.Json
import Gestalt.Library.Ranking
import Gestalt.Library.Words

/-!
# Gestalt.Blackboard.Memory

The memory table (`write_memory` and `query_memory` of `gestalt/blackboard.py`).

A record is stored as a row of texts.  A query reads the newest rows back into
records, scores each against the text and the filters, and returns the best.
-/

namespace Gestalt

namespace Blackboard

/-! ## rows -/

/-- What the columns rely on: `UUID` of a text, `json.dumps` and `json.loads`, and
what validation looks at beside the value. -/
structure Columns where
  idOf : String → Except Exc Uuid
  dumps : Value → Except Exc String
  loads : String → Except Exc Value
  context : LoadContext

/-- Durable blackboard memory row. -/
structure MemoryRow where
  recordId : String
  traceId : String
  memoryKind : String
  title : String
  content : String
  tagsJson : String
  embeddingJson : Option String
  metadataJson : String
  createdAt : Int
  deriving DecidableEq

variable (rt : Runtime) (columns : Columns)

/-- `json.dumps(embedding) if embedding is not None else None`. -/
def dumpsOptional : Option (List Rat) → Except Exc (Option String)
  | some embedding => some <$> columns.dumps (Schema.number.list.dump embedding)
  | none => .ok none

/-- The row `write_memory` stores. -/
def MemoryRow.ofRecord (record : BlackboardMemoryRecord) : Except Exc MemoryRow := do
  let tagsJson ← columns.dumps (Schema.text.list.dump record.tags)
  let embeddingJson ← dumpsOptional columns record.embedding
  let metadataJson ← columns.dumps (Schema.values.dump record.metadata)
  return {
    recordId := (rt.idText record.recordId).val
    traceId := (rt.idText record.traceId).val
    memoryKind := record.memoryKind.value
    title := record.title.val
    content := record.content.val
    tagsJson
    embeddingJson
    metadataJson
    createdAt := record.createdAt }

/-- `MemoryKind(value)`. -/
def memoryKindOf (value : String) : Except Exc MemoryKind :=
  match MemoryKind.ofValue value with
  | some memoryKind => .ok memoryKind
  | none => .error (.valueError s!"{rt.repr value} is not a valid MemoryKind")

/-- `json.loads(text or default)`. -/
def loadsOr (text default : String) : Except Exc Value :=
  columns.loads (if text = "" then default else text)

/-- `json.loads(text) if text else None`. -/
def loadsOptional : Option String → Except Exc Value
  | some text => if text = "" then .ok .none else columns.loads text
  | none => .ok .none

/-- `_memory_from_row`. -/
def memoryFromRow (row : MemoryRow) : Except Exc BlackboardMemoryRecord := do
  let recordId ← columns.idOf row.recordId
  let traceId ← columns.idOf row.traceId
  let memoryKind ← memoryKindOf rt row.memoryKind
  let tags ← loadsOr columns row.tagsJson "[]"
  let embedding ← loadsOptional columns row.embeddingJson
  let metadata ← loadsOr columns row.metadataJson "\x7b\x7d"
  (Schema.memoryRecord.load columns.context (.dict
    [("record_id", .uuid recordId), ("trace_id", .uuid traceId),
     ("memory_kind", Schema.memoryKind.dump memoryKind), ("title", .str row.title),
     ("content", .str row.content), ("tags", tags), ("embedding", embedding),
     ("metadata", metadata), ("created_at", .datetime row.createdAt)])).mapError
    (.validationError "BlackboardMemoryRecord")

/-! ## the store -/

/-- What `query_memory` reads: the rows of the memory table, in the order in which
the database scans them, and the relations of an entity in the graph store. -/
structure Store where
  memories : List MemoryRow
  relations : String → Except Exc (List BlackboardRelation)

/-- `write_memory`.  The identifier is the primary key. -/
def writeMemory (store : Store) (record : BlackboardMemoryRecord) : Except Exc Store := do
  let row ← MemoryRow.ofRecord rt columns record
  if row.recordId ∈ store.memories.map MemoryRow.recordId then
    .error (.external "UNIQUE constraint failed: blackboard_memory.record_id")
  else return { store with memories := store.memories ++ [row] }

/-- Calls of `write_memory`, one after the other. -/
def writeMemories (store : Store) (records : List BlackboardMemoryRecord) : Except Exc Store :=
  records.foldlM (writeMemory rt columns) store

/-! ## queries -/

/-- `text.split()`. -/
def tokens (text : String) : List String :=
  (Words.words isSpace text.toList).map String.ofList

/-- The text a record is searched by. -/
def haystack (record : BlackboardMemoryRecord) : String :=
  rt.lower (" ".intercalate [record.title.val, record.content.val, " ".intercalate record.tags])

/-- `record.metadata.get(key) == expected`. -/
def satisfies (record : BlackboardMemoryRecord) (item : String × Value) : Bool :=
  ((record.metadata.get? item.1).getD .none).equals item.2

/-- `_score_memory`.  The score is a whole number. -/
def scoreMemory (record : BlackboardMemoryRecord) (normalizedQuery : String)
    (filters : Dict Value) : Nat :=
  2 * (tokens normalizedQuery).countP (fun token => occursIn token (haystack rt record)) +
    (if occursIn normalizedQuery (haystack rt record) then 5 else 0) +
    filters.countP (satisfies record)

/-- The records `query_memory` returns out of the candidates. -/
def bestMatches (query : BlackboardQuery) (candidates : List BlackboardMemoryRecord) :
    List BlackboardMemoryRecord :=
  let score := fun record => scoreMemory rt record (rt.lower query.query.val) query.filters
  let scored := Ranking.rank score candidates
  (scored.filter fun record => 0 < score record).take query.limit

/-- The relations of the first match. -/
def relationsOf (store : Store) : List BlackboardMemoryRecord → Except Exc (List BlackboardRelation)
  | [] => .ok []
  | best :: _ => store.relations (rt.idText best.recordId).val

/-- `query_memory`, started and finished at these instants. -/
def queryMemory (store : Store) (query : BlackboardQuery) (started finished : Int) :
    Except Exc BlackboardQueryResult := do
  let rows := mostRecent MemoryRow.createdAt (query.limit * 3) store.memories
  let candidates ← rows.mapM (memoryFromRow rt columns)
  let matching := bestMatches rt query candidates
  let _relations ← relationsOf rt store matching
  let _latencyMs ← validate "BlackboardQueryResult" "latency_ms"
    "Input should be greater than or equal to 0"
    (NonNegFloat.check? (((finished - started : Int) : Rat) / 1000))
  return { matching }

/-! ## reading back -/

/-- `json.loads` undoes `json.dumps` on the value. -/
def Columns.Keeps (value : Value) : Prop :=
  ∃ text, columns.dumps value = .ok text ∧ text ≠ "" ∧ columns.loads text = .ok value

/-- The identifiers and the JSON columns of the record can be read back. -/
structure ReadsBack (record : BlackboardMemoryRecord) : Prop where
  recordId : columns.idOf (rt.idText record.recordId).val = .ok record.recordId
  traceId : columns.idOf (rt.idText record.traceId).val = .ok record.traceId
  tags : columns.Keeps (Schema.text.list.dump record.tags)
  embedding : ∀ embedding ∈ record.embedding,
    columns.Keeps (Schema.number.list.dump embedding)
  metadata : columns.Keeps (Schema.values.dump record.metadata)

/-- The row stores the record. -/
structure Stores (record : BlackboardMemoryRecord) (row : MemoryRow) : Prop where
  written : MemoryRow.ofRecord rt columns record = .ok row
  read : memoryFromRow rt columns row = .ok record

variable {rt columns}

theorem memoryKindOf_value (memoryKind : MemoryKind) :
    memoryKindOf rt memoryKind.value = .ok memoryKind := by
  cases memoryKind <;> rfl

theorem loadsOr_of_ne {text default : String} (h : text ≠ "") :
    loadsOr columns text default = columns.loads text := by
  rw [loadsOr, if_neg h]

/-- What is stored beside the JSON columns. -/
theorem MemoryRow.of_ofRecord {record : BlackboardMemoryRecord} {row : MemoryRow}
    (h : MemoryRow.ofRecord rt columns record = .ok row) :
    row.recordId = (rt.idText record.recordId).val ∧ row.createdAt = record.createdAt := by
  obtain ⟨tagsJson, -, h⟩ := Codec.exists_of_bind_eq_ok h
  obtain ⟨embeddingJson, -, h⟩ := Codec.exists_of_bind_eq_ok h
  obtain ⟨metadataJson, -, h⟩ := Codec.exists_of_bind_eq_ok h
  cases h
  exact ⟨rfl, rfl⟩

/-- A record whose columns read back is read back whole. -/
theorem ReadsBack.stores {record : BlackboardMemoryRecord} (h : ReadsBack rt columns record) :
    ∃ row, Stores rt columns record row := by
  obtain ⟨tagsJson, htags, htags0, htags'⟩ := h.tags
  obtain ⟨metadataJson, hmeta, hmeta0, hmeta'⟩ := h.metadata
  -- no embedding is stored as no text, and any list, the empty one included, as its JSON
  have hembedding : ∃ embeddingJson,
      dumpsOptional columns record.embedding = .ok embeddingJson ∧
      loadsOptional columns embeddingJson =
        .ok (Schema.number.list.option.dump record.embedding) := by
    cases hrecord : record.embedding with
    | none => exact ⟨none, rfl, rfl⟩
    | some embedding =>
        obtain ⟨text, hdump, htext0, hload⟩ := h.embedding embedding hrecord
        refine ⟨some text, by rw [dumpsOptional, hdump]; rfl, ?_⟩
        rw [loadsOptional, if_neg htext0, hload]
        rfl
  obtain ⟨embeddingJson, hembed, hembed'⟩ := hembedding
  refine ⟨{
    recordId := (rt.idText record.recordId).val
    traceId := (rt.idText record.traceId).val
    memoryKind := record.memoryKind.value
    title := record.title.val
    content := record.content.val
    tagsJson
    embeddingJson
    metadataJson
    createdAt := record.createdAt }, ?_, ?_⟩
  · rw [MemoryRow.ofRecord, htags, hembed, hmeta]
    rfl
  · have hload := Codec.load_dump Schema.memoryRecord columns.context record
    simp only [memoryFromRow, h.recordId, h.traceId, memoryKindOf_value, loadsOr_of_ne htags0,
      htags', hembed', loadsOr_of_ne hmeta0, hmeta']
    exact congrArg (Except.mapError _) hload

/-! ## JSON columns -/

/-- `json.dumps(value)`. -/
def jsonDumps (floats : Json.Floats) (value : Value) : Except Exc String :=
  match Json.dumps floats value with
  | some text => .ok text
  | none => .error (.typeError "Object is not JSON serializable")

/-- `json.loads(text)`. -/
def jsonLoads (floats : Json.Floats) (text : String) : Except Exc Value :=
  match Json.loads floats text with
  | some value => .ok value
  | none => .error (.valueError "Expecting value")

/-- JSON data is read back from its text. -/
theorem exists_jsonDumps {floats : Json.Floats} {value : Value} (h : Json.IsJson floats value) :
    ∃ text, jsonDumps floats value = .ok text ∧ text ≠ "" ∧
      jsonLoads floats text = .ok value := by
  obtain ⟨text, hdumps, hne, hloads⟩ := Json.loads_dumps h
  exact ⟨text, by rw [jsonDumps, hdumps], hne, by rw [jsonLoads, hloads]⟩

/-- Columns that are written as JSON. -/
def Columns.ofJson (floats : Json.Floats) (idOf : String → Except Exc Uuid)
    (context : LoadContext) : Columns where
  idOf
  dumps := jsonDumps floats
  loads := jsonLoads floats
  context

/-- **JSON columns keep JSON data.** -/
theorem Columns.keeps_ofJson {floats : Json.Floats} {idOf : String → Except Exc Uuid}
    {context : LoadContext} {value : Value} (h : Json.IsJson floats value) :
    (Columns.ofJson floats idOf context).Keeps value :=
  exists_jsonDumps h

end Blackboard

end Gestalt
