import Gestalt.Blackboard.Reference
import Mathlib.Tactic.Positivity

/-!
# Gestalt.Blackboard.Recall

What a query returns of the records that were written.

The rows are the records in another form, so a query ranks the newest records,
whichever order the database scans the rows in.  Only the newest
`3 * limit` of them are candidates: later writes may push a record out of this
window, however little they have to do with the query.
-/

namespace Gestalt

namespace Blackboard

open Ranking (IsTop)

variable {rt : Runtime} {columns : Columns}

/-! ## what is written -/

theorem Stores.createdAt_eq {record : BlackboardMemoryRecord} {row : MemoryRow}
    (h : Stores rt columns record row) : record.createdAt = row.createdAt :=
  (MemoryRow.of_ofRecord h.written).2.symm

/-- Different identifiers have different texts. -/
theorem ReadsBack.recordId_inj {record other : BlackboardMemoryRecord}
    (h : ReadsBack rt columns record) (h' : ReadsBack rt columns other)
    (hid : (rt.idText record.recordId).val = (rt.idText other.recordId).val) :
    record.recordId = other.recordId := by
  have hread := h.recordId
  rw [hid, h'.recordId] at hread
  exact (Except.ok.inj hread).symm

/-- What stands in the second of two related lists has a partner in the first. -/
theorem exists_partner {α β : Type} {R : α → β → Prop} {as : List α} {bs : List β}
    (h : List.Forall₂ R as bs) {b : β} (hb : b ∈ bs) : ∃ a ∈ as, R a b := by
  induction h with
  | nil => contradiction
  | cons hrel _ ih =>
      rcases List.mem_cons.mp hb with rfl | hb
      · exact ⟨_, List.mem_cons_self .., hrel⟩
      · obtain ⟨a, hmem, hrel⟩ := ih hb
        exact ⟨a, List.mem_cons_of_mem _ hmem, hrel⟩

/-- A record under a new key goes to the end of the table. -/
theorem writeMemory_stores {store : Store} {record : BlackboardMemoryRecord} {row : MemoryRow}
    (hstores : Stores rt columns record row)
    (hfresh : row.recordId ∉ store.memories.map MemoryRow.recordId) :
    writeMemory rt columns store record =
      .ok { store with memories := store.memories ++ [row] } := by
  rw [writeMemory, hstores.written]
  exact if_neg hfresh

/-- Records with different identifiers are all stored, in the order written. -/
theorem writeMemories_stores (store : Store) {earlier : List BlackboardMemoryRecord}
    (records : List BlackboardMemoryRecord)
    (hearlier : List.Forall₂ (Stores rt columns) earlier store.memories)
    (hids : ((earlier ++ records).map BlackboardMemoryRecord.recordId).Nodup)
    (hreads : ∀ record ∈ earlier ++ records, ReadsBack rt columns record) :
    ∃ rows, writeMemories rt columns store records =
        .ok { store with memories := store.memories ++ rows } ∧
      List.Forall₂ (Stores rt columns) records rows := by
  induction records generalizing store earlier with
  | nil => exact ⟨[], by rw [List.append_nil]; rfl, .nil⟩
  | cons record records ih =>
      obtain ⟨row, hstores⟩ := (hreads record (by simp)).stores
      have hfresh : row.recordId ∉ store.memories.map MemoryRow.recordId := by
        intro hmem
        obtain ⟨row', hmem', hid⟩ := List.mem_map.mp hmem
        obtain ⟨other, hother, hstores'⟩ := exists_partner hearlier hmem'
        rw [(MemoryRow.of_ofRecord hstores.written).1,
          (MemoryRow.of_ofRecord hstores'.written).1] at hid
        have heq := (hreads other (List.mem_append_left _ hother)).recordId_inj
          (hreads record (by simp)) hid
        rw [List.map_append, List.nodup_append'] at hids
        exact hids.2.2 (List.mem_map_of_mem hother) (by simp [heq])
      have hearlier' : List.Forall₂ (Stores rt columns) (earlier ++ [record])
          (store.memories ++ [row]) := List.rel_append hearlier (.cons hstores .nil)
      obtain ⟨rows, hwrite, hrows⟩ := ih { store with memories := _ } hearlier'
        (by simpa using hids) (by simpa using hreads)
      refine ⟨row :: rows, ?_, .cons hstores hrows⟩
      rw [List.append_assoc] at hwrite
      rw [writeMemories, List.foldlM_cons, writeMemory_stores hstores hfresh]
      exact hwrite

/-! ## what is scanned -/

/-- Rows scanned in another order store the records in another order. -/
theorem exists_scanned {records : List BlackboardMemoryRecord} {rows scan : List MemoryRow}
    (hrows : List.Forall₂ (Stores rt columns) records rows) (hscan : scan.Perm rows) :
    ∃ scanned, scanned.Perm records ∧ List.Forall₂ (Stores rt columns) scanned scan := by
  obtain ⟨scanned, hstores, hperm⟩ := List.perm_comp_forall₂ hscan hrows.flip
  exact ⟨scanned, hperm, hstores.flip⟩

/-- The newest rows store the newest records. -/
theorem forall₂_mostRecent {scanned : List BlackboardMemoryRecord} {scan : List MemoryRow}
    (h : List.Forall₂ (Stores rt columns) scanned scan) (n : Nat) :
    List.Forall₂ (Stores rt columns) (mostRecent BlackboardMemoryRecord.createdAt n scanned)
      (mostRecent MemoryRow.createdAt n scan) :=
  List.forall₂_take n (Ranking.forall₂_rank (fun _ _ hstores => hstores.createdAt_eq) h)

/-- Rows that store records are read back as these. -/
theorem mapM_memoryFromRow {window : List BlackboardMemoryRecord} {rows : List MemoryRow}
    (h : List.Forall₂ (Stores rt columns) window rows) :
    rows.mapM (memoryFromRow rt columns) = .ok window := by
  induction h with
  | nil => rfl
  | cons hrow _ ih =>
      rw [List.mapM_cons, hrow.read, ih]
      rfl

/-- Of a table written in the order of time the newest come in reverse. -/
theorem mostRecent_eq_reverse {α : Type} {createdAt : α → Int} {table : List α}
    (h : table.Pairwise fun a b => createdAt a < createdAt b) (limit : Nat) :
    mostRecent createdAt limit table = table.reverse.take limit :=
  congrArg (List.take limit) (Ranking.rank_eq_reverse h)

theorem mostRecent_singleton {α : Type} (createdAt : α → Int) (limit : Nat) (row : α) :
    mostRecent createdAt limit [row] = [row].take limit :=
  mostRecent_eq_reverse (List.pairwise_singleton ..) limit

/-! ## what is returned -/

theorem bestMatches_eq_top (query : BlackboardQuery) (candidates : List BlackboardMemoryRecord) :
    bestMatches rt query candidates = Ranking.top
      (fun record => scoreMemory rt record (rt.lower query.query.val) query.filters) 0
      query.limit candidates := rfl

/-- A query that returns has the best matches of its window. -/
theorem matching_of_queryMemory (store : Store) {query : BlackboardQuery} {started finished : Int}
    {result : BlackboardQueryResult} {window : List BlackboardMemoryRecord}
    (hwindow : (mostRecent MemoryRow.createdAt (query.limit * 3) store.memories).mapM
      (memoryFromRow rt columns) = .ok window)
    (h : queryMemory rt columns store query started finished = .ok result) :
    result.matching = bestMatches rt query window := by
  obtain ⟨candidates, hcandidates, h⟩ := Codec.exists_of_bind_eq_ok h
  obtain rfl : candidates = window := Except.ok.inj (hcandidates.symm.trans hwindow)
  obtain ⟨relations, -, h⟩ := Codec.exists_of_bind_eq_ok h
  obtain ⟨latencyMs, -, h⟩ := Codec.exists_of_bind_eq_ok h
  cases h
  rfl

/-- A query returns when the graph store answers and the clock does not step back. -/
theorem queryMemory_returns (store : Store) (query : BlackboardQuery) {started finished : Int}
    {window : List BlackboardMemoryRecord}
    (hwindow : (mostRecent MemoryRow.createdAt (query.limit * 3) store.memories).mapM
      (memoryFromRow rt columns) = .ok window)
    (hrelations : ∀ id, ∃ relations, store.relations id = .ok relations)
    (htime : started ≤ finished) :
    ∃ result, queryMemory rt columns store query started finished = .ok result := by
  have hlatency : 0 ≤ ((finished - started : Int) : Rat) / 1000 :=
    div_nonneg (by exact_mod_cast sub_nonneg.mpr htime) (by positivity)
  have hrelated : ∃ relations, relationsOf rt store (bestMatches rt query window) =
      .ok relations := by
    cases bestMatches rt query window with
    | nil => exact ⟨[], rfl⟩
    | cons best _ => exact hrelations _
  obtain ⟨relations, hrelated⟩ := hrelated
  refine ⟨{ matching := bestMatches rt query window }, ?_⟩
  simp only [queryMemory, hwindow, bind, Except.bind, hrelated, NonNegFloat.check?, hlatency]
  rfl

/-- Over rows that store records, such a query has the best of the newest records. -/
theorem exists_result {records : List BlackboardMemoryRecord} {rows : List MemoryRow}
    {relations : String → Except Exc (List BlackboardRelation)}
    (hstores : List.Forall₂ (Stores rt columns) records rows) (query : BlackboardQuery)
    (hrelations : ∀ id, ∃ found, relations id = .ok found) {started finished : Int}
    (htime : started ≤ finished) :
    ∃ result, queryMemory rt columns ⟨rows, relations⟩ query started finished = .ok result ∧
      result.matching = bestMatches rt query
        (mostRecent BlackboardMemoryRecord.createdAt (query.limit * 3) records) := by
  have hread := mapM_memoryFromRow (forall₂_mostRecent hstores (query.limit * 3))
  obtain ⟨result, hresult⟩ := queryMemory_returns ⟨rows, relations⟩ query hread hrelations htime
  exact ⟨result, hresult, matching_of_queryMemory ⟨rows, relations⟩ hread hresult⟩

/-- A scan of what was written: its rows store the records in some order. -/
theorem scanned_of_written {records : List BlackboardMemoryRecord}
    {relations : String → Except Exc (List BlackboardRelation)} {store : Store}
    {scan : List MemoryRow} (hids : (records.map BlackboardMemoryRecord.recordId).Nodup)
    (hreads : ∀ record ∈ records, ReadsBack rt columns record)
    (hstore : writeMemories rt columns ⟨[], relations⟩ records = .ok store)
    (hscan : scan.Perm store.memories) :
    ∃ scanned, scanned.Perm records ∧ scanned.Nodup ∧
      List.Forall₂ (Stores rt columns) scanned scan := by
  obtain ⟨rows, hwrite, hrows⟩ := writeMemories_stores ⟨[], relations⟩ records .nil hids hreads
  obtain rfl := Except.ok.inj (hwrite.symm.trans hstore)
  obtain ⟨scanned, hperm, hstores⟩ := exists_scanned hrows hscan
  exact ⟨scanned, hperm, hperm.nodup_iff.mpr hids.of_map, hstores⟩

/-- **A query ranks its window exactly.**  Records with different identifiers whose
columns read back are all stored, each in a row of its own, in the order in which
they are written.  In whichever order these rows are scanned, a query returns the
best of the newest `3 * limit`: ranked by score, the newest first among equals, as
many as there are up to the limit, each as it was written. -/
theorem queryMemory_ranks_window {records : List BlackboardMemoryRecord}
    {relations : String → Except Exc (List BlackboardRelation)}
    (hids : (records.map BlackboardMemoryRecord.recordId).Nodup)
    (hreads : ∀ record ∈ records, ReadsBack rt columns record) :
    ∃ rows, writeMemories rt columns ⟨[], relations⟩ records = .ok ⟨rows, relations⟩ ∧
      List.Forall₂ (Stores rt columns) records rows ∧
      ∀ scan, scan.Perm rows → ∀ (query : BlackboardQuery) (started finished : Int),
        ∃ window, List.Forall₂ (Stores rt columns) window
            (mostRecent MemoryRow.createdAt (query.limit * 3) scan) ∧
          (∀ record ∈ window, record ∈ records) ∧
          (∀ result,
            queryMemory rt columns ⟨scan, relations⟩ query started finished = .ok result →
              IsTop (fun record => scoreMemory rt record (rt.lower query.query.val) query.filters)
                0 query.limit window result.matching ∧
              result.matching.Nodup ∧ ∀ record ∈ result.matching, record ∈ records) ∧
          ((∀ id, ∃ found, relations id = .ok found) → started ≤ finished →
            ∃ result,
              queryMemory rt columns ⟨scan, relations⟩ query started finished = .ok result) := by
  obtain ⟨rows, hwrite, hrows⟩ := writeMemories_stores ⟨[], relations⟩ records .nil hids hreads
  refine ⟨rows, hwrite, hrows, fun scan hscan query started finished => ?_⟩
  obtain ⟨scanned, hperm, hnodup, hstores⟩ := scanned_of_written hids hreads hwrite hscan
  let window := mostRecent BlackboardMemoryRecord.createdAt (query.limit * 3) scanned
  have hwindow := forall₂_mostRecent hstores (query.limit * 3)
  have hread := mapM_memoryFromRow hwindow
  have hwritten : ∀ record ∈ window, record ∈ records := fun record hmem =>
    hperm.mem_iff.mp (mem_of_mem_mostRecent hmem)
  have hwindowNodup : window.Nodup :=
    ((Ranking.rank_perm ..).nodup_iff.mpr hnodup).sublist (List.take_sublist ..)
  refine ⟨window, hwindow, hwritten, fun result hresult => ?_, fun hrelations htime =>
    queryMemory_returns _ query hread hrelations htime⟩
  have hmatching := matching_of_queryMemory ⟨scan, relations⟩ hread hresult
  have htop := Ranking.isTop_top
    (fun record => scoreMemory rt record (rt.lower query.query.val) query.filters) 0
    query.limit window
  rw [hmatching, bestMatches_eq_top]
  exact ⟨htop, htop.nodup hwindowNodup, fun record hmem =>
    hwritten record (Ranking.of_mem_top hmem).1⟩

open Reference in
/-- A store with the incident and one record of telemetry. -/
theorem queryMemory_ranks_incident :
    ∃ rows, writeMemories storeRuntime jsonColumns ⟨[], unrelated⟩ [incident, telemetry 2] =
        .ok ⟨rows, unrelated⟩ ∧
      List.Forall₂ (Stores storeRuntime jsonColumns) [incident, telemetry 2] rows ∧
      ∀ scan, scan.Perm rows → ∀ (query : BlackboardQuery) (started finished : Int),
        ∃ window, List.Forall₂ (Stores storeRuntime jsonColumns) window
            (mostRecent MemoryRow.createdAt (query.limit * 3) scan) ∧
          (∀ record ∈ window, record ∈ [incident, telemetry 2]) ∧
          (∀ result,
            queryMemory storeRuntime jsonColumns ⟨scan, unrelated⟩ query started finished =
                .ok result →
              IsTop (fun record => scoreMemory storeRuntime record
                  (storeRuntime.lower query.query.val) query.filters)
                0 query.limit window result.matching ∧
              result.matching.Nodup ∧
              ∀ record ∈ result.matching, record ∈ [incident, telemetry 2]) ∧
          ((∀ id, ∃ found, unrelated id = .ok found) → started ≤ finished →
            ∃ result, queryMemory storeRuntime jsonColumns ⟨scan, unrelated⟩ query started
              finished = .ok result) :=
  queryMemory_ranks_window (by decide) (by
    intro record hmem
    rcases List.mem_pair.mp hmem with rfl | rfl
    · exact readsBack_incident
    · exact readsBack_telemetry rfl)

/-! ## a window that moves -/

/-- Rows that are scanned store records in one way. -/
theorem forall₂_stores_inj {records records' : List BlackboardMemoryRecord} {rows : List MemoryRow}
    (h : List.Forall₂ (Stores rt columns) records rows)
    (h' : List.Forall₂ (Stores rt columns) records' rows) : records = records' := by
  have hread := (mapM_memoryFromRow h).symm.trans (mapM_memoryFromRow h')
  exact Except.ok.inj hread

/-- Rows left out of a scan leave out the records they store. -/
theorem exists_sublist_of_scan {scanned : List BlackboardMemoryRecord}
    {scan scan' : List MemoryRow} (h : List.Forall₂ (Stores rt columns) scanned scan')
    (hsub : scan.Sublist scan') :
    ∃ kept, kept.Sublist scanned ∧ List.Forall₂ (Stores rt columns) kept scan := by
  induction hsub generalizing scanned with
  | slnil =>
      cases h
      exact ⟨[], .slnil, .nil⟩
  | cons row _ ih =>
      cases h with
      | cons _ hrows =>
          obtain ⟨kept, hkept, hstores⟩ := ih hrows
          exact ⟨kept, hkept.cons _, hstores⟩
  | cons_cons row _ ih =>
      cases h with
      | cons hrow hrows =>
          obtain ⟨kept, hkept, hstores⟩ := ih hrows
          exact ⟨_ :: kept, hkept.cons_cons _, .cons hrow hstores⟩

/-- **What later writes leave of the matches.**  Records that score nothing are
written after the others.  The matches of a query stay the same exactly when each of
them is still among the newest `3 * limit` rows. -/
theorem queryMemory_unchanged_iff {records later : List BlackboardMemoryRecord}
    {relations : String → Except Exc (List BlackboardRelation)} {query : BlackboardQuery}
    (hids : ((records ++ later).map BlackboardMemoryRecord.recordId).Nodup)
    (hreads : ∀ record ∈ records ++ later, ReadsBack rt columns record)
    (hlater : ∀ record ∈ later,
      scoreMemory rt record (rt.lower query.query.val) query.filters = 0)
    {store store' : Store} (hstore : writeMemories rt columns ⟨[], relations⟩ records = .ok store)
    (hstore' : writeMemories rt columns store later = .ok store')
    {scan scan' : List MemoryRow} (hscan : scan.Perm store.memories)
    (hscan' : scan'.Perm store'.memories) (hkeep : scan.Sublist scan')
    {started finished started' finished' : Int} {before after : BlackboardQueryResult}
    (hbefore : queryMemory rt columns { store with memories := scan } query started finished =
      .ok before)
    (hafter : queryMemory rt columns { store' with memories := scan' } query started' finished' =
      .ok after) :
    after.matching = before.matching ↔ ∀ record ∈ before.matching,
      ∃ row ∈ mostRecent MemoryRow.createdAt (query.limit * 3) scan',
        memoryFromRow rt columns row = .ok record := by
  have hwritten : writeMemories rt columns ⟨[], relations⟩ (records ++ later) = .ok store' := by
    rw [writeMemories, List.foldlM_append]
    exact (congrArg (· >>= _) hstore).trans hstore'
  obtain ⟨scanned', hperm', hnodup', hstores'⟩ :=
    scanned_of_written hids hreads hwritten hscan'
  obtain ⟨scanned, hperm, -, hstores⟩ := scanned_of_written
    (hids.sublist ((List.sublist_append_left ..).map _))
    (fun record hmem => hreads record (List.mem_append_left _ hmem)) hstore hscan
  have hsub : scanned.Sublist scanned' := by
    obtain ⟨kept, hkept, hstores''⟩ := exists_sublist_of_scan hstores' hkeep
    exact forall₂_stores_inj hstores hstores'' ▸ hkept
  have hadded : ∀ record ∈ scanned', record ∉ scanned →
      ¬ 0 < scoreMemory rt record (rt.lower query.query.val) query.filters := by
    intro record hmem hnot
    rcases List.mem_append.mp (hperm'.mem_iff.mp hmem) with hold | hnew
    · exact absurd (hperm.mem_iff.mpr hold) hnot
    · rw [hlater record hnew]
      exact lt_irrefl 0
  have hwindow := forall₂_mostRecent hstores (query.limit * 3)
  have hwindow' := forall₂_mostRecent hstores' (query.limit * 3)
  rw [matching_of_queryMemory _ (mapM_memoryFromRow hwindow) hbefore,
    matching_of_queryMemory _ (mapM_memoryFromRow hwindow') hafter,
    bestMatches_eq_top, bestMatches_eq_top]
  refine (Ranking.top_recent_eq_iff hsub hnodup' hadded (query.limit * 3)).trans ?_
  refine forall₂_congr fun record _ => ⟨fun hmem => ?_, fun ⟨row, hrow, hread⟩ => ?_⟩
  · obtain ⟨row, hrow, hstores⟩ := exists_partner hwindow'.flip hmem
    exact ⟨row, hrow, hstores.read⟩
  · obtain ⟨other, hother, hstores⟩ := exists_partner hwindow' hrow
    exact Except.ok.inj (hread.symm.trans hstores.read) ▸ hother

open Reference in
/-- One record of telemetry after the incident leaves it in the window. -/
theorem queryMemory_unchanged_incident : ∃ store store' before after,
    writeMemories storeRuntime jsonColumns ⟨[], unrelated⟩ [incident] = .ok store ∧
    writeMemories storeRuntime jsonColumns store [telemetry 2] = .ok store' ∧
    queryMemory storeRuntime jsonColumns store incidentQuery 0 0 = .ok before ∧
    queryMemory storeRuntime jsonColumns store' incidentQuery 0 0 = .ok after ∧
    (after.matching = before.matching ↔ ∀ record ∈ before.matching,
      ∃ row ∈ mostRecent MemoryRow.createdAt (incidentQuery.limit * 3) store'.memories,
        memoryFromRow storeRuntime jsonColumns row = .ok record) := by
  have hids : (([incident] ++ [telemetry 2]).map BlackboardMemoryRecord.recordId).Nodup := by decide
  have hreads : ∀ record ∈ [incident] ++ [telemetry 2],
      ReadsBack storeRuntime jsonColumns record := by
    intro record hmem
    rcases List.mem_pair.mp hmem with rfl | rfl
    · exact readsBack_incident
    · exact readsBack_telemetry rfl
  obtain ⟨rows, hstore, hrows⟩ := writeMemories_stores ⟨[], unrelated⟩ [incident] .nil
    (by decide) fun record hmem =>
      hreads record (List.mem_append_left _ hmem)
  obtain ⟨rows', hstore', hrows'⟩ := writeMemories_stores ⟨rows, unrelated⟩
    [telemetry 2] hrows hids hreads
  have hrelations : ∀ id, ∃ found, unrelated id = .ok found := fun _ => ⟨[], rfl⟩
  obtain ⟨before, hbefore, -⟩ := exists_result hrows incidentQuery hrelations (le_refl 0)
  obtain ⟨after, hafter, -⟩ :=
    exists_result (List.rel_append hrows hrows') incidentQuery hrelations (le_refl 0)
  exact ⟨_, _, before, after, hstore, hstore', hbefore, hafter,
    queryMemory_unchanged_iff hids hreads (by decide +kernel) hstore hstore' (.refl _) (.refl _)
      (List.sublist_append_left ..) hbefore hafter⟩

/-- The only candidate is the match when it scores. -/
theorem bestMatches_singleton {query : BlackboardQuery} {record : BlackboardMemoryRecord}
    (h : 0 < scoreMemory rt record (rt.lower query.query.val) query.filters) :
    bestMatches rt query [record] = [record] := by
  rw [bestMatches_eq_top, Ranking.top, Ranking.rank_eq_reverse (List.pairwise_singleton ..),
    List.reverse_singleton, List.filter_cons_of_pos (by simpa using h), List.filter_nil]
  exact List.take_of_length_le query.limit_pos

/-- Records that all score nothing are no matches. -/
theorem bestMatches_eq_nil {query : BlackboardQuery} {candidates : List BlackboardMemoryRecord}
    (h : ∀ record ∈ candidates,
      scoreMemory rt record (rt.lower query.query.val) query.filters = 0) :
    bestMatches rt query candidates = [] := by
  rw [bestMatches_eq_top, List.eq_nil_iff_forall_not_mem]
  intro record hmem
  obtain ⟨hcandidate, hscore⟩ := Ranking.of_mem_top hmem
  exact hscore.ne' (h record hcandidate)

open Reference in
/-- Three records of telemetry push the incident out of the window of a query for one
record. -/
theorem incident_forgotten : ∃ store store' before after,
    writeMemories storeRuntime jsonColumns ⟨[], unrelated⟩ [incident] = .ok store ∧
    (∀ record ∈ [telemetry 2, telemetry 3, telemetry 4], scoreMemory storeRuntime record
      (storeRuntime.lower incidentQuery.query.val) incidentQuery.filters = 0) ∧
    writeMemories storeRuntime jsonColumns store [telemetry 2, telemetry 3, telemetry 4] =
      .ok store' ∧
    queryMemory storeRuntime jsonColumns store incidentQuery 0 0 = .ok before ∧
    queryMemory storeRuntime jsonColumns store' incidentQuery 0 0 = .ok after ∧
    before.matching = [incident] ∧ after.matching = [] := by
  have hscores : ∀ record ∈ [telemetry 2, telemetry 3, telemetry 4], scoreMemory storeRuntime
      record (storeRuntime.lower incidentQuery.query.val) incidentQuery.filters = 0 := by
    decide +kernel
  have hreads : ∀ record ∈ [incident] ++ [telemetry 2, telemetry 3, telemetry 4],
      ReadsBack storeRuntime jsonColumns record := by
    intro record hmem
    simp only [List.cons_append, List.nil_append, List.mem_cons, List.not_mem_nil,
      or_false] at hmem
    rcases hmem with rfl | rfl | rfl | rfl
    · exact readsBack_incident
    · exact readsBack_telemetry rfl
    · exact readsBack_telemetry rfl
    · exact readsBack_telemetry rfl
  obtain ⟨rows, hstore, hrows⟩ := writeMemories_stores ⟨[], unrelated⟩ [incident] .nil
    (by decide) fun record hmem =>
      hreads record (List.mem_append_left _ hmem)
  obtain ⟨rows', hstore', hrows'⟩ := writeMemories_stores ⟨rows, unrelated⟩
    [telemetry 2, telemetry 3, telemetry 4] hrows (by decide) hreads
  have hrelations : ∀ id, ∃ found, unrelated id = .ok found := fun _ => ⟨[], rfl⟩
  obtain ⟨before, hbefore, hmatching⟩ := exists_result hrows incidentQuery hrelations (le_refl 0)
  obtain ⟨after, hafter, hmatching'⟩ :=
    exists_result (List.rel_append hrows hrows') incidentQuery hrelations (le_refl 0)
  refine ⟨_, _, before, after, hstore, hscores, hstore', hbefore, hafter, ?_, ?_⟩
  · rw [hmatching, mostRecent_singleton]
    exact bestMatches_singleton (by decide +kernel)
  · rw [hmatching']
    refine bestMatches_eq_nil fun record hmem => hscores record ?_
    rw [mostRecent_eq_reverse (by decide)] at hmem
    have hnewest : record ∈ [telemetry 2, telemetry 3, telemetry 4].reverse := hmem
    exact List.mem_reverse.mp hnewest

end Blackboard

end Gestalt
