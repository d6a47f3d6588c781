import Gestalt.Blackboard.Recall

/-!
# Gestalt.Blackboard.Relevance

Why a record is returned.

A record should be returned because a token of the query occurs in it or because
its metadata has a value a filter asks for.  Two inputs break this: the whole text
of a query without tokens occurs in the white space between the fields, and a
filter that expects `None` is met by a record without the key.
-/

namespace Gestalt

namespace Blackboard

variable {rt : Runtime} {columns : Columns}

/-! ## reasons -/

/-- A token of the query occurs, in lower case, in the title, the content or a tag. -/
def MentionsToken (rt : Runtime) (query : BlackboardQuery) (record : BlackboardMemoryRecord) :
    Prop :=
  ∃ token ∈ tokens (rt.lower query.query.val),
    occursIn token (rt.lower record.title.val) = true ∨
    occursIn token (rt.lower record.content.val) = true ∨
    ∃ tag ∈ record.tags, occursIn token (rt.lower tag) = true

/-- The metadata contains a key of the filters with the expected value. -/
def MeetsFilter (query : BlackboardQuery) (record : BlackboardMemoryRecord) : Prop :=
  ∃ item ∈ query.filters, ∃ value,
    record.metadata.get? item.1 = some value ∧ value.equals item.2 = true

/-- The record should be found. -/
def HasReason (rt : Runtime) (query : BlackboardQuery) (record : BlackboardMemoryRecord) : Prop :=
  MentionsToken rt query record ∨ MeetsFilter query record

/-- The record is found all the same: the text of a query without tokens occurs in it,
or a filter expects `None` of a key it does not have. -/
def Slips (rt : Runtime) (query : BlackboardQuery) (record : BlackboardMemoryRecord) : Prop :=
  (tokens (rt.lower query.query.val) = [] ∧
    occursIn (rt.lower query.query.val) (haystack rt record) = true) ∨
  ∃ item ∈ query.filters, item.2 = .none ∧ record.metadata.get? item.1 = none

/-- How many records of the window come before `record`, which comes after `newer`: those
with a higher score, and the newer ones with the same. -/
def ahead (rt : Runtime) (query : BlackboardQuery) (window newer : List BlackboardMemoryRecord)
    (record : BlackboardMemoryRecord) : Nat :=
  let score := fun record => scoreMemory rt record (rt.lower query.query.val) query.filters
  window.countP (fun other => score record < score other) +
    newer.countP fun other => score other = score record

/-- Whatever is stored, each match of the query has a reason to be one, and without
tokens or a record that meets a filter there is none. -/
def Sound (rt : Runtime) (columns : Columns) (query : BlackboardQuery) : Prop :=
  ∀ (store : Store) (started finished : Int) (result : BlackboardQueryResult),
    queryMemory rt columns store query started finished = .ok result →
      (∀ record ∈ result.matching, HasReason rt query record) ∧
      (tokens (rt.lower query.query.val) = [] →
        (∀ row ∈ store.memories, ∀ record, memoryFromRow rt columns row = .ok record →
          ¬ MeetsFilter query record) → result.matching = [])

/-- What is documented of the texts: lowering a text lowers what its spaces
separate, the nil identifier reads back, and so do the empty list and the empty
dictionary. -/
structure Documented (rt : Runtime) (columns : Columns) : Prop where
  lower_empty : rt.lower "" = ""
  lower_space : ∀ a b, rt.lower (a ++ " " ++ b) = rt.lower a ++ " " ++ rt.lower b
  idOf_nil : columns.idOf (rt.idText 0).val = .ok 0
  list_nil : columns.Keeps (.list [])
  dict_nil : columns.Keeps (.dict [])

/-! ## tokens in the haystack -/

/-- A token is not empty, has no white space and occurs in its text. -/
theorem of_mem_tokens {text token : String} (h : token ∈ tokens text) :
    token.toList <:+: text.toList ∧ token.toList ≠ [] ∧ Words.Solid isSpace token.toList := by
  obtain ⟨word, hword, rfl⟩ := List.mem_map.mp h
  rw [String.toList_ofList]
  exact Words.of_mem_words hword

theorem occursIn_trans {keyword text : String} {token : String}
    (htoken : token.toList <:+: keyword.toList) (h : occursIn keyword text = true) :
    occursIn token text = true :=
  decide_eq_true (htoken.trans (of_decide_eq_true h))

/-- A token occurs across a space on one side of it. -/
theorem occursIn_space_iff {token : String} (hsolid : Words.Solid isSpace token.toList)
    (a b : String) :
    occursIn token (a ++ " " ++ b) = true ↔ occursIn token a = true ∨ occursIn token b = true := by
  have hlist : (a ++ " " ++ b).toList = a.toList ++ ' ' :: b.toList := by simp
  simp only [occursIn, decide_eq_true_eq, hlist]
  exact Words.infix_append_cons_iff hsolid rfl

/-- A token occurs in texts joined with spaces when it occurs in one of them. -/
theorem occursIn_lower_intercalate (hdoc : Documented rt columns) {token : String}
    (hne : token.toList ≠ []) (hsolid : Words.Solid isSpace token.toList) (texts : List String) :
    occursIn token (rt.lower (" ".intercalate texts)) = true ↔
      ∃ text ∈ texts, occursIn token (rt.lower text) = true := by
  induction texts with
  | nil => simp [String.intercalate_nil, hdoc.lower_empty, occursIn, hne]
  | cons text texts ih =>
      cases texts with
      | nil => simp [String.intercalate_singleton]
      | cons next texts =>
          rw [String.intercalate_cons_cons, hdoc.lower_space, occursIn_space_iff hsolid, ih]
          simp

/-- A token occurs in the haystack when it occurs in one of the fields. -/
theorem occursIn_haystack (hdoc : Documented rt columns) {token : String}
    (hne : token.toList ≠ []) (hsolid : Words.Solid isSpace token.toList)
    (record : BlackboardMemoryRecord) :
    occursIn token (haystack rt record) = true ↔
      occursIn token (rt.lower record.title.val) = true ∨
      occursIn token (rt.lower record.content.val) = true ∨
      ∃ tag ∈ record.tags, occursIn token (rt.lower tag) = true := by
  rw [haystack, occursIn_lower_intercalate hdoc hne hsolid,
    ← occursIn_lower_intercalate hdoc hne hsolid record.tags]
  simp

/-! ## what a score comes from -/

/-- A record scores when a token or the whole text of the query occurs in the haystack
or a filter is satisfied. -/
theorem scoreMemory_pos_iff {record : BlackboardMemoryRecord} {text : String}
    {filters : Dict Value} : 0 < scoreMemory rt record text filters ↔
      (∃ token ∈ tokens text, occursIn token (haystack rt record) = true) ∨
      occursIn text (haystack rt record) = true ∨
      ∃ item ∈ filters, satisfies record item = true := by
  rw [scoreMemory, ← List.countP_pos_iff, ← List.countP_pos_iff]
  split <;> simp_all

/-- Where a token occurs in the haystack the record mentions it. -/
theorem mentionsToken_iff (hdoc : Documented rt columns) {query : BlackboardQuery}
    {record : BlackboardMemoryRecord} : MentionsToken rt query record ↔
      ∃ token ∈ tokens (rt.lower query.query.val),
        occursIn token (haystack rt record) = true := by
  refine exists_congr fun token => and_congr_right fun hmem => ?_
  obtain ⟨-, hne, hsolid⟩ := of_mem_tokens hmem
  exact (occursIn_haystack hdoc hne hsolid record).symm

/-- With a token the whole text occurs only where the token does. -/
theorem exists_token_of_text {text other : String} (htokens : tokens text ≠ [])
    (h : occursIn text other = true) :
    ∃ token ∈ tokens text, occursIn token other = true := by
  obtain ⟨token, hmem⟩ := List.exists_mem_of_ne_nil _ htokens
  exact ⟨token, hmem, occursIn_trans (of_mem_tokens hmem).1 h⟩

/-- A filter is satisfied by a value that is there, or expects `None` of an absent key. -/
theorem satisfies_iff {record : BlackboardMemoryRecord} {item : String × Value} :
    satisfies record item = true ↔
      (∃ value, record.metadata.get? item.1 = some value ∧ value.equals item.2 = true) ∨
      (item.2 = .none ∧ record.metadata.get? item.1 = none) := by
  cases hget : record.metadata.get? item.1 with
  | none => simp [satisfies, hget]
  | some value => simp [satisfies, hget]

/-- **What makes a record score**: a reason, or a slip. -/
theorem scoreMemory_pos_iff_reason (hdoc : Documented rt columns) {query : BlackboardQuery}
    {record : BlackboardMemoryRecord} :
    0 < scoreMemory rt record (rt.lower query.query.val) query.filters ↔
      HasReason rt query record ∨ Slips rt query record := by
  rw [scoreMemory_pos_iff, ← mentionsToken_iff hdoc]
  constructor
  · rintro (h | h | ⟨item, hitem, h⟩)
    · exact .inl (.inl h)
    · by_cases htokens : tokens (rt.lower query.query.val) = []
      · exact .inr (.inl ⟨htokens, h⟩)
      · exact .inl (.inl ((mentionsToken_iff hdoc).mpr (exists_token_of_text htokens h)))
    · rcases satisfies_iff.mp h with h | h
      · exact .inl (.inr ⟨item, hitem, h⟩)
      · exact .inr (.inr ⟨item, hitem, h⟩)
  · rintro ((h | ⟨item, hitem, h⟩) | ⟨-, h⟩ | ⟨item, hitem, h⟩)
    · exact .inl h
    · exact .inr (.inr ⟨item, hitem, satisfies_iff.mpr (.inl h)⟩)
    · exact .inr (.inl h)
    · exact .inr (.inr ⟨item, hitem, satisfies_iff.mpr (.inr h)⟩)

/-! ## a record without a reason -/

/-- A record with a title, a space for its content, and nothing else. -/
def bareRecord (title : MinStr 3) : BlackboardMemoryRecord where
  recordId := 0
  traceId := 0
  memoryKind := .fact
  title := title
  content := Reference.singleSpace
  createdAt := 0

theorem readsBack_bareRecord (hdoc : Documented rt columns) (title : MinStr 3) :
    ReadsBack rt columns (bareRecord title) where
  recordId := hdoc.idOf_nil
  traceId := hdoc.idOf_nil
  tags := hdoc.list_nil
  embedding embedding hmem := by contradiction
  metadata := hdoc.dict_nil

theorem not_meetsFilter_bareRecord {query : BlackboardQuery} (title : MinStr 3) :
    ¬ MeetsFilter query (bareRecord title) := by
  rintro ⟨item, -, value, hget, -⟩
  contradiction

/-- A record that scores is returned from a store in which it is alone. -/
theorem exists_returned {record : BlackboardMemoryRecord} (query : BlackboardQuery)
    (hreads : ReadsBack rt columns record)
    (hscore : 0 < scoreMemory rt record (rt.lower query.query.val) query.filters) :
    ∃ row result, Stores rt columns record row ∧
      queryMemory rt columns ⟨[row], fun _ => .ok []⟩ query 0 0 = .ok result ∧
      result.matching = [record] := by
  obtain ⟨row, hstores⟩ := hreads.stores
  have hone : [record].length ≤ query.limit * 3 := by
    have hlimit := query.limit_pos
    rw [List.length_singleton]
    omega
  obtain ⟨result, hresult, hmatching⟩ := exists_result (.cons hstores .nil) query
    (fun _ => ⟨[], rfl⟩) (le_refl 0)
  refine ⟨row, result, hstores, hresult, ?_⟩
  rw [hmatching, mostRecent_singleton, List.take_of_length_le hone, bestMatches_singleton hscore]

/-- Where queries are sound, a record that scores has a reason. -/
theorem Sound.reason {query : BlackboardQuery} (hsound : Sound rt columns query)
    {record : BlackboardMemoryRecord} (hreads : ReadsBack rt columns record)
    (hscore : 0 < scoreMemory rt record (rt.lower query.query.val) query.filters) :
    HasReason rt query record := by
  obtain ⟨row, result, -, hresult, hmatching⟩ := exists_returned query hreads hscore
  exact (hsound _ 0 0 result hresult).1 record (by simp [hmatching])

/-- Lowering leaves spaces alone. -/
theorem Documented.lower_spaces (hdoc : Documented rt columns) :
    rt.lower " " = " " ∧ rt.lower "   " = "   " := by
  have hone : rt.lower " " = " " := by
    have h := hdoc.lower_space "" ""
    rwa [hdoc.lower_empty] at h
  have hthree := hdoc.lower_space " " " "
  rw [hone] at hthree
  exact ⟨hone, hthree⟩

/-- A title that begins with the text. -/
def spacedTitle (text : MinStr 1) : MinStr 3 :=
  ⟨text.val ++ " " ++ " ", by
    rw [String.length_append, String.length_append]
    exact Nat.add_le_add_right (Nat.add_le_add_right text.min_length 1) 1⟩

/-- The whole text occurs in such a title. -/
theorem occursIn_spacedTitle (hdoc : Documented rt columns) (text : MinStr 1) :
    occursIn (rt.lower text.val) (haystack rt (bareRecord (spacedTitle text))) = true := by
  have htext : haystack rt (bareRecord (spacedTitle text)) = rt.lower text.val ++ " " ++
      rt.lower " " ++ " " ++ rt.lower (" ".intercalate [" ", " ".intercalate []]) := by
    rw [haystack, String.intercalate_cons_cons, hdoc.lower_space]
    exact congrArg (· ++ " " ++ _) (hdoc.lower_space text.val " ")
  rw [occursIn, htext, decide_eq_true_eq]
  simp only [String.toList_append, List.append_assoc]
  exact (List.prefix_append ..).isInfix

/-- A blank text has no token in it. -/
theorem not_occursIn_of_blank {token text : String} (hne : token.toList ≠ [])
    (hsolid : Words.Solid isSpace token.toList) (h : blank text = true) :
    occursIn token text = false := by
  rw [occursIn, decide_eq_false_iff_not]
  intro hwithin
  obtain ⟨c, hc⟩ := List.exists_mem_of_ne_nil _ hne
  exact hsolid c hc (List.all_eq_true.mp h c (hwithin.subset hc))

/-- A match without a reason is one that slips in, and fewer than `limit` records of the
window come before it. -/
theorem reasons_iff (hdoc : Documented rt columns) (query : BlackboardQuery)
    (window : List BlackboardMemoryRecord) :
    (∀ record ∈ bestMatches rt query window, HasReason rt query record) ↔
      ∀ newer record older, window = newer ++ record :: older → Slips rt query record →
        ¬ HasReason rt query record →
        query.limit ≤ ahead rt query window newer record := by
  rw [bestMatches_eq_top]
  constructor
  · intro hreasons newer record older hwindow hslips hnot
    by_contra hfew
    refine hnot (hreasons record (Ranking.mem_top_iff.mpr ⟨?_, ?_⟩))
    · exact (scoreMemory_pos_iff_reason hdoc).mpr (.inr hslips)
    · exact Ranking.mem_take_rank_iff.mpr ⟨newer, older, hwindow, Nat.lt_of_not_le hfew⟩
  · intro hcrowded record hmem
    obtain ⟨hscore, hplace⟩ := Ranking.mem_top_iff.mp hmem
    rcases (scoreMemory_pos_iff_reason hdoc).mp hscore with h | hslips
    · exact h
    · by_contra hnot
      obtain ⟨newer, older, hwindow, hfew⟩ := Ranking.mem_take_rank_iff.mp hplace
      exact Nat.not_le_of_lt hfew (hcrowded newer record older hwindow hslips hnot)

/-- No record slips into the matches of a query with a token and without a filter that
expects `None`. -/
theorem not_slips {query : BlackboardQuery} (htokens : tokens (rt.lower query.query.val) ≠ [])
    (hnone : ∀ item ∈ query.filters, item.2 ≠ .none) (record : BlackboardMemoryRecord) :
    ¬ Slips rt query record := by
  rintro (⟨hempty, -⟩ | ⟨item, hitem, heq, -⟩)
  · exact htokens hempty
  · exact hnone item hitem heq

/-! ## soundness -/

/-- **A sound query.**  Every match, in every store, is there for a reason exactly when the
text of the query has a token and no filter expects `None`. -/
theorem sound_iff (hdoc : Documented rt columns) (query : BlackboardQuery) :
    Sound rt columns query ↔ tokens (rt.lower query.query.val) ≠ [] ∧
      ∀ item ∈ query.filters, item.2 ≠ .none := by
  constructor
  · intro hsound
    constructor
    · -- the whole text of a query without tokens occurs in a title that begins with it
      intro htokens
      have hslips : Slips rt query (bareRecord (spacedTitle query.query)) :=
        .inl ⟨htokens, occursIn_spacedTitle hdoc query.query⟩
      rcases hsound.reason (readsBack_bareRecord hdoc (spacedTitle query.query))
          ((scoreMemory_pos_iff_reason hdoc).mpr (.inr hslips)) with ⟨token, hmem, -⟩ | hmeets
      · rw [htokens] at hmem
        contradiction
      · exact not_meetsFilter_bareRecord _ hmeets
    · -- a record without any key meets a filter that expects `None`, whatever its text
      intro item hitem hnone
      have hslips : Slips rt query (bareRecord (.text "   ")) := .inr ⟨item, hitem, hnone, rfl⟩
      rcases hsound.reason (readsBack_bareRecord hdoc (.text "   "))
          ((scoreMemory_pos_iff_reason hdoc).mpr (.inr hslips)) with
        ⟨token, hmem, hoccurs⟩ | hmeets
      · obtain ⟨-, hne, hsolid⟩ := of_mem_tokens hmem
        obtain ⟨hone, hthree⟩ := hdoc.lower_spaces
        have hout : ∀ text, blank text = true → ¬ occursIn token text = true := fun text hblank =>
          Bool.eq_false_iff.mp (not_occursIn_of_blank hne hsolid hblank)
        rcases hoccurs with h | h | ⟨tag, htag, -⟩
        · exact hout "   " (by decide) (hthree ▸ h)
        · exact hout " " (by decide) (hone ▸ h)
        · contradiction
      · exact not_meetsFilter_bareRecord _ hmeets
  · rintro ⟨htokens, hnone⟩ store started finished result hresult
    refine ⟨?_, fun hempty => absurd hempty htokens⟩
    obtain ⟨window, hwindow, -⟩ := Codec.exists_of_bind_eq_ok hresult
    rw [matching_of_queryMemory _ hwindow hresult, reasons_iff hdoc]
    exact fun newer record older _ hslips => absurd hslips (not_slips htokens hnone record)

/-- **When retrieval is sound.**  The matches a query returns are all there for a reason
exactly when each record of the window that only slips in has at least `limit` records
of the window before it.  That is so in every store exactly when the text of the query has
a token and no filter expects `None`. -/
theorem retrieval_sound_iff (hdoc : Documented rt columns) (query : BlackboardQuery) :
    (∀ (store : Store) (started finished : Int) (result : BlackboardQueryResult)
        (window : List BlackboardMemoryRecord),
      (mostRecent MemoryRow.createdAt (query.limit * 3) store.memories).mapM
        (memoryFromRow rt columns) = .ok window →
      queryMemory rt columns store query started finished = .ok result →
      ((∀ record ∈ result.matching, HasReason rt query record) ↔
        ∀ newer record older, window = newer ++ record :: older → Slips rt query record →
          ¬ HasReason rt query record →
          query.limit ≤ ahead rt query window newer record)) ∧
    (Sound rt columns query ↔ tokens (rt.lower query.query.val) ≠ [] ∧
      ∀ item ∈ query.filters, item.2 ≠ .none) := by
  refine ⟨fun store started finished result window hwindow hresult => ?_, sound_iff hdoc query⟩
  rw [matching_of_queryMemory _ hwindow hresult]
  exact reasons_iff hdoc query window

open Reference in
theorem documented_jsonColumns : Documented storeRuntime jsonColumns where
  lower_empty := rfl
  lower_space a b := by
    refine String.toList_injective ?_
    simp [storeRuntime, runtime]
  idOf_nil := rfl
  list_nil := ⟨"[]", rfl, by decide, rfl⟩
  dict_nil := ⟨"\x7b\x7d", rfl, by decide, rfl⟩

open Reference in
/-- The query of the test suite. -/
theorem retrieval_sound_iff_incident :
    (∀ (store : Store) (started finished : Int) (result : BlackboardQueryResult)
        (window : List BlackboardMemoryRecord),
      (mostRecent MemoryRow.createdAt (incidentQuery.limit * 3) store.memories).mapM
        (memoryFromRow storeRuntime jsonColumns) = .ok window →
      queryMemory storeRuntime jsonColumns store incidentQuery started finished = .ok result →
      ((∀ record ∈ result.matching, HasReason storeRuntime incidentQuery record) ↔
        ∀ newer record older, window = newer ++ record :: older →
          Slips storeRuntime incidentQuery record →
          ¬ HasReason storeRuntime incidentQuery record →
          incidentQuery.limit ≤ ahead storeRuntime incidentQuery window newer record)) ∧
    (Sound storeRuntime jsonColumns incidentQuery ↔
      tokens (storeRuntime.lower incidentQuery.query.val) ≠ [] ∧
        ∀ item ∈ incidentQuery.filters, item.2 ≠ .none) :=
  retrieval_sound_iff documented_jsonColumns incidentQuery

open Reference in
/-- A query for a single space finds the incident, which has words only. -/
theorem blank_query_finds : ∃ store result,
    writeMemories storeRuntime jsonColumns ⟨[], unrelated⟩ [incident] = .ok store ∧
    queryMemory storeRuntime jsonColumns store blankQuery 0 0 = .ok result ∧
    result.matching = [incident] ∧ ¬ HasReason storeRuntime blankQuery incident := by
  obtain ⟨row, result, hstores, hresult, hmatching⟩ :=
    exists_returned blankQuery readsBack_incident (by decide +kernel)
  refine ⟨⟨[row], unrelated⟩, result, ?_, hresult, hmatching, ?_⟩
  · rw [writeMemories, List.foldlM_cons, writeMemory_stores hstores (by simp)]
    rfl
  · rintro (⟨token, hmem, -⟩ | ⟨item, hitem, -⟩)
    · have htokens : tokens (storeRuntime.lower blankQuery.query.val) = [] := by decide
      rw [htokens] at hmem
      contradiction
    · contradiction

end Blackboard

end Gestalt
