import Gestalt.Blackboard.Reference
import Gestalt.Library.Register

/-!
# Gestalt.Blackboard.Prompts

Prompt overlays (`update_prompt_policy` and `get_prompt_policy` of
`gestalt/blackboard.py`).

An update adds a row and replaces none, so the table is the history of the
updates.  A query orders the rows of its target by the time they were written and
takes the first: the overlay of the last update, unless an earlier one with
another overlay was written at the same reading of the clock.  The database may
scan the rows in any order, and the key that tells them apart is not consulted.
-/

namespace Gestalt

namespace Blackboard

variable {floats : Json.Floats}

/-! ## the table -/

/-- Persisted runtime prompt and routing overrides. -/
structure PromptOverlayRow where
  overlayId : Nat
  target : String
  overlayJson : String
  createdAt : Int
  deriving DecidableEq

/-- `update_prompt_policy`, whose row is inserted at this reading of the clock.  The
key is the next one: no row is ever deleted. -/
def updatePromptPolicy (floats : Json.Floats) (table : List PromptOverlayRow) (target : String)
    (overlay : Dict Value) (now : Int) : Except Exc (List PromptOverlayRow) := do
  let overlayJson ← jsonDumps floats (.dict overlay)
  return table ++ [{ overlayId := table.length + 1, target, overlayJson, createdAt := now }]

/-- `json.loads(row.overlay_json) if row else {}`. -/
def loadOverlay (floats : Json.Floats) : Option PromptOverlayRow → Except Exc Value
  | some row => jsonLoads floats row.overlayJson
  | none => .ok (.dict [])

/-- `get_prompt_policy`, of a table whose rows the database scans in this order. -/
def getPromptPolicy (floats : Json.Floats) (scan : List PromptOverlayRow) (target : String) :
    Except Exc Value :=
  let rows := mostRecent PromptOverlayRow.createdAt 1 (scan.filter fun row => row.target = target)
  loadOverlay floats rows.head?

/-! ## updates -/

/-- A call of `update_prompt_policy`, and the reading of the clock it is stored with. -/
structure PromptUpdate (floats : Json.Floats) where
  target : String
  overlay : Dict Value
  json : Json.IsJson floats (.dict overlay)
  now : Int

/-- The table that calls leave, one after the other. -/
def promptOverlays (updates : List (PromptUpdate floats)) : Except Exc (List PromptOverlayRow) :=
  updates.foldlM (fun table update =>
    updatePromptPolicy floats table update.target update.overlay update.now) []

/-- The row stores the update. -/
structure PromptUpdate.StoredAs (update : PromptUpdate floats) (row : PromptOverlayRow) :
    Prop where
  target : row.target = update.target
  createdAt : row.createdAt = update.now
  overlay : jsonLoads floats row.overlayJson = .ok (.dict update.overlay)

/-- An update adds the row that stores it. -/
theorem exists_updatePromptPolicy (table : List PromptOverlayRow) (update : PromptUpdate floats) :
    ∃ row, updatePromptPolicy floats table update.target update.overlay update.now =
      .ok (table ++ [row]) ∧ update.StoredAs row := by
  obtain ⟨text, hdumps, -, hloads⟩ := exists_jsonDumps update.json
  exact ⟨⟨table.length + 1, update.target, text, update.now⟩,
    by rw [updatePromptPolicy, hdumps]; rfl, rfl, rfl, hloads⟩

/-- **The table is the history of the updates.** -/
theorem exists_promptOverlays (updates : List (PromptUpdate floats)) :
    ∃ rows, promptOverlays updates = .ok rows ∧
      List.Forall₂ PromptUpdate.StoredAs updates rows := by
  induction updates using List.reverseRecOn with
  | nil => exact ⟨[], rfl, .nil⟩
  | append_singleton updates update ih =>
      obtain ⟨rows, hrows, hstored⟩ := ih
      obtain ⟨row, hrow, hstored'⟩ := exists_updatePromptPolicy rows update
      refine ⟨rows ++ [row], ?_, List.rel_append hstored (.cons hstored' .nil)⟩
      rw [promptOverlays] at hrows ⊢
      rw [List.foldlM_append, hrows]
      simp only [List.foldlM_cons, List.foldlM_nil, bind_pure]
      exact hrow

/-! ## what a query returns -/

/-- The overlay a query returns of updates that are scanned in this order. -/
def scannedOverlay (scanned : List (PromptUpdate floats)) (target : String) : Dict Value :=
  let updates := scanned.filter fun update => update.target = target
  ((Ranking.rank PromptUpdate.now updates).head?.map PromptUpdate.overlay).getD []

theorem loadOverlay_of_stored {updates : List (PromptUpdate floats)}
    {rows : List PromptOverlayRow} (h : List.Forall₂ PromptUpdate.StoredAs updates rows) :
    loadOverlay floats rows.head? =
      .ok (.dict ((updates.head?.map PromptUpdate.overlay).getD [])) := by
  cases h with
  | nil => rfl
  | cons hstored _ => exact hstored.overlay

/-- A query of rows returns what the updates say they store. -/
theorem getPromptPolicy_of_stored {scanned : List (PromptUpdate floats)}
    {scan : List PromptOverlayRow} (h : List.Forall₂ PromptUpdate.StoredAs scanned scan)
    (target : String) :
    getPromptPolicy floats scan target = .ok (.dict (scannedOverlay scanned target)) := by
  have hfilter : List.Forall₂ PromptUpdate.StoredAs
      (scanned.filter fun update => update.target = target)
      (scan.filter fun row => row.target = target) :=
    List.rel_filter (fun _ _ hstored => by simp [hstored.target]) h
  have hrank := Ranking.forall₂_rank (fun _ _ hstored => hstored.createdAt.symm) hfilter
  have hload := loadOverlay_of_stored (List.forall₂_take 1 hrank)
  simpa [getPromptPolicy, mostRecent, scannedOverlay, Ranking.rank, List.head?_take] using hload

/-- A target that has no update has no overlay. -/
theorem scannedOverlay_of_none {scanned : List (PromptUpdate floats)} {target : String}
    (h : ∀ update ∈ scanned, update.target ≠ target) : scannedOverlay scanned target = [] := by
  have hfilter : scanned.filter (fun update => update.target = target) = [] := by
    simpa [List.filter_eq_nil_iff] using h
  simp [scannedOverlay, hfilter, Ranking.rank]

/-- The overlay that is returned is one of the newest of its target. -/
theorem exists_newest {scanned updates : List (PromptUpdate floats)} (hperm : scanned.Perm updates)
    {target : String} (hsome : ∃ update ∈ updates, update.target = target) :
    ∃ newest ∈ updates, newest.target = target ∧
      (∀ update ∈ updates, update.target = target → update.now ≤ newest.now) ∧
      scannedOverlay scanned target = newest.overlay := by
  have hmem : ∀ update, update ∈ scanned.filter (fun update => update.target = target) ↔
      update ∈ updates ∧ update.target = target := by
    simp [hperm.mem_iff]
  cases hhead : (Ranking.rank PromptUpdate.now
      (scanned.filter fun update => update.target = target)).head? with
  | none =>
      obtain ⟨update, hupdate⟩ := hsome
      have hranked : update ∈ Ranking.rank PromptUpdate.now
          (scanned.filter fun update => update.target = target) :=
        Ranking.mem_rank.mpr ((hmem update).mpr hupdate)
      rw [List.head?_eq_none_iff.mp hhead] at hranked
      contradiction
  | some newest =>
      obtain ⟨hnewest, hmax⟩ := Ranking.of_head?_rank hhead
      refine ⟨newest, ((hmem newest).mp hnewest).1, ((hmem newest).mp hnewest).2, ?_, ?_⟩
      · exact fun update hupdate htarget => hmax update ((hmem update).mpr ⟨hupdate, htarget⟩)
      · rw [scannedOverlay, hhead]
        rfl

/-- Each of the newest is returned if the database scans the rows accordingly. -/
theorem exists_scanned_newest {updates : List (PromptUpdate floats)} {newest : PromptUpdate floats}
    (hmem : newest ∈ updates)
    (hnewest : ∀ update ∈ updates, update.target = newest.target → update.now ≤ newest.now) :
    ∃ scanned, scanned.Perm updates ∧ scannedOverlay scanned newest.target = newest.overlay := by
  have hfirst : newest ∈ updates.filter (fun update => update.target = newest.target) ∧
      ∀ update ∈ updates.filter (fun update => update.target = newest.target),
        update.now ≤ newest.now := by
    simpa [hmem] using hnewest
  obtain ⟨own, hown, hhead⟩ := Ranking.exists_perm_head?_rank.mpr hfirst
  -- the rows of the target are scanned in this order, and then the others
  refine ⟨own ++ updates.filter (fun update => !decide (update.target = newest.target)),
    (hown.append_right _).trans (List.filter_append_perm ..), ?_⟩
  have hkept : own.filter (fun update => update.target = newest.target) = own := by
    rw [List.filter_eq_self]
    exact fun update hupdate => (List.mem_filter.mp (hown.mem_iff.mp hupdate)).2
  simp [scannedOverlay, List.filter_append, hkept, List.filter_filter, hhead]

/-! ## last writer wins -/

/-- The update as a write to a register of overlays. -/
def PromptUpdate.write (update : PromptUpdate floats) : Register.Write String (Dict Value) :=
  .put update.target update.overlay

/-- The overlay of the last update of the target, if there is one. -/
def latestOverlay (updates : List (PromptUpdate floats)) (target : String) : Dict Value :=
  ((Register.replay (updates.map PromptUpdate.write)).get? target).getD []

/-- `last` is the last update of the target. -/
structure IsLast (updates : List (PromptUpdate floats)) (target : String)
    (before : List (PromptUpdate floats)) (last : PromptUpdate floats)
    (after : List (PromptUpdate floats)) : Prop where
  split : updates = before ++ last :: after
  target_eq : last.target = target
  latest : ∀ later ∈ after, later.target ≠ target

section Updates

variable {updates before after : List (PromptUpdate floats)} {target : String}
variable {last : PromptUpdate floats}

theorem IsLast.latestOverlay_eq (h : IsLast updates target before last after) :
    latestOverlay updates target = last.overlay := by
  have hforce : Register.InForce (updates.map PromptUpdate.write) target last.overlay := by
    refine ⟨before.map PromptUpdate.write, after.map PromptUpdate.write, ?_, ?_, fun overlay => ?_⟩
    · simp [h.split, PromptUpdate.write, h.target_eq]
    · simp [PromptUpdate.write]
    · rw [List.mem_map]
      rintro ⟨later, hmem, hwrite⟩
      rw [PromptUpdate.write, Register.Write.put.injEq] at hwrite
      exact h.latest later hmem hwrite.1
  rw [latestOverlay, Register.get?_replay_iff.mpr hforce]
  rfl

theorem latestOverlay_of_none (h : ∀ update ∈ updates, update.target ≠ target) :
    latestOverlay updates target = [] := by
  cases hget : (Register.replay (updates.map PromptUpdate.write)).get? target with
  | none => rw [latestOverlay, hget]; rfl
  | some overlay =>
      obtain ⟨writes, writes', hsplit, -, -⟩ := Register.get?_replay_iff.mp hget
      have hmem : Register.Write.put target overlay ∈ updates.map PromptUpdate.write := by
        simp [hsplit]
      obtain ⟨update, hupdate, hwrite⟩ := List.mem_map.mp hmem
      rw [PromptUpdate.write, Register.Write.put.injEq] at hwrite
      exact absurd hwrite.1 (h update hupdate)

/-- Updates of other targets leave the last one the last. -/
theorem IsLast.append (h : IsLast updates target before last after)
    {others : List (PromptUpdate floats)} (hothers : ∀ update ∈ others, update.target ≠ target) :
    IsLast (updates ++ others) target before last (after ++ others) where
  split := by simp [h.split]
  target_eq := h.target_eq
  latest := List.forall_mem_append.mpr ⟨h.latest, hothers⟩

/-- A target has a last update or none at all. -/
theorem exists_isLast_or_none (updates : List (PromptUpdate floats)) (target : String) :
    (∃ before last after, IsLast updates target before last after) ∨
      ∀ update ∈ updates, update.target ≠ target := by
  induction updates using List.reverseRecOn with
  | nil => exact Or.inr (by simp)
  | append_singleton updates update ih =>
      by_cases htarget : update.target = target
      · exact Or.inl ⟨updates, update, [], rfl, htarget, by simp⟩
      · refine ih.imp (fun h => ?_) fun hnone => ?_
        · obtain ⟨before, last, after, hlast⟩ := h
          exact ⟨before, last, after ++ [update], hlast.append (by simpa using htarget)⟩
        · simpa [or_imp, forall_and, htarget] using hnone

/-- The updates of a target on the clock's reading of its last update all have the
overlay of that update. -/
def Settled (updates : List (PromptUpdate floats)) (target : String) : Prop :=
  ∀ before last after, IsLast updates target before last after →
    ∀ tied ∈ before, tied.target = target → tied.now = last.now → tied.overlay = last.overlay

/-- Then every scan makes a query return the overlay of the last update. -/
theorem Settled.scannedOverlay_eq (h : Settled updates target)
    (hclock : updates.Pairwise fun a b => a.now ≤ b.now) {scanned : List (PromptUpdate floats)}
    (hperm : scanned.Perm updates) :
    scannedOverlay scanned target = latestOverlay updates target := by
  rcases exists_isLast_or_none updates target with ⟨before, last, after, hlast⟩ | hnone
  · have hmem : last ∈ updates := by simp [hlast.split]
    obtain ⟨newest, hnewest, htarget, hmax, hoverlay⟩ :=
      exists_newest hperm ⟨last, hmem, hlast.target_eq⟩
    rw [hoverlay, hlast.latestOverlay_eq]
    have hle := hmax last hmem hlast.target_eq
    rw [hlast.split, List.mem_append, List.mem_cons] at hnewest
    rcases hnewest with hbefore | rfl | hafter
    · -- an earlier update is not newer, so it was stored at the same reading
      rw [hlast.split, List.pairwise_append] at hclock
      have hge := hclock.2.2 newest hbefore last (by simp)
      exact h before last after hlast newest hbefore htarget (Int.le_antisymm hge hle)
    · rfl
    · exact absurd htarget (hlast.latest newest hafter)
  · rw [latestOverlay_of_none hnone, scannedOverlay_of_none]
    simpa [hperm.mem_iff] using hnone

/-- Updates of other targets neither settle nor unsettle. -/
theorem Settled.of_append (h : Settled (before ++ after) target)
    (hother : ∀ update ∈ after, update.target ≠ target) : Settled before target :=
  fun earlier last later hlast => h earlier last (later ++ after) (hlast.append hother)

theorem latestOverlay_append (hother : ∀ update ∈ after, update.target ≠ target) :
    latestOverlay (before ++ after) target = latestOverlay before target := by
  rcases exists_isLast_or_none before target with ⟨earlier, last, later, hlast⟩ | hnone
  · rw [hlast.latestOverlay_eq, (hlast.append hother).latestOverlay_eq]
  · rw [latestOverlay_of_none hnone,
      latestOverlay_of_none (List.forall_mem_append.mpr ⟨hnone, hother⟩)]

/-- Without a tie that matters a query returns the overlay of the last update. -/
theorem Settled.getPromptPolicy_eq (h : Settled updates target)
    (hclock : updates.Pairwise fun a b => a.now ≤ b.now) {rows scan : List PromptOverlayRow}
    (hrows : promptOverlays updates = .ok rows) (hscan : scan.Perm rows) :
    getPromptPolicy floats scan target = .ok (.dict (latestOverlay updates target)) := by
  obtain ⟨rows', hrows', hstored⟩ := exists_promptOverlays updates
  obtain rfl : rows' = rows := Except.ok.inj (hrows'.symm.trans hrows)
  obtain ⟨scanned, hstored', hperm⟩ := List.perm_comp_forall₂ hscan hstored.flip
  rw [getPromptPolicy_of_stored hstored'.flip, h.scannedOverlay_eq hclock hperm]

/-- What the prompt overlays are for: a query returns the overlay of the last update
of its target, in whatever order the rows are scanned, and updates of other targets
do not change what it returns. -/
structure LastWriterWins (updates : List (PromptUpdate floats)) (rows : List PromptOverlayRow) :
    Prop where
  returns : ∀ target scan, scan.Perm rows →
    getPromptPolicy floats scan target = .ok (.dict (latestOverlay updates target))
  unaffected : ∀ target before after rows₀ scan₀ scan, updates = before ++ after →
    (∀ update ∈ after, update.target ≠ target) → promptOverlays before = .ok rows₀ →
    scan₀.Perm rows₀ → scan.Perm rows →
    getPromptPolicy floats scan target = getPromptPolicy floats scan₀ target

/-- Then every scan of the updates has the overlay of the last one. -/
theorem LastWriterWins.scannedOverlay_eq {rows : List PromptOverlayRow}
    (h : LastWriterWins updates rows) (hrows : promptOverlays updates = .ok rows)
    {scanned : List (PromptUpdate floats)} (hperm : scanned.Perm updates) (target : String) :
    scannedOverlay scanned target = latestOverlay updates target := by
  obtain ⟨rows', hrows', hstored⟩ := exists_promptOverlays updates
  obtain rfl : rows' = rows := Except.ok.inj (hrows'.symm.trans hrows)
  obtain ⟨scan, hscanned, hscan⟩ := List.perm_comp_forall₂ hperm hstored
  have hreturns := h.returns target scan hscan
  rw [getPromptPolicy_of_stored hscanned] at hreturns
  exact Value.dict.inj (Except.ok.inj hreturns)

/-- Ties that do not matter settle every target. -/
theorem settled_of_pairwise (h : updates.Pairwise fun a b =>
    a.target = b.target → a.now = b.now → a.overlay = b.overlay) (target : String) :
    Settled updates target := by
  rintro before last after hlast tied htied htarget hnow
  rw [hlast.split, List.pairwise_append] at h
  exact h.2.2 tied htied last (by simp) (htarget.trans hlast.target_eq.symm) hnow

/-- **Last writer wins, but for ties.**  The updates return, and a query returns the
overlay of the last update of its target, exactly when the updates of each target
on the reading of its last one all have that overlay. -/
theorem lastWriterWins_iff (updates : List (PromptUpdate floats))
    (hclock : updates.Pairwise fun a b => a.now ≤ b.now) :
    (∃ rows, promptOverlays updates = .ok rows ∧ LastWriterWins updates rows) ↔
      ∀ target, Settled updates target := by
  constructor
  · rintro ⟨rows, hrows, hwins⟩ target before last after hlast tied htied htarget hnow
    -- the tied update is one of the newest too, so some scan returns its overlay
    have hmem : tied ∈ updates := by simp [hlast.split, htied]
    have hnewest : ∀ update ∈ updates, update.target = tied.target → update.now ≤ tied.now := by
      intro update hupdate hsame
      rw [hlast.split, List.mem_append, List.mem_cons] at hupdate
      rw [hlast.split, List.pairwise_append] at hclock
      rcases hupdate with hbefore | rfl | hafter
      · rw [hnow]
        exact hclock.2.2 update hbefore last (by simp)
      · rw [hnow]
      · exact absurd (hsame.trans htarget) (hlast.latest update hafter)
    obtain ⟨scanned, hperm, hoverlay⟩ := exists_scanned_newest hmem hnewest
    rw [← hoverlay, htarget, hwins.scannedOverlay_eq hrows hperm, hlast.latestOverlay_eq]
  · intro hsettled
    obtain ⟨rows, hrows, -⟩ := exists_promptOverlays updates
    refine ⟨rows, hrows, fun target scan hscan =>
      (hsettled target).getPromptPolicy_eq hclock hrows hscan, ?_⟩
    rintro target before after rows₀ scan₀ scan rfl hother hrows₀ hscan₀ hscan
    have hbefore := (hsettled target).of_append hother
    have hclock₀ := (List.pairwise_append.mp hclock).1
    rw [(hsettled target).getPromptPolicy_eq hclock hrows hscan,
      hbefore.getPromptPolicy_eq hclock₀ hrows₀ hscan₀, latestOverlay_append hother]

end Updates

/-- An update that sets the tone of a target. -/
def setTone (target tone : String) (now : Int) : PromptUpdate Reference.wholeFloats where
  target
  overlay := [("tone", .str tone), ("temperature", .float 1)]
  json := by
    refine .dict (by simp) fun kv hkv => ?_
    simp only [List.mem_cons, List.not_mem_nil, or_false] at hkv
    rcases hkv with rfl | rfl
    · exact .str tone
    · exact .float ⟨1, by decide, rfl⟩
  now

/-- The optimizer is retuned, and so is the planner in between. -/
theorem lastWriterWins_iff_retuned :
    let updates := [setTone "optimizer" "calm" 0, setTone "planner" "terse" 0,
      setTone "optimizer" "terse" 1]
    ∃ rows, promptOverlays updates = .ok rows ∧ LastWriterWins updates rows :=
  (lastWriterWins_iff _ (by simp [setTone])).mpr
    (settled_of_pairwise (by simp [setTone]))

/-- Two updates of one target at one reading of the clock: the first may win. -/
theorem first_writer_wins :
    let updates := [setTone "optimizer" "calm" 0, setTone "optimizer" "terse" 0]
    updates.Pairwise (fun a b => a.now ≤ b.now) ∧
      ¬ ∃ rows, promptOverlays updates = .ok rows ∧ LastWriterWins updates rows := by
  intro updates
  refine ⟨by simp [updates, setTone], ?_⟩
  rintro ⟨rows, hrows, hwins⟩
  have hfirst : setTone "optimizer" "calm" 0 ∈ updates := by simp [updates]
  obtain ⟨scanned, hperm, hoverlay⟩ := exists_scanned_newest hfirst
    (by simp [updates, setTone])
  rw [hwins.scannedOverlay_eq hrows hperm] at hoverlay
  simp [updates, setTone, latestOverlay, Register.replay, Register.Write.apply,
    PromptUpdate.write] at hoverlay

end Blackboard

end Gestalt
