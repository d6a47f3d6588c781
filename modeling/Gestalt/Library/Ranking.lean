import Mathlib.Data.List.Nodup
import Mathlib.Data.List.Perm.Basic
import Mathlib.Data.List.Perm.Subperm
import Mathlib.Order.Lattice

/-!
# Gestalt.Library.Ranking

Stable rankings.

A list is ranked by a key when higher keys come first and elements with one key
stay in the order they had.  There is exactly one such ranking, the stable sort
produces it, and leaving elements out before ranking or after it makes no
difference.
-/

namespace Ranking

variable {α ι : Type} [LinearOrder ι]

/-- `sorted(xs, key=key, reverse=True)`. -/
def rank (key : α → ι) (xs : List α) : List α := xs.mergeSort fun a b => decide (key b ≤ key a)

/-- `ys` is `xs` ranked: higher keys first, and those with one key as before. -/
structure IsRanking (key : α → ι) (xs ys : List α) : Prop where
  ordered : ys.Pairwise fun a b => key b ≤ key a
  stable : ∀ k, ys.filter (fun a => key a = k) = xs.filter fun a => key a = k

variable {key : α → ι} {xs ys zs : List α}

theorem rank_perm (key : α → ι) (xs : List α) : (rank key xs).Perm xs := List.mergeSort_perm ..

@[simp] theorem mem_rank {a : α} : a ∈ rank key xs ↔ a ∈ xs := (rank_perm key xs).mem_iff

theorem pairwise_rank (key : α → ι) (xs : List α) :
    (rank key xs).Pairwise fun a b => key b ≤ key a := by
  refine (List.pairwise_mergeSort ?_ ?_ xs).imp fun h => of_decide_eq_true h
  · intro a b c hab hbc
    simp only [decide_eq_true_eq] at hab hbc ⊢
    exact hbc.trans hab
  · intro a b
    simpa using le_total (key b) (key a)

/-- The stable sort is a ranking. -/
theorem isRanking_rank (key : α → ι) (xs : List α) : IsRanking key xs (rank key xs) := by
  refine ⟨pairwise_rank key xs, fun k => ?_⟩
  -- the elements with one key are in order already, so sorting keeps them as a sublist
  have hclass : (xs.filter fun a => key a = k).Pairwise
      fun a b => decide (key b ≤ key a) = true := by
    refine List.pairwise_of_forall_mem_list fun a ha b hb => ?_
    have hkey : key a = k := of_decide_eq_true (List.mem_filter.mp ha).2
    have hkey' : key b = k := of_decide_eq_true (List.mem_filter.mp hb).2
    rw [hkey, hkey', decide_eq_true le_rfl]
  have hsublist : (xs.filter fun a => key a = k).Sublist (rank key xs) := by
    refine List.sublist_mergeSort ?_ ?_ hclass List.filter_sublist
    · intro a b c hab hbc
      simp only [decide_eq_true_eq] at hab hbc ⊢
      exact hbc.trans hab
    · intro a b
      simpa using le_total (key b) (key a)
  have hfilter := hsublist.filter fun a => decide (key a = k)
  rw [List.filter_filter] at hfilter
  simp only [Bool.and_self] at hfilter
  exact (hfilter.eq_of_length ((rank_perm key xs).filter _).length_eq.symm).symm

/-- What comes first has the highest key. -/
theorem le_head_of_pairwise {a b : α} (h : (a :: xs).Pairwise fun a b => key b ≤ key a)
    (hb : b ∈ a :: xs) : key b ≤ key a := by
  rcases List.mem_cons.mp hb with rfl | hb
  · exact le_rfl
  · exact List.rel_of_pairwise_cons h hb

/-- There is one ranking. -/
theorem IsRanking.unique (hy : IsRanking key xs ys) (hz : IsRanking key xs zs) : ys = zs := by
  have hstable : ∀ k, ys.filter (fun a => key a = k) = zs.filter fun a => key a = k :=
    fun k => (hy.stable k).trans (hz.stable k).symm
  have hyo := hy.ordered
  have hzo := hz.ordered
  clear hy hz
  induction ys generalizing zs with
  | nil =>
      cases zs with
      | nil => rfl
      | cons z zs =>
          have hz := hstable (key z)
          simp at hz
  | cons y ys ih =>
      cases zs with
      | nil =>
          have hy := hstable (key y)
          simp at hy
      | cons z zs =>
          have hmem : ∀ a, a ∈ y :: ys ↔ a ∈ z :: zs := by
            intro a
            simpa using congrArg (a ∈ ·) (hstable (key a))
          have hkey : key y = key z :=
            le_antisymm (le_head_of_pairwise hzo ((hmem y).mp (List.mem_cons_self ..)))
              (le_head_of_pairwise hyo ((hmem z).mpr (List.mem_cons_self ..)))
          have hfirst := hstable (key y)
          simp only [List.filter_cons, hkey, decide_true, if_true, List.cons.injEq] at hfirst
          obtain ⟨rfl, -⟩ := hfirst
          have htail : ∀ k, ys.filter (fun a => key a = k) = zs.filter fun a => key a = k := by
            intro k
            have hk := hstable k
            simp only [List.filter_cons] at hk
            split at hk
            · exact (List.cons.inj hk).2
            · exact hk
          rw [ih htail hyo.of_cons hzo.of_cons]

/-- Elements may be left out before ranking or after it. -/
theorem rank_filter (key : α → ι) (xs : List α) (p : α → Bool) :
    rank key (xs.filter p) = (rank key xs).filter p := by
  have hrank := isRanking_rank key xs
  have hclass : ∀ k, ((rank key xs).filter p).filter (fun a => key a = k)
      = (xs.filter p).filter fun a => key a = k := by
    intro k
    rw [List.filter_filter, List.filter_filter]
    simp only [Bool.and_comm (decide _) (p _)]
    rw [← List.filter_filter, hrank.stable k, List.filter_filter]
  have hfiltered : IsRanking key (xs.filter p) ((rank key xs).filter p) :=
    ⟨hrank.ordered.filter p, hclass⟩
  exact (hfiltered.unique (isRanking_rank key _)).symm

theorem map_rank {β : Type} (f : α → β) {key' : β → ι} (hkey : ∀ a ∈ xs, key' (f a) = key a) :
    (rank key xs).map f = rank key' (xs.map f) := by
  refine List.map_mergeSort fun a ha b hb => ?_
  rw [hkey a ha, hkey b hb]

/-- Ranking two lists related item by item, by keys that agree, keeps them so. -/
theorem forall₂_rank {β : Type} {R : α → β → Prop} {key' : β → ι}
    (hkey : ∀ a b, R a b → key a = key' b) {bs : List β} (h : List.Forall₂ R xs bs) :
    List.Forall₂ R (rank key xs) (rank key' bs) := by
  obtain ⟨hlength, hrel⟩ := List.forall₂_iff_zip.mp h
  have hpairs : ∀ p ∈ xs.zip bs, R p.1 p.2 := fun p hp => hrel hp
  have hfst : (xs.zip bs).map Prod.fst = xs := List.map_fst_zip (Nat.le_of_eq hlength)
  have hsnd : (xs.zip bs).map Prod.snd = bs := List.map_snd_zip (Nat.le_of_eq hlength.symm)
  have hleft : rank key xs = (rank (fun p => key p.1) (xs.zip bs)).map Prod.fst := by
    rw [map_rank Prod.fst (fun _ _ => rfl), hfst]
  have hright : rank key' bs = (rank (fun p => key p.1) (xs.zip bs)).map Prod.snd := by
    rw [map_rank Prod.snd (fun p hp => (hkey p.1 p.2 (hpairs p hp)).symm), hsnd]
  rw [hleft, hright, List.forall₂_map_left_iff, List.forall₂_map_right_iff, List.forall₂_same]
  exact fun p hp => hpairs p (mem_rank.mp hp)

/-- What comes with ever higher keys is ranked backwards. -/
theorem rank_eq_reverse (h : xs.Pairwise fun a b => key a < key b) :
    rank key xs = xs.reverse := by
  have hnodup : (xs.map key).Nodup := List.pairwise_map.mpr (h.imp fun hlt => hlt.ne)
  have hreverse : xs.reverse.Pairwise fun a b => key b ≤ key a := by
    rw [List.pairwise_reverse]
    exact h.imp le_of_lt
  refine List.Perm.eq_of_pairwise ?_ (pairwise_rank key xs) hreverse
    ((rank_perm key xs).trans (List.reverse_perm xs).symm)
  intro a b ha hb hab hba
  exact List.inj_on_of_nodup_map hnodup (mem_rank.mp ha) (List.mem_reverse.mp hb)
    (le_antisymm hba hab)

/-! ## the first of a ranking -/

/-- The first has the highest key. -/
theorem of_head?_rank {a : α} (h : (rank key xs).head? = some a) :
    a ∈ xs ∧ ∀ b ∈ xs, key b ≤ key a := by
  have hordered := pairwise_rank key xs
  have hmem : ∀ b ∈ xs, b ∈ rank key xs := fun b hb => mem_rank.mpr hb
  have ha : a ∈ rank key xs := List.mem_of_head? h
  cases hrank : rank key xs with
  | nil => simp [hrank] at h
  | cons first rest =>
      obtain rfl : first = a := by simpa [hrank] using h
      rw [hrank] at hordered hmem
      exact ⟨mem_rank.mp ha, fun b hb => le_head_of_pairwise hordered (hmem b hb)⟩

/-- **The first of a ranking, however ties are broken.**  In some order of the list
it is any element with the highest key. -/
theorem exists_perm_head?_rank {a : α} :
    (∃ ys, ys.Perm xs ∧ (rank key ys).head? = some a) ↔ a ∈ xs ∧ ∀ b ∈ xs, key b ≤ key a := by
  constructor
  · rintro ⟨ys, hperm, hhead⟩
    obtain ⟨hmem, hmax⟩ := of_head?_rank hhead
    exact ⟨hperm.mem_iff.mp hmem, fun b hb => hmax b (hperm.mem_iff.mpr hb)⟩
  · rintro ⟨hmem, hmax⟩
    obtain ⟨before, after, rfl⟩ := List.append_of_mem hmem
    -- put before the others, which are ranked, it is in its place already
    have hperm : (a :: rank key (before ++ after)).Perm (before ++ a :: after) :=
      ((rank_perm key _).cons a).trans List.perm_middle.symm
    have hordered : (a :: rank key (before ++ after)).Pairwise fun b c => key c ≤ key b :=
      List.pairwise_cons.mpr ⟨fun b hb => hmax b (hperm.mem_iff.mp (List.mem_cons_of_mem a hb)),
        pairwise_rank key _⟩
    refine ⟨_, hperm, ?_⟩
    rw [rank, List.mergeSort_of_pairwise (hordered.imp fun h => decide_eq_true h)]
    rfl

/-- What is left out of the first `n` has no higher key than what is among them. -/
theorem le_of_mem_take_of_not_mem {n : Nat} {a b : α} (ha : a ∈ (rank key xs).take n)
    (hb : b ∈ xs) (hout : b ∉ (rank key xs).take n) : key b ≤ key a := by
  have hdrop : b ∈ (rank key xs).drop n := by
    have hmem : b ∈ rank key xs := mem_rank.mpr hb
    rw [← List.take_append_drop n (rank key xs), List.mem_append] at hmem
    exact hmem.resolve_left hout
  have hordered := pairwise_rank key xs
  rw [← List.take_append_drop n (rank key xs), List.pairwise_append] at hordered
  exact hordered.2.2 a ha b hdrop

/-- A ranked list is what has a higher key, what has the key, and what has a lower one. -/
theorem eq_append_of_pairwise (h : xs.Pairwise fun a b => key b ≤ key a) (k : ι) :
    xs = xs.filter (fun a => k < key a) ++
      (xs.filter (fun a => key a = k) ++ xs.filter fun a => key a < k) := by
  induction xs with
  | nil => rfl
  | cons a xs ih =>
      have hle : ∀ b ∈ xs, key b ≤ key a := fun b hb => List.rel_of_pairwise_cons h hb
      rcases lt_trichotomy k (key a) with hk | rfl | hk
      · conv_lhs => rw [ih h.of_cons]
        simp [hk, hk.ne', hk.le.not_gt]
      · have habove : xs.filter (fun b => key a < key b) = [] := by
          simpa [List.filter_eq_nil_iff] using hle
        have hrest := ih h.of_cons
        rw [habove, List.nil_append] at hrest
        conv_lhs => rw [hrest]
        simp [habove]
      · have hbelow : ∀ b ∈ xs, key b < k := fun b hb => (hle b hb).trans_lt hk
        have habove : xs.filter (fun b => k < key b) = [] := by
          simpa [List.filter_eq_nil_iff] using fun b hb => (hbelow b hb).le
        have hequal : xs.filter (fun b => key b = k) = [] := by
          simpa [List.filter_eq_nil_iff] using fun b hb => (hbelow b hb).ne
        have hall : xs.filter (fun b => key b < k) = xs := by
          simpa [List.filter_eq_self] using hbelow
        simp [habove, hequal, hall, hk, hk.ne, hk.le.not_gt]

/-- An element of a list is its head or comes after it. -/
theorem exists_split_cons {P : List α → Prop} {a b : α} :
    (∃ before after, b :: xs = before ++ a :: after ∧ P before) ↔
      (a = b ∧ P []) ∨ ∃ before after, xs = before ++ a :: after ∧ P (b :: before) := by
  constructor
  · rintro ⟨before, after, hxs, hP⟩
    cases before with
    | nil =>
        rw [List.nil_append, List.cons.injEq] at hxs
        exact .inl ⟨hxs.1.symm, hP⟩
    | cons c before =>
        rw [List.cons_append, List.cons.injEq] at hxs
        obtain ⟨rfl, hxs⟩ := hxs
        exact .inr ⟨before, after, hxs, hP⟩
  · rintro (⟨rfl, hP⟩ | ⟨before, after, rfl, hP⟩)
    · exact ⟨[], xs, rfl, hP⟩
    · exact ⟨b :: before, after, rfl, hP⟩

/-- An element is among the first `m` that are kept when fewer are kept before it. -/
theorem mem_take_filter_iff {p : α → Bool} {a : α} (hp : p a = true) {m : Nat} :
    a ∈ (xs.filter p).take m ↔
      ∃ before after, xs = before ++ a :: after ∧ before.countP p < m := by
  induction xs generalizing m with
  | nil => simp
  | cons b xs ih =>
      rw [exists_split_cons]
      by_cases hb : p b = true
      · cases m with
        | zero => simp
        | succ m => simp [hb, ih]
      · have hne : a ≠ b := by
          rintro rfl
          exact hb hp
        simp [hb, ih, hne]

/-- **The place of an element.**  It is among the first `n` when fewer than `n` have a
higher key or the same key and come before it. -/
theorem mem_take_rank_iff {a : α} {n : Nat} :
    a ∈ (rank key xs).take n ↔ ∃ before after, xs = before ++ a :: after ∧
      xs.countP (fun b => key a < key b) + before.countP (fun b => key b = key a) < n := by
  have hsplit := eq_append_of_pairwise (pairwise_rank key xs) (key a)
  have hlength : ((rank key xs).filter fun b => key a < key b).length =
      xs.countP fun b => key a < key b := by
    rw [← List.countP_eq_length_filter, (rank_perm key xs).countP_eq]
  have hmem : a ∈ (rank key xs).take n ↔ a ∈ (xs.filter fun b => key b = key a).take
      (n - xs.countP fun b => key a < key b) := by
    rw [hsplit, List.take_append, List.take_append, hlength, (isRanking_rank key xs).stable]
    constructor
    · intro h
      rcases List.mem_append.mp h with h | h
      · simpa using List.mem_of_mem_take h
      · rcases List.mem_append.mp h with h | h
        · exact h
        · simpa using List.mem_of_mem_take h
    · intro h
      exact List.mem_append_right _ (List.mem_append_left _ h)
  rw [hmem, mem_take_filter_iff (by simp)]
  refine exists_congr fun before => exists_congr fun after => and_congr_right fun _ => ?_
  omega

/-- The first `limit` of those with a key above `least`, ranked. -/
def top (key : α → ι) (least : ι) (limit : Nat) (xs : List α) : List α :=
  ((rank key xs).filter fun a => least < key a).take limit

/-- What a search for the best of `xs` should return. -/
structure IsTop (key : α → ι) (least : ι) (limit : Nat) (xs ys : List α) : Prop where
  ranked : ∃ ranking, IsRanking key (xs.filter fun a => least < key a) ranking ∧
    ys = ranking.take limit
  length : ys.length = min limit (xs.countP fun a => least < key a)
  best : ∀ kept ∈ ys, ∀ left ∈ xs, left ∉ ys → key left ≤ key kept
  nodup : xs.Nodup → ys.Nodup

variable {least : ι} {limit : Nat}

theorem top_eq (key : α → ι) (least : ι) (limit : Nat) (xs : List α) :
    top key least limit xs = (rank key (xs.filter fun a => least < key a)).take limit := by
  rw [top, rank_filter]

theorem of_mem_top {a : α} (h : a ∈ top key least limit xs) : a ∈ xs ∧ least < key a := by
  rw [top_eq] at h
  simpa using List.mem_of_mem_take h

/-- What is worth returning comes first, so the first of it are among the first of all. -/
theorem mem_top_iff {a : α} :
    a ∈ top key least limit xs ↔ least < key a ∧ a ∈ (rank key xs).take limit := by
  have hsplit := eq_append_of_pairwise (pairwise_rank key xs) least
  constructor
  · intro h
    refine ⟨(of_mem_top h).2, ?_⟩
    rw [hsplit, List.take_append]
    exact List.mem_append_left _ h
  · rintro ⟨hworth, h⟩
    rw [hsplit, List.take_append] at h
    rcases List.mem_append.mp h with h | h
    · exact h
    · rcases List.mem_append.mp (List.mem_of_mem_take h) with h | h
      · have hkey : key a = least := by simpa using (List.mem_filter.mp h).2
        exact absurd hworth hkey.not_gt
      · have hkey : key a < least := by simpa using (List.mem_filter.mp h).2
        exact absurd hworth hkey.not_gt

theorem isTop_top (key : α → ι) (least : ι) (limit : Nat) (xs : List α) :
    IsTop key least limit xs (top key least limit xs) := by
  refine ⟨⟨_, isRanking_rank key _, top_eq ..⟩, ?_, ?_, ?_⟩
  · rw [top_eq, List.length_take, (rank_perm ..).length_eq, List.countP_eq_length_filter]
  · intro kept hkept left hleft hout
    have hkept' := (of_mem_top hkept).2
    rw [top_eq] at hkept hout
    by_cases hworth : least < key left
    · exact le_of_mem_take_of_not_mem hkept (List.mem_filter.mpr ⟨hleft, by simpa⟩) hout
    · exact (not_lt.mp hworth).trans hkept'.le
  · intro hnodup
    rw [top_eq]
    exact (((rank_perm ..).nodup_iff.mpr (hnodup.filter _)).sublist (List.take_sublist ..))

/-- Leaving elements out that are not among the first changes nothing. -/
theorem take_filter_of_forall {n : Nat} {p : α → Bool} (h : ∀ a ∈ xs.take n, p a = true) :
    (xs.filter p).take n = xs.take n := by
  conv_lhs => rw [← List.take_append_drop n xs, List.filter_append, List.filter_eq_self.mpr h]
  by_cases hn : n ≤ xs.length
  · rw [List.take_append_of_le_length (by simp [hn]), List.take_take, Nat.min_self]
  · rw [List.drop_eq_nil_of_le (Nat.le_of_not_le hn), List.filter_nil, List.append_nil,
      List.take_take, Nat.min_self]

/-- The elements kept of a prefix are a prefix of those kept. -/
theorem filter_take (n : Nat) (p : α → Bool) (xs : List α) :
    (xs.take n).filter p = (xs.filter p).take ((xs.take n).countP p) := by
  conv_rhs => rw [← List.take_append_drop n xs, List.filter_append]
  rw [List.take_append_drop, List.countP_eq_length_filter, List.take_left]

/-- **The best of a shorter window.**  Of a window without duplicates a prefix is
left: the best are the same exactly when all of them are in the prefix. -/
theorem top_take_eq_iff {n m : Nat} (hnodup : xs.Nodup) (hnm : n ≤ m) :
    top key least limit (xs.take n) = top key least limit (xs.take m) ↔
      ∀ a ∈ top key least limit (xs.take m), a ∈ xs.take n := by
  classical
  constructor
  · intro heq a ha
    exact (of_mem_top (heq ▸ ha)).1
  · intro hall
    have hbegins : xs.take n = (xs.take m).filter fun a => decide (a ∈ xs.take n) := by
      have htake := List.Nodup.take_eq_filter_mem (n := n) (hnodup.sublist (List.take_sublist m xs))
      rw [List.take_take, Nat.min_eq_left hnm] at htake
      conv_lhs => rw [htake]
      exact List.filter_congr fun a _ => List.elem_eq_contains.trans (by simp)
    have hkept : ∀ a ∈ (rank key ((xs.take m).filter fun a => least < key a)).take limit,
        decide (a ∈ xs.take n) = true := by
      intro a ha
      rw [← top_eq] at ha
      exact decide_eq_true (hall a ha)
    rw [top_eq, top_eq, hbegins, List.filter_filter]
    simp only [Bool.and_comm (decide (least < key _))]
    rw [← List.filter_filter, rank_filter, take_filter_of_forall hkept]

/-- Leaving out what is not worth returning does not change the best. -/
theorem top_filter (key : α → ι) (least : ι) (limit : Nat) (xs : List α) :
    top key least limit (xs.filter fun a => least < key a) = top key least limit xs := by
  rw [top_eq, top_eq, List.filter_filter]
  simp only [Bool.and_self]

/-- What is in a sublist is all of it that is kept of a list without duplicates. -/
theorem filter_mem_eq [DecidableEq α] (h : xs.Sublist ys) (hnodup : ys.Nodup) :
    ys.filter (fun a => decide (a ∈ xs)) = xs := by
  have hxs : xs.filter (fun a => decide (a ∈ xs)) = xs := List.filter_eq_self.mpr (by simp)
  have hsublist : xs.Sublist (ys.filter fun a => decide (a ∈ xs)) := by
    conv_lhs => rw [← hxs]
    exact h.filter _
  have hsubset : ys.filter (fun a => decide (a ∈ xs)) ⊆ xs := by
    intro a ha
    simpa using (List.mem_filter.mp ha).2
  exact (hsublist.eq_of_length_le (List.subperm_of_subset (hnodup.filter _) hsubset).length_le).symm

/-- **The best of the most recent.**  Elements that are not worth returning are
added to `xs`: the best of the `n` most recent stay the same exactly when these
are among the `n` most recent still. -/
theorem top_recent_eq_iff {κ : Type} [LinearOrder κ] {recency : α → κ} (hsub : xs.Sublist ys)
    (hnodup : ys.Nodup) (hadded : ∀ a ∈ ys, a ∉ xs → ¬ least < key a) (n : Nat) :
    top key least limit ((rank recency ys).take n) =
        top key least limit ((rank recency xs).take n) ↔
      ∀ a ∈ top key least limit ((rank recency xs).take n), a ∈ (rank recency ys).take n := by
  classical
  have hkept : ∀ m, ((rank recency ys).take m).filter (fun a => decide (a ∈ xs)) =
      (rank recency xs).take (((rank recency ys).take m).countP fun a => decide (a ∈ xs)) := by
    intro m
    rw [filter_take, ← rank_filter, filter_mem_eq hsub hnodup]
  have hworth : ((rank recency ys).take n).filter (fun a => least < key a) =
      (((rank recency ys).take n).filter fun a => decide (a ∈ xs)).filter
        fun a => least < key a := by
    rw [List.filter_filter]
    refine List.filter_congr fun a ha => ?_
    have hmem : a ∈ ys := mem_rank.mp (List.mem_of_mem_take ha)
    by_cases hxs : a ∈ xs
    · simp [hxs]
    · simp [hxs, hadded a hmem hxs]
  rw [← top_filter key least limit ((rank recency ys).take n), hworth, top_filter, hkept,
    top_take_eq_iff ((rank_perm ..).nodup_iff.mpr (hnodup.sublist hsub))
      (Nat.le_trans List.countP_le_length (List.length_take_le ..)), ← hkept]
  refine forall₂_congr fun a ha => ?_
  have hmem : a ∈ xs := mem_rank.mp (List.mem_of_mem_take (of_mem_top ha).1)
  simp [hmem]

end Ranking
