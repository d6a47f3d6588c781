import Gestalt.Library.Delimited

/-!
# Gestalt.Library.Words

The words of a text.

Words are what is left between the white space of a text.  A word has no white
space in it, so it occurs in texts joined with white space exactly when it
occurs in one of them; that is not so of a phrase of several words, or of none.
-/

namespace Words

open Delimited

variable {α : Type} {space : α → Bool}

/-- `text.split()`. -/
def words (space : α → Bool) (text : List α) : List (List α) :=
  (text.splitOnP space).filter fun word => !word.isEmpty

/-- A text without white space. -/
abbrev Solid (space : α → Bool) (word : List α) : Prop := Plain (fun c => space c = true) word

/-! ## the words of a text -/

/-- The pieces of a text are in it and have no white space: the first one opens it. -/
theorem splitOnP_pieces (space : α → Bool) (text : List α) :
    ∃ first rest, text.splitOnP space = first :: rest ∧ (first <+: text ∧ Solid space first) ∧
      ∀ piece ∈ rest, piece <:+: text ∧ Solid space piece := by
  induction text with
  | nil => exact ⟨[], [], rfl, ⟨List.prefix_rfl, plain_nil⟩, by simp⟩
  | cons c text ih =>
      obtain ⟨first, rest, hsplit, ⟨hfirst, hsolid⟩, hrest⟩ := ih
      have hlater : ∀ piece ∈ rest, piece <:+: c :: text ∧ Solid space piece := fun piece hmem =>
        ⟨(hrest piece hmem).1.trans (List.suffix_cons c text).isInfix, (hrest piece hmem).2⟩
      rw [List.splitOnP_cons_eq_if_modifyHead, hsplit]
      by_cases hc : space c = true
      · refine ⟨[], first :: rest, by simp [hc], ⟨List.nil_prefix, plain_nil⟩, ?_⟩
        intro piece hmem
        rcases List.mem_cons.mp hmem with rfl | hmem
        · exact ⟨hfirst.isInfix.trans (List.suffix_cons c text).isInfix, hsolid⟩
        · exact hlater piece hmem
      · refine ⟨c :: first, rest, by simp [hc], ⟨?_, ?_⟩, hlater⟩
        · exact List.cons_prefix_cons.mpr ⟨rfl, hfirst⟩
        · intro d hd
          rcases List.mem_cons.mp hd with rfl | hd
          · exact hc
          · exact hsolid d hd

/-- A word occurs in its text, is not empty and has no white space. -/
theorem of_mem_words {text word : List α} (h : word ∈ words space text) :
    word <:+: text ∧ word ≠ [] ∧ Solid space word := by
  obtain ⟨first, rest, hsplit, ⟨hfirst, hsolid⟩, hrest⟩ := splitOnP_pieces space text
  rw [words, List.mem_filter, hsplit] at h
  have hne : word ≠ [] := by simpa using h.2
  rcases List.mem_cons.mp h.1 with rfl | hmem
  · exact ⟨hfirst.isInfix, hne, hsolid⟩
  · exact ⟨(hrest word hmem).1, hne, (hrest word hmem).2⟩

/-! ## words in joined texts -/

/-- A solid prefix stops before the first white space. -/
theorem prefix_of_prefix_append_cons {word a b : List α} {c : α} (hword : Solid space word)
    (hc : space c = true) (h : word <+: a ++ c :: b) : word <+: a := by
  induction a generalizing word with
  | nil =>
      cases word with
      | nil => exact List.nil_prefix
      | cons d word =>
          rw [List.nil_append, List.cons_prefix_cons] at h
          exact absurd (h.1 ▸ hc) hword.of_cons.1
  | cons e a ih =>
      cases word with
      | nil => exact List.nil_prefix
      | cons d word =>
          rw [List.cons_append, List.cons_prefix_cons] at h
          exact List.cons_prefix_cons.mpr ⟨h.1, ih hword.of_cons.2 h.2⟩

/-- **Across white space.**  A solid word occurs in two texts joined with white
space exactly when it occurs in one of them. -/
theorem infix_append_cons_iff {word a b : List α} {c : α} (hword : Solid space word)
    (hc : space c = true) : word <:+: a ++ c :: b ↔ word <:+: a ∨ word <:+: b := by
  constructor
  · intro h
    induction a with
    | nil =>
        rw [List.nil_append, List.infix_cons_iff] at h
        rcases h with h | h
        · exact .inl (prefix_of_prefix_append_cons (a := []) hword hc h).isInfix
        · exact .inr h
    | cons d a ih =>
        rw [List.cons_append, List.infix_cons_iff] at h
        rcases h with h | h
        · exact .inl (prefix_of_prefix_append_cons (a := d :: a) hword hc h).isInfix
        · rcases ih h with h | h
          · exact .inl (h.trans (List.suffix_cons d a).isInfix)
          · exact .inr h
  · rintro (h | h)
    · exact h.trans (List.prefix_append a (c :: b)).isInfix
    · exact h.trans ((List.suffix_cons c b).trans (List.suffix_append a (c :: b))).isInfix

end Words
