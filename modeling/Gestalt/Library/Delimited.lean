import Mathlib.Data.List.Infix

/-!
# Gestalt.Library.Delimited

Prefixes of delimited texts.

A text is read up to the first delimiter, then on from there.  Comparing two
texts as strings compares the parts before the delimiters first, so a prefix
either goes past a delimiter, and then the parts before it are equal, or it
stops inside the first part of the longer text.
-/

namespace Delimited

variable {α : Type}

/-- A text without delimiters. -/
def Plain (delimiter : α → Prop) (text : List α) : Prop := ∀ c ∈ text, ¬ delimiter c

/-- A text that is empty or begins with a delimiter. -/
def Opens (delimiter : α → Prop) (text : List α) : Prop := ∀ c ∈ text.head?, delimiter c

variable {delimiter : α → Prop}

instance [DecidablePred delimiter] (text : List α) : Decidable (Plain delimiter text) :=
  decidable_of_iff (text.all (fun c => !decide (delimiter c)) = true) (by simp [Plain])

theorem plain_nil : Plain delimiter [] := by simp [Plain]

theorem opens_nil : Opens delimiter [] := by simp [Opens]

theorem opens_cons {c : α} {text : List α} : Opens delimiter (c :: text) ↔ delimiter c := by
  simp [Opens]

theorem Plain.of_cons {c : α} {text : List α} (h : Plain delimiter (c :: text)) :
    ¬ delimiter c ∧ Plain delimiter text := by
  simpa [Plain] using h

theorem Plain.append {a b : List α} (ha : Plain delimiter a) (hb : Plain delimiter b) :
    Plain delimiter (a ++ b) := by
  intro c hc
  rcases List.mem_append.mp hc with h | h
  · exact ha c h
  · exact hb c h

/-- A prefix reaches past the first delimiter or stops before it. -/
theorem append_prefix_append_iff {a w x y : List α} (ha : Plain delimiter a)
    (hw : Plain delimiter w) (hx : Opens delimiter x) (hy : Opens delimiter y) :
    a ++ x <+: w ++ y ↔ (a = w ∧ x <+: y) ∨ (x = [] ∧ a <+: w) := by
  induction a generalizing w with
  | nil =>
      cases x with
      | nil => simp
      | cons c x =>
          have hc := opens_cons.mp hx
          cases w with
          | nil => simp
          | cons d w =>
              have hd := hw.of_cons.1
              have hne : c ≠ d := by
                rintro rfl
                exact hd hc
              simp [List.cons_prefix_cons, hne]
  | cons c a ih =>
      have hc := ha.of_cons
      cases w with
      | nil =>
          cases y with
          | nil => simp
          | cons d y =>
              have hd := opens_cons.mp hy
              have hne : c ≠ d := by
                rintro rfl
                exact hc.1 hd
              simp [List.cons_prefix_cons, hne]
      | cons d w =>
          simp only [List.cons_append, List.cons_prefix_cons, ih hc.2 hw.of_cons.2,
            List.cons.injEq]
          tauto

/-- Words, each after a separator. -/
def separated (separator : α) (words : List (List α)) : List α :=
  words.flatMap fun word => separator :: word

variable {separator : α}

@[simp] theorem separated_nil : separated separator [] = [] := rfl

@[simp] theorem separated_cons (word : List α) (words : List (List α)) :
    separated separator (word :: words) = separator :: (word ++ separated separator words) := by
  simp [separated]

theorem opens_separated (words : List (List α)) :
    Opens (· = separator) (separated separator words) := by
  cases words with
  | nil => exact opens_nil
  | cons word words => simp [opens_cons]

/-- Of a prefix every word but the last is a word of the longer text, and the
last one begins the word at its place. -/
theorem separated_prefix_iff {init : List (List α)} {last : List α} {words : List (List α)}
    (hinit : ∀ word ∈ init, Plain (· = separator) word) (hlast : Plain (· = separator) last)
    (hwords : ∀ word ∈ words, Plain (· = separator) word) :
    separated separator (init ++ [last]) <+: separated separator words ↔
      ∃ word rest, words = init ++ word :: rest ∧ last <+: word := by
  induction init generalizing words with
  | nil =>
      cases words with
      | nil => simp
      | cons word words =>
          have hword := hwords word (List.mem_cons_self ..)
          have hcompare := append_prefix_append_iff hlast hword opens_nil (opens_separated words)
          simp only [List.append_nil] at hcompare
          simp only [List.nil_append, separated_cons, separated_nil, List.append_nil,
            List.cons_prefix_cons, true_and, hcompare, List.cons.injEq]
          constructor
          · rintro (h | h)
            · exact ⟨word, words, ⟨rfl, rfl⟩, h.1 ▸ List.prefix_refl _⟩
            · exact ⟨word, words, ⟨rfl, rfl⟩, h⟩
          · rintro ⟨_, _, ⟨rfl, rfl⟩, h⟩
            exact Or.inr h
  | cons first init ih =>
      have hfirst := hinit first (List.mem_cons_self ..)
      have hrest := fun word hword => hinit word (List.mem_cons_of_mem _ hword)
      cases words with
      | nil => simp
      | cons word words =>
          have hword := hwords word (List.mem_cons_self ..)
          have hcompare := append_prefix_append_iff hfirst hword
            (opens_separated (init ++ [last])) (opens_separated words)
          have hnonempty : separated separator (init ++ [last]) ≠ [] := by
            cases init <;> simp
          simp only [List.cons_append, separated_cons, List.cons_prefix_cons, true_and, hcompare,
            hnonempty, false_and, or_false,
            ih hrest fun w hw => hwords w (List.mem_cons_of_mem _ hw), List.cons.injEq]
          constructor
          · rintro ⟨rfl, w, rest, rfl, h⟩
            exact ⟨w, rest, ⟨rfl, rfl⟩, h⟩
          · rintro ⟨w, rest, ⟨rfl, rfl⟩, h⟩
            exact ⟨rfl, w, rest, rfl, h⟩

end Delimited
