import Gestalt.Library.Json.Tokens
import Mathlib.Data.List.Forall2

/-!
# Gestalt.Library.Json

The texts of JSON values.

`dumps` writes as Python's `json` does, with a blank after each comma and each
colon.  `loads` reads any JSON text, with white space between the tokens.  What is
read of a text that was written is the value that was written (`loads_dumps`).
-/

namespace Json

/-! ## sequences -/

/-- White space between tokens. -/
def isBlank (c : Char) : Bool := c ∈ [' ', '\t', '\n', '\r']

/-- Go to the next token. -/
def skip (cs : List Char) : List Char := cs.dropWhile isBlank

section Seq

variable {α : Type}

/-- Items up to a closing bracket, at least one, with commas between them. -/
def readSeq (close : Char) (item : List Char → Option (α × List Char)) :
    Nat → List Char → Option (List α × List Char)
  | 0, _ => none
  | fuel + 1, cs => do
      let (x, rest) ← item cs
      match skip rest with
      | [] => none
      | c :: rest =>
          if c = close then some ([x], rest)
          else if c = ',' then do
            let (xs, rest) ← readSeq close item fuel (skip rest)
            return (x :: xs, rest)
          else none

/-- Items up to a closing bracket, if there are any. -/
def readEnclosed (close : Char) (item : List Char → Option (α × List Char)) (fuel : Nat)
    (cs : List Char) : Option (List α × List Char) :=
  if (skip cs).head? = some close then some ([], (skip cs).tail)
  else readSeq close item fuel (skip cs)

/-- `', '.join(texts)`. -/
def joined (texts : List (List Char)) : List Char := [',', ' '].intercalate texts

theorem joined_cons_cons (text next : List Char) (texts : List (List Char)) :
    joined (text :: next :: texts) = text ++ ',' :: ' ' :: joined (next :: texts) := by
  simp [joined, List.intercalate]

/-- Joined texts start with the first. -/
theorem exists_joined_cons (text : List Char) (texts : List (List Char)) (rest : List Char) :
    ∃ tail, joined (text :: texts) ++ rest = text ++ tail := by
  cases texts with
  | nil => exact ⟨rest, by simp [joined]⟩
  | cons next texts => exact ⟨_, by rw [joined_cons_cons, List.append_assoc]⟩

/-- The text of an item is part of the joined text. -/
theorem length_le_joined {texts : List (List Char)} {text : List Char} (h : text ∈ texts) :
    text.length ≤ (joined texts).length := by
  induction texts with
  | nil => contradiction
  | cons first texts ih =>
      cases texts with
      | nil =>
          obtain rfl : text = first := by simpa using h
          simp [joined]
      | cons next texts =>
          rw [joined_cons_cons]
          simp only [List.length_append, List.length_cons]
          rcases List.mem_cons.mp h with rfl | h
          · omega
          · have hle := ih h
            omega

/-- The item is read of its text, whatever separates it from the next. -/
structure ReadsItem (close : Char) (item : List Char → Option (α × List Char)) (x : α)
    (text : List Char) : Prop where
  read : ∀ c rest, c = ',' ∨ c = close → item (text ++ c :: rest) = some (x, c :: rest)
  solid : ∃ c ∈ text.head?, isBlank c = false ∧ c ≠ close

variable {close : Char} {item : List Char → Option (α × List Char)}

theorem skip_of_solid {text : List Char} (h : ∃ c ∈ text.head?, isBlank c = false ∧ c ≠ close)
    (rest : List Char) :
    skip (text ++ rest) = text ++ rest ∧ (text ++ rest).head? ≠ some close := by
  obtain ⟨c, hc, hblank, hne⟩ := h
  cases text with
  | nil => simp at hc
  | cons d text =>
      obtain rfl : d = c := by simpa using hc
      simp [skip, hblank, hne]

/-- Each item takes up some of the joined text. -/
theorem length_le_length_joined {xs : List α} {texts : List (List Char)}
    (h : List.Forall₂ (ReadsItem close item) xs texts) : xs.length ≤ (joined texts).length := by
  induction h with
  | nil => simp
  | @cons x text xs texts hx htexts ih =>
      have hpos : 0 < text.length := by
        obtain ⟨c, hc, -⟩ := hx.solid
        exact List.length_pos_iff.mpr fun hnil => by simp [hnil] at hc
      cases htexts with
      | nil =>
          have hjoined : joined [text] = text := by simp [joined]
          rw [hjoined]
          exact hpos
      | cons =>
          rw [joined_cons_cons]
          simp only [List.length_append, List.length_cons] at ih ⊢
          omega

/-- **Items that are joined are read back.** -/
theorem readSeq_joined (hclose : isBlank close = false) (hcomma : close ≠ ',') {xs : List α}
    {texts : List (List Char)} (h : List.Forall₂ (ReadsItem close item) xs texts) (hne : xs ≠ [])
    {fuel : Nat} (hfuel : xs.length ≤ fuel) (rest : List Char) :
    readSeq close item fuel (joined texts ++ close :: rest) = some (xs, rest) := by
  induction h generalizing fuel with
  | nil => contradiction
  | @cons x text xs texts hx htexts ih =>
      obtain ⟨fuel, rfl⟩ := Nat.exists_eq_succ_of_ne_zero (Nat.ne_zero_of_lt hfuel)
      cases htexts with
      | nil =>
          have hread := hx.read close rest (Or.inr rfl)
          simp [joined, readSeq, hread, skip, hclose]
      | @cons y text' ys texts hy htexts =>
          -- the separator is a comma and a blank, then comes the next item
          have hsolid : skip (joined (text' :: texts) ++ close :: rest) =
              joined (text' :: texts) ++ close :: rest := by
            obtain ⟨tail, htail⟩ := exists_joined_cons text' texts (close :: rest)
            rw [htail, (skip_of_solid hy.solid tail).1]
          have hread := hx.read ',' (' ' :: (joined (text' :: texts) ++ close :: rest)) (Or.inl rfl)
          have hrest := ih (by simp) (Nat.le_of_succ_le_succ hfuel)
          have hblank : isBlank ',' = false := by decide
          have hspace : isBlank ' ' = true := by decide
          rw [skip] at hsolid
          rw [joined_cons_cons, List.append_assoc, List.cons_append, List.cons_append, readSeq,
            hread]
          simp [skip, hblank, hspace, hsolid, hrest, hcomma.symm]

/-- So are no items. -/
theorem readEnclosed_joined (hclose : isBlank close = false) (hcomma : close ≠ ',') {xs : List α}
    {texts : List (List Char)} (h : List.Forall₂ (ReadsItem close item) xs texts) {fuel : Nat}
    (hfuel : (joined texts).length ≤ fuel) (rest : List Char) :
    readEnclosed close item fuel (joined texts ++ close :: rest) = some (xs, rest) := by
  have hcount := Nat.le_trans (length_le_length_joined h) hfuel
  cases h with
  | nil => simp [readEnclosed, joined, skip, hclose]
  | @cons x text xs texts hx htexts =>
      have hread := readSeq_joined hclose hcomma (.cons hx htexts) (by simp) hcount rest
      obtain ⟨tail, htail⟩ := exists_joined_cons text texts (close :: rest)
      obtain ⟨hskip, hhead⟩ := skip_of_solid hx.solid tail
      rw [htail] at hread ⊢
      rw [readEnclosed, hskip, if_neg hhead, hread]

end Seq

/-! ## values -/

mutual

/-- `json.dumps`; identifiers and instants are not serializable. -/
def text (floats : Floats) : Value → Option (List Char)
  | .none => some ['n', 'u', 'l', 'l']
  | .bool b => some (if b then ['t', 'r', 'u', 'e'] else ['f', 'a', 'l', 's', 'e'])
  | .int i => some (intText i)
  | .float q => some (floats.repr q)
  | .str s | .member _ s => some (quote s)
  | .list xs => (texts floats xs).map fun items => '[' :: (joined items ++ [']'])
  | .dict items => (itemTexts floats items).map fun items => '{' :: (joined items ++ ['}'])
  | .uuid _ | .datetime _ => none

def texts (floats : Floats) : List Value → Option (List (List Char))
  | [] => some []
  | x :: xs => do return (← text floats x) :: (← texts floats xs)

def itemTexts (floats : Floats) : List (String × Value) → Option (List (List Char))
  | [] => some []
  | (k, x) :: items => do
      return (quote k ++ ':' :: ' ' :: (← text floats x)) :: (← itemTexts floats items)

end

/-- The words of the language. -/
def words : List (List Char × Value) :=
  [(['n', 'u', 'l', 'l'], .none), (['t', 'r', 'u', 'e'], .bool true),
    (['f', 'a', 'l', 's', 'e'], .bool false)]

/-- A key and what comes after it. -/
def readItem (value : List Char → Option (Value × List Char)) (fuel : Nat) :
    List Char → Option ((String × Value) × List Char)
  | '"' :: cs => do
      let (key, rest) ← readText fuel cs
      match skip rest with
      | ':' :: rest => do
          let (v, rest) ← value (skip rest)
          return ((String.ofList key, v), rest)
      | _ => none
  | _ => none

/-- A value at the start of a text.  The length of the text is fuel enough. -/
def read (floats : Floats) : Nat → List Char → Option (Value × List Char)
  | 0, _ | _, [] => none
  | fuel + 1, c :: cs =>
      if c = '"' then (readText fuel cs).map fun p => (.str (String.ofList p.1), p.2)
      else if c = '[' then
        (readEnclosed ']' (read floats fuel) fuel cs).map fun p => (.list p.1, p.2)
      else if c = '{' then
        (readEnclosed '}' (readItem (read floats fuel) fuel) fuel cs).map fun p =>
          (.dict (Table.update [] p.1), p.2)
      else
        match words.find? fun word => word.1.isPrefixOf (c :: cs) with
        | some (word, v) => some (v, (c :: cs).drop word.length)
        | none => readNumber floats (c :: cs)

/-- `json.dumps`. -/
def dumps (floats : Floats) (v : Value) : Option String := (text floats v).map String.ofList

/-- `json.loads`. -/
def loads (floats : Floats) (s : String) : Option Value :=
  match read floats s.length (skip s.toList) with
  | some (v, rest) => if (skip rest).isEmpty then some v else none
  | none => none

/-- JSON data. -/
inductive IsJson (floats : Floats) : Value → Prop where
  | none : IsJson floats .none
  | bool (b : Bool) : IsJson floats (.bool b)
  | int (i : Int) : IsJson floats (.int i)
  | float {q : Rat} (h : floats.IsFloat q) : IsJson floats (.float q)
  | str (s : String) : IsJson floats (.str s)
  | list {xs : List Value} (h : ∀ x ∈ xs, IsJson floats x) : IsJson floats (.list xs)
  | dict {items : List (String × Value)} (hkeys : (items.map Prod.fst).Nodup)
      (h : ∀ kv ∈ items, IsJson floats kv.2) : IsJson floats (.dict items)

/-- The text is read as the value, whatever ends it. -/
structure Written (floats : Floats) (v : Value) (cs : List Char) : Prop where
  read : ∀ fuel rest, cs.length ≤ fuel → Ends rest → read floats fuel (cs ++ rest) = some (v, rest)
  solid : ∃ c ∈ cs.head?, isBlank c = false ∧ c ≠ ']'

section Written

variable {floats : Floats}

theorem ends_cons {c : Char} (rest : List Char) (h : isNumeric c = false) : Ends (c :: rest) := by
  rintro d hd
  obtain rfl : c = d := by simpa using hd
  exact h

theorem ne_of_isNumeric {c d : Char} (h : isNumeric c = true) (hd : isNumeric d = false) :
    c ≠ d := by
  rintro rfl
  simp [h] at hd

theorem isBlank_of_isNumeric {c : Char} (h : isNumeric c = true) : isBlank c = false := by
  rw [isBlank, decide_eq_false_iff_not]
  intro hmem
  simp only [List.mem_cons, List.not_mem_nil, or_false] at hmem
  rcases hmem with rfl | rfl | rfl | rfl <;> exact absurd h (by decide)

/-- What starts like a number is read as one. -/
theorem read_of_isNumeric {c : Char} (h : isNumeric c = true) (cs : List Char) (fuel : Nat) :
    read floats (fuel + 1) (c :: cs) = readNumber floats (c :: cs) := by
  have hwords : (words.find? fun word => word.1.isPrefixOf (c :: cs)) = none := by
    have hn : 'n' ≠ c := (ne_of_isNumeric h (by decide)).symm
    have ht : 't' ≠ c := (ne_of_isNumeric h (by decide)).symm
    have hf : 'f' ≠ c := (ne_of_isNumeric h (by decide)).symm
    simp [words, hn, ht, hf]
  rw [read, if_neg (ne_of_isNumeric h (by decide)), if_neg (ne_of_isNumeric h (by decide)),
    if_neg (ne_of_isNumeric h (by decide)), hwords]

/-- A number is read whatever ends it. -/
theorem written_of_isNumeric {v : Value} {c : Char} {cs : List Char} (h : isNumeric c = true)
    (hread : ∀ rest, Ends rest → readNumber floats (c :: cs ++ rest) = some (v, rest)) :
    Written floats v (c :: cs) where
  read := by
    intro fuel rest hfuel hends
    obtain ⟨fuel, rfl⟩ := Nat.exists_eq_succ_of_ne_zero (Nat.ne_zero_of_lt hfuel)
    rw [List.cons_append, read_of_isNumeric h, ← List.cons_append, hread rest hends]
  solid := ⟨c, rfl, isBlank_of_isNumeric h, ne_of_isNumeric h (by decide)⟩

theorem written_intText (i : Int) : Written floats (.int i) (intText i) := by
  cases htext : intText i with
  | nil =>
      have h := readInt_intText i
      simp [htext, readInt, readNat] at h
  | cons c cs =>
      refine written_of_isNumeric (isNumeric_of_mem_intText (i := i) (by simp [htext])).1 ?_
      intro rest hends
      rw [← htext, readNumber_intText floats i hends]

theorem written_repr {q : Rat} (h : floats.IsFloat q) :
    Written floats (.float q) (floats.repr q) := by
  cases htext : floats.repr q with
  | nil =>
      obtain ⟨c, hc, -⟩ := floats.fractional q h
      simp [htext] at hc
  | cons c cs =>
      refine written_of_isNumeric (floats.numeric q h c (by simp [htext])) ?_
      intro rest hends
      rw [← htext, readNumber_repr floats h hends]

/-- A word is read. -/
theorem written_word (word : List Char) (v : Value) (hword : (word, v) ∈ words) :
    Written floats v word := by
  simp only [words, List.mem_cons, List.not_mem_nil, or_false, Prod.mk.injEq] at hword
  rcases hword with ⟨rfl, rfl⟩ | ⟨rfl, rfl⟩ | ⟨rfl, rfl⟩
  all_goals
    refine ⟨fun fuel rest hfuel _ => ?_, ⟨_, rfl, by decide, by decide⟩⟩
    obtain ⟨fuel, rfl⟩ := Nat.exists_eq_succ_of_ne_zero (Nat.ne_zero_of_lt hfuel)
    simp [read, words]

theorem written_quote (s : String) : Written floats (.str s) (quote s) where
  read := by
    intro fuel rest hfuel _
    obtain ⟨fuel, rfl⟩ := Nat.exists_eq_succ_of_ne_zero (Nat.ne_zero_of_lt hfuel)
    have hlength := length_le_length_escape s.toList
    simp only [quote, List.length_cons, List.length_append, List.length_nil] at hfuel
    have hread := readText_quote s.toList rest (by omega : s.toList.length < fuel)
    simp [quote, read, hread]
  solid := ⟨'"', by simp [quote], by decide, by decide⟩

/-- Elements are read of their texts. -/
theorem Written.readsItem {v : Value} {cs : List Char} (h : Written floats v cs) {fuel : Nat}
    (hfuel : cs.length ≤ fuel) : ReadsItem ']' (Json.read floats fuel) v cs where
  read := by
    intro c rest hc
    refine h.read fuel _ hfuel (ends_cons rest ?_)
    rcases hc with rfl | rfl <;> decide
  solid := h.solid

/-- So are items, of the text of the key and that of the value. -/
theorem Written.readsItem_dict {k : String} {v : Value} {cs : List Char}
    (h : Written floats v cs) {fuel : Nat} (hfuel : (quote k ++ ':' :: ' ' :: cs).length ≤ fuel) :
    ReadsItem '}' (readItem (Json.read floats fuel) fuel) (k, v) (quote k ++ ':' :: ' ' :: cs) where
  read := by
    intro c rest hc
    have hends : Ends (c :: rest) := by
      refine ends_cons rest ?_
      rcases hc with rfl | rfl <;> decide
    have hlength := length_le_length_escape k.toList
    simp only [quote, List.length_append, List.length_cons, List.length_nil] at hfuel
    have hkey := readText_quote k.toList (':' :: ' ' :: (cs ++ c :: rest))
      (by omega : k.toList.length < fuel)
    have hvalue := h.read fuel (c :: rest) (by omega) hends
    have hskip : skip (' ' :: (cs ++ c :: rest)) = cs ++ c :: rest :=
      (skip_of_solid h.solid _).1
    have hcolon : skip (':' :: ' ' :: (cs ++ c :: rest)) = ':' :: ' ' :: (cs ++ c :: rest) := rfl
    simp only [quote, List.cons_append, List.append_assoc, List.nil_append, readItem, hkey,
      Option.bind_eq_bind, Option.bind_some, hcolon, hskip, hvalue, String.ofList_toList]
    rfl
  solid := ⟨'"', by simp [quote], by decide, by decide⟩

theorem forall₂_of_mem {α β : Type} {R S : α → β → Prop} {xs : List α} {ys : List β}
    (h : List.Forall₂ R xs ys) (himp : ∀ x, ∀ y ∈ ys, R x y → S x y) : List.Forall₂ S xs ys := by
  induction h with
  | nil => exact .nil
  | cons hxy _ ih =>
      refine .cons (himp _ _ (by simp) hxy) (ih fun x y hy => himp x y (by simp [hy]))

/-- A list is read of the texts of its elements. -/
theorem written_list {xs : List Value} {items : List (List Char)}
    (h : List.Forall₂ (Written floats) xs items) :
    Written floats (.list xs) ('[' :: (joined items ++ [']'])) where
  read := by
    intro fuel rest hfuel _
    obtain ⟨fuel, rfl⟩ := Nat.exists_eq_succ_of_ne_zero (Nat.ne_zero_of_lt hfuel)
    simp only [List.length_cons, List.length_append, List.length_nil] at hfuel
    have hjoined : (joined items).length ≤ fuel := by omega
    have hitems : List.Forall₂ (ReadsItem ']' (Json.read floats fuel)) xs items :=
      forall₂_of_mem h fun x item hmem hwritten =>
        hwritten.readsItem (Nat.le_trans (length_le_joined hmem) hjoined)
    have hread := readEnclosed_joined (by decide) (by decide) hitems hjoined rest
    simp [Json.read, hread]
  solid := ⟨'[', rfl, by decide, by decide⟩

/-- A dictionary whose keys differ is read of the texts of its items. -/
theorem written_dict {entries : List (String × Value)} {items : List (List Char)}
    (hkeys : (entries.map Prod.fst).Nodup)
    (h : List.Forall₂ (fun kv item => ∃ cs, item = quote kv.1 ++ ':' :: ' ' :: cs ∧
      Written floats kv.2 cs) entries items) :
    Written floats (.dict entries) ('{' :: (joined items ++ ['}'])) where
  read := by
    intro fuel rest hfuel _
    obtain ⟨fuel, rfl⟩ := Nat.exists_eq_succ_of_ne_zero (Nat.ne_zero_of_lt hfuel)
    simp only [List.length_cons, List.length_append, List.length_nil] at hfuel
    have hjoined : (joined items).length ≤ fuel := by omega
    have hitems : List.Forall₂ (ReadsItem '}' (readItem (Json.read floats fuel) fuel)) entries
        items := by
      refine forall₂_of_mem h fun kv item hmem hwritten => ?_
      obtain ⟨cs, rfl, hwritten⟩ := hwritten
      exact hwritten.readsItem_dict (Nat.le_trans (length_le_joined hmem) hjoined)
    have hread := readEnclosed_joined (by decide) (by decide) hitems hjoined rest
    simp [Json.read, hread, Table.update_of_nodup hkeys]
  solid := ⟨'{', rfl, by decide, by decide⟩

theorem exists_texts {xs : List Value}
    (h : ∀ x ∈ xs, ∃ cs, text floats x = some cs ∧ Written floats x cs) :
    ∃ items, texts floats xs = some items ∧ List.Forall₂ (Written floats) xs items := by
  induction xs with
  | nil => exact ⟨[], rfl, .nil⟩
  | cons x xs ih =>
      obtain ⟨cs, htext, hwritten⟩ := h x (by simp)
      obtain ⟨items, htexts, hitems⟩ := ih fun y hy => h y (by simp [hy])
      exact ⟨cs :: items, by simp [texts, htext, htexts], .cons hwritten hitems⟩

theorem exists_itemTexts {entries : List (String × Value)}
    (h : ∀ kv ∈ entries, ∃ cs, text floats kv.2 = some cs ∧ Written floats kv.2 cs) :
    ∃ items, itemTexts floats entries = some items ∧
      List.Forall₂ (fun kv item => ∃ cs, item = quote kv.1 ++ ':' :: ' ' :: cs ∧
        Written floats kv.2 cs) entries items := by
  induction entries with
  | nil => exact ⟨[], rfl, .nil⟩
  | cons kv entries ih =>
      obtain ⟨cs, htext, hwritten⟩ := h kv (by simp)
      obtain ⟨items, htexts, hitems⟩ := ih fun lw hlw => h lw (by simp [hlw])
      exact ⟨_ :: items, by simp [itemTexts, htext, htexts], .cons ⟨cs, rfl, hwritten⟩ hitems⟩

/-- **JSON data is written, and its text is read as the same value.** -/
theorem exists_text {v : Value} (h : IsJson floats v) :
    ∃ cs, text floats v = some cs ∧ Written floats v cs := by
  induction h with
  | none => exact ⟨_, rfl, written_word ['n', 'u', 'l', 'l'] .none (by simp [words])⟩
  | bool b =>
      cases b with
      | true => exact ⟨_, rfl, written_word ['t', 'r', 'u', 'e'] (.bool true) (by simp [words])⟩
      | false =>
          exact ⟨_, rfl, written_word ['f', 'a', 'l', 's', 'e'] (.bool false) (by simp [words])⟩
  | int i => exact ⟨_, rfl, written_intText i⟩
  | float h => exact ⟨_, rfl, written_repr h⟩
  | str s => exact ⟨_, rfl, written_quote s⟩
  | list _ ih =>
      obtain ⟨items, htexts, hitems⟩ := exists_texts ih
      exact ⟨_, by simp [text, htexts], written_list hitems⟩
  | dict hkeys _ ih =>
      obtain ⟨items, htexts, hitems⟩ := exists_itemTexts ih
      exact ⟨_, by simp [text, htexts], written_dict hkeys hitems⟩

/-- **Reading undoes writing.** -/
theorem loads_dumps {v : Value} (h : IsJson floats v) :
    ∃ s, dumps floats v = some s ∧ s ≠ "" ∧ loads floats s = some v := by
  obtain ⟨cs, htext, hwritten⟩ := exists_text h
  have hskip : skip cs = cs := by simpa using (skip_of_solid hwritten.solid []).1
  have hends : Ends [] := by simp [Ends]
  have hread := hwritten.read cs.length [] (Nat.le_refl _) hends
  refine ⟨String.ofList cs, by rw [dumps, htext]; rfl, ?_, ?_⟩
  · rintro hempty
    obtain ⟨c, hc, -⟩ := hwritten.solid
    have hnil : cs = [] := by simpa using hempty
    simp [hnil] at hc
  · rw [List.append_nil] at hread
    rw [loads, String.toList_ofList, String.length_ofList, hskip, hread]
    rfl

end Written

end Json
