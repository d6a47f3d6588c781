import Mathlib.Data.List.Induction

/-!
# Gestalt.Library.Shell

Token recognition of the POSIX shell.

A command text is read one character at a time into words and operators.  The
pieces of a word are literal characters, quoted or plain, and active ones, from
which an expansion may begin.  Expansions are not followed: a word with an
active piece is no literal word, which is all that matters here.

The result is about naive quoting, which puts a text between single quotes as
it stands: the text is read back as one literal word exactly when it holds no
single quote.
-/

namespace Shell

/-- A character of a word: taken literally, or the possible beginning of an
expansion. -/
inductive Piece where
  | literal (c : Char)
  | active (c : Char)
  deriving DecidableEq, Repr

/-- A token of a command text. -/
inductive Token where
  | word (pieces : List Piece)
  | operator (c : Char)
  deriving DecidableEq, Repr

/-- The quoting in force. -/
inductive Mode where
  | unquoted
  | escaped
  | single
  | double
  | doubleEscaped
  | comment
  deriving DecidableEq, Repr

/-- What has been read: the tokens before, the word in progress, and the
quoting in force. -/
structure State where
  tokens : List Token := []
  word : Option (List Piece) := none
  mode : Mode := .unquoted
  deriving DecidableEq, Repr

namespace State

/-- The word in progress grows. -/
def push (st : State) (pieces : List Piece) : State :=
  { st with word := some (st.word.getD [] ++ pieces) }

/-- The word in progress ends. -/
def delimit (st : State) : State :=
  match st.word with
  | none => st
  | some pieces => { st with tokens := st.tokens ++ [.word pieces], word := none }

/-- An operator follows. -/
def operate (st : State) (c : Char) : State :=
  let st := st.delimit
  { st with tokens := st.tokens ++ [.operator c] }

/-- Read one character outside quotes. -/
def readUnquoted (st : State) (c : Char) : State :=
  if c = '\'' then { st.push [] with mode := .single }
  else if c = '"' then { st.push [] with mode := .double }
  else if c = '\\' then { st with mode := .escaped }
  else if c ∈ [' ', '\t'] then st.delimit
  else if c ∈ ['\n', '|', '&', ';', '<', '>', '(', ')'] then st.operate c
  else if c = '#' ∧ st.word = none then { st with mode := .comment }
  else if c ∈ ['$', '`', '*', '?', '[', '~', '{'] then st.push [.active c]
  else st.push [.literal c]

/-- Read one character. -/
def step (st : State) (c : Char) : State :=
  match st.mode with
  | .unquoted => st.readUnquoted c
  | .escaped =>
      if c = '\n' then { st with mode := .unquoted }
      else { st.push [.literal c] with mode := .unquoted }
  | .single =>
      if c = '\'' then { st with mode := .unquoted } else st.push [.literal c]
  | .double =>
      if c = '"' then { st with mode := .unquoted }
      else if c = '\\' then { st with mode := .doubleEscaped }
      else if c ∈ ['$', '`'] then st.push [.active c]
      else st.push [.literal c]
  | .doubleEscaped =>
      if c = '\n' then { st with mode := .double }
      else if c ∈ ['$', '`', '"', '\\'] then { st.push [.literal c] with mode := .double }
      else { st.push [.literal '\\', .literal c] with mode := .double }
  | .comment => if c = '\n' then { st.operate c with mode := .unquoted } else st

/-- The tokens at the end of the text; none when a quote is left open. -/
def finish (st : State) : Option (List Token) :=
  match st.mode with
  | .unquoted | .comment => some st.delimit.tokens
  | .escaped => some (st.push [.literal '\\']).delimit.tokens
  | .single | .double | .doubleEscaped => none

end State

open State

/-- The tokens of a command text. -/
def tokens (text : List Char) : Option (List Token) := (text.foldl step {}).finish

/-- The word that stands for a text and nothing else. -/
def literalWord (text : List Char) : Token := .word (text.map .literal)

/-! ## how many pieces a text makes -/

/-- The number of pieces of the words. -/
def pieceCount : List Token → Nat
  | [] => 0
  | .word pieces :: toks => pieces.length + pieceCount toks
  | .operator _ :: toks => pieceCount toks

@[simp] theorem pieceCount_append (xs ys : List Token) :
    pieceCount (xs ++ ys) = pieceCount xs + pieceCount ys := by
  induction xs with
  | nil => simp [pieceCount]
  | cons tok xs ih => cases tok <;> simp [pieceCount, ih, Nat.add_assoc]

namespace State

/-- The pieces read so far, and those an escape still owes. -/
def weight (st : State) : Nat :=
  pieceCount st.tokens + (st.word.getD []).length +
    match st.mode with
    | .escaped | .doubleEscaped => 1
    | _ => 0

/-- Whether a double quote is open. -/
def inDouble (st : State) : Prop := st.mode = .double ∨ st.mode = .doubleEscaped

@[simp] theorem pieceCount_delimit (st : State) :
    pieceCount st.delimit.tokens = pieceCount st.tokens + (st.word.getD []).length := by
  unfold delimit
  cases st.word <;> simp [pieceCount]

@[simp] theorem word_delimit (st : State) : st.delimit.word = none := by
  unfold delimit
  cases h : st.word <;> simp [h]

@[simp] theorem mode_delimit (st : State) : st.delimit.mode = st.mode := by
  unfold delimit
  cases st.word <;> rfl

/-- A character makes one piece at most. -/
theorem weight_step_le (st : State) (c : Char) : (st.step c).weight ≤ st.weight + 1 := by
  obtain ⟨toks, word, mode⟩ := st
  cases mode with
  | unquoted =>
      simp only [step, readUnquoted]
      split_ifs <;> simp [weight, push, operate, pieceCount] <;> omega
  | escaped =>
      simp only [step]
      split_ifs <;> simp [weight, push] <;> omega
  | single =>
      simp only [step]
      split_ifs <;> simp [weight, push]
      omega
  | double =>
      simp only [step]
      split_ifs <;> simp [weight, push] <;> omega
  | doubleEscaped =>
      simp only [step]
      split_ifs <;> simp [weight, push] <;> omega
  | comment =>
      simp only [step]
      split_ifs <;> simp [weight, operate, pieceCount]

/-- A quote character that opens or closes makes none, and neither does a
single quote that an escape has paid for. -/
theorem weight_step_le_of_quote {st : State} {c : Char} (hout : ¬ st.inDouble)
    (h : c = '\'' ∨ (st.step c).inDouble) : (st.step c).weight ≤ st.weight := by
  obtain ⟨toks, word, mode⟩ := st
  cases mode with
  | unquoted =>
      rcases h with rfl | h
      · simp [step, readUnquoted, weight, push]
      · simp only [step, readUnquoted] at h ⊢
        split_ifs at h ⊢ <;> simp_all [inDouble, weight, push, operate]
  | escaped =>
      simp only [step]
      split_ifs <;> simp [weight, push, Nat.add_assoc]
  | single =>
      rcases h with rfl | h
      · simp [step, weight]
      · simp only [step] at h ⊢
        split_ifs at h ⊢ <;> simp_all [inDouble, push]
  | double => exact absurd (Or.inl rfl) hout
  | doubleEscaped => exact absurd (Or.inr rfl) hout
  | comment =>
      rcases h with rfl | h
      · simp [step]
      · simp only [step] at h ⊢
        split_ifs at h ⊢ <;> simp_all [inDouble]

/-- Reading a text from outside double quotes: as many pieces as characters at
most, and fewer once a quote character has been used up. -/
theorem weight_foldl {st : State} (hout : ¬ st.inDouble) (text : List Char) :
    let st' := text.foldl step st
    st'.weight ≤ st.weight + text.length ∧
      (st'.inDouble ∨ '\'' ∈ text → st'.weight + 1 ≤ st.weight + text.length) := by
  induction text using List.reverseRecOn with
  | nil => simp [hout]
  | append_singleton text c ih =>
      obtain ⟨hle, hlt⟩ := ih
      rw [List.foldl_append, List.length_append, List.length_singleton]
      have hstep := weight_step_le (text.foldl step st) c
      refine ⟨by simp only [List.foldl_cons, List.foldl_nil]; omega, fun h => ?_⟩
      simp only [List.foldl_cons, List.foldl_nil] at h ⊢
      by_cases hbefore : (text.foldl step st).inDouble ∨ '\'' ∈ text
      · have := hlt hbefore
        omega
      · obtain ⟨hinDouble, hquote⟩ := not_or.mp hbefore
        have hsaved := weight_step_le_of_quote (c := c) hinDouble
          (h.symm.imp_left fun hmem => by simpa [hquote, eq_comm] using hmem)
        omega

/-- The pieces of the tokens at the end of a text. -/
theorem pieceCount_of_finish {st : State} {toks : List Token} (h : st.finish = some toks) :
    pieceCount toks ≤ st.weight ∧ ¬ st.inDouble := by
  obtain ⟨done, word, mode⟩ := st
  cases mode with
  | unquoted =>
      obtain rfl := Option.some.inj h
      simp [weight, inDouble]
  | comment =>
      obtain rfl := Option.some.inj h
      simp [weight, inDouble]
  | escaped =>
      obtain rfl := Option.some.inj h
      simp [weight, inDouble, push, Nat.add_assoc]
  | single => contradiction
  | double => contradiction
  | doubleEscaped => contradiction

/-- Inside single quotes every character is literal, up to the next quote. -/
theorem foldl_single {done : List Token} {pieces : List Piece} {text : List Char}
    (h : '\'' ∉ text) :
    text.foldl step ⟨done, some pieces, .single⟩ =
      ⟨done, some (pieces ++ text.map .literal), .single⟩ := by
  induction text generalizing pieces with
  | nil => simp
  | cons c text ih =>
      obtain ⟨hc, htext⟩ := not_or.mp (List.mem_cons.not.mp h)
      rw [List.foldl_cons, step]
      simp only [if_neg (Ne.symm hc), push, Option.getD_some]
      rw [ih htext, List.map_cons, List.append_assoc, List.singleton_append]

end State

/-! ## naive quoting -/

/-- **When naive quoting is inert**: after a text that leaves a single quote
open, an argument and the closing quote make one literal word exactly when the
argument holds no single quote. -/
theorem tokens_quoted_iff {before : List Char} {done : List Token}
    (hbefore : before.foldl step {} = ⟨done, some [], .single⟩) (arg : List Char) :
    tokens (before ++ arg ++ ['\'']) = some (done ++ [literalWord arg]) ↔ '\'' ∉ arg := by
  constructor
  · intro h hquote
    obtain ⟨inside, outside, rfl, hinside⟩ := List.eq_append_cons_of_mem hquote
    -- the first quote of the argument closes the word's quotes
    have hfirst : (before ++ (inside ++ '\'' :: outside) ++ ['\'']).foldl step {} =
        (outside ++ ['\'']).foldl step ⟨done, some (inside.map .literal), .unquoted⟩ := by
      rw [List.append_assoc, List.foldl_append, hbefore, List.append_assoc, List.foldl_append,
        foldl_single hinside, List.cons_append, List.foldl_cons]
      rfl
    rw [tokens, hfirst] at h
    have hpieces := (pieceCount_of_finish h).1
    have hout : ¬ inDouble ⟨done, some (inside.map .literal), .unquoted⟩ := by simp [inDouble]
    have hweight := (weight_foldl hout (outside ++ ['\''])).2 (Or.inr (by simp))
    simp only [weight, pieceCount_append, literalWord, pieceCount, List.length_map,
      List.length_append, List.length_cons, List.length_nil, Option.getD_some] at hpieces hweight
    omega
  · intro h
    rw [tokens, List.foldl_append, List.foldl_append, hbefore, foldl_single h]
    simp [step, finish, delimit, literalWord]

end Shell
