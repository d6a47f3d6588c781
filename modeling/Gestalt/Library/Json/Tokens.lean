import Gestalt.Library.Value
import Mathlib.Data.List.Basic

/-!
# Gestalt.Library.Json.Tokens

The strings and the numbers of JSON texts, as Python's `json` writes and reads
them.

What is written is ASCII: other characters are escaped by their code units.  Any
escape is read.  Strings are sequences of Unicode scalar values, so a surrogate
that stands alone is no string here.  How a float is written is left open
(`Floats`), but that it looks like one.
-/

namespace Json

/-! ## strings -/

/-- The value of a hexadecimal digit. -/
def hexVal (c : Char) : Option Nat :=
  if '0'.toNat ≤ c.toNat ∧ c.toNat ≤ '9'.toNat then some (c.toNat - '0'.toNat)
  else if 'a'.toNat ≤ c.toNat ∧ c.toNat ≤ 'f'.toNat then some (c.toNat - 'a'.toNat + 10)
  else if 'A'.toNat ≤ c.toNat ∧ c.toNat ≤ 'F'.toNat then some (c.toNat - 'A'.toNat + 10)
  else none

theorem hexVal_digitChar {d : Nat} (h : d < 16) : hexVal d.digitChar = some d := by
  have hall : ∀ d < 16, hexVal d.digitChar = some d := by decide
  exact hall d h

/-- `'{0:04x}'.format(n)`, of a code unit. -/
def hexDigits (n : Nat) : List Char :=
  [(n / 4096).digitChar, (n / 256 % 16).digitChar, (n / 16 % 16).digitChar, (n % 16).digitChar]

/-- The escape of a code unit. -/
def unicodeEscape (n : Nat) : List Char := '\\' :: 'u' :: hexDigits n

/-- The characters with an escape of their own, and its letter. -/
def shortEscapes : List (Char × Char) :=
  [('"', '"'), ('\\', '\\'), ('\x08', 'b'), ('\x0c', 'f'), ('\n', 'n'), ('\r', 'r'), ('\t', 't')]

/-- A character inside a string that is written. -/
def escape (c : Char) : List Char :=
  match Table.get? shortEscapes c with
  | some letter => ['\\', letter]
  | none =>
      if 32 ≤ c.toNat ∧ c.toNat ≤ 126 then [c]
      else if c.toNat < 0x10000 then unicodeEscape c.toNat
      else
        let n := c.toNat - 0x10000
        unicodeEscape (0xd800 + n / 1024) ++ unicodeEscape (0xdc00 + n % 1024)

/-- A string that is written. -/
def quote (s : String) : List Char := '"' :: (s.toList.flatMap escape ++ ['"'])

/-- Four hexadecimal digits. -/
def readHex : List Char → Option (Nat × List Char)
  | a :: b :: c :: d :: rest => do
      return (4096 * (← hexVal a) + 256 * (← hexVal b) + 16 * (← hexVal c) + (← hexVal d), rest)
  | _ => none

/-- What follows a high surrogate: a low one, which makes a character with it. -/
def readLow (high : Nat) : List Char → Option (Char × List Char)
  | '\\' :: 'u' :: cs => do
      let (low, rest) ← readHex cs
      if 0xdc00 ≤ low ∧ low < 0xe000 then
        some (Char.ofNat (0x10000 + 1024 * (high - 0xd800) + (low - 0xdc00)), rest)
      else none
  | _ => none

/-- What `\u` escapes. -/
def readUnicode (cs : List Char) : Option (Char × List Char) := do
  let (n, rest) ← readHex cs
  if 0xd800 ≤ n ∧ n < 0xdc00 then readLow n rest
  else if 0xdc00 ≤ n ∧ n < 0xe000 then none
  else some (Char.ofNat n, rest)

/-- What the letter of an escape stands for; a solidus may be escaped too. -/
def ofLetter (letter : Char) : Option Char :=
  if letter = '/' then some '/'
  else (shortEscapes.find? fun entry => entry.2 = letter).map Prod.fst

/-- A character inside a string that is read; control characters have to be escaped. -/
def readChar : List Char → Option (Char × List Char)
  | [] | ['\\'] => none
  | '\\' :: 'u' :: rest => readUnicode rest
  | '\\' :: letter :: rest => (ofLetter letter).map fun c => (c, rest)
  | c :: rest => if c.toNat < 32 then none else some (c, rest)

/-- The rest of a string, after its opening quotation mark. -/
def readText : Nat → List Char → Option (List Char × List Char)
  | 0, _ => none
  | fuel + 1, cs =>
      if cs.head? = some '"' then some ([], cs.tail)
      else do
        let (c, rest) ← readChar cs
        let (text, rest) ← readText fuel rest
        return (c :: text, rest)

theorem readHex_hexDigits {n : Nat} (h : n < 0x10000) (rest : List Char) :
    readHex (hexDigits n ++ rest) = some (n, rest) := by
  have h3 : n / 4096 < 16 := by omega
  have h2 : n / 256 % 16 < 16 := Nat.mod_lt _ (by decide)
  have h1 : n / 16 % 16 < 16 := Nat.mod_lt _ (by decide)
  have h0 : n % 16 < 16 := Nat.mod_lt _ (by decide)
  have hn : 4096 * (n / 4096) + 256 * (n / 256 % 16) + 16 * (n / 16 % 16) + n % 16 = n := by omega
  simp [hexDigits, readHex, hexVal_digitChar h3, hexVal_digitChar h2, hexVal_digitChar h1,
    hexVal_digitChar h0, hn]

/-- A code point that is not a surrogate. -/
theorem toNat_range (c : Char) : c.toNat < 0xd800 ∨ (0xdfff < c.toNat ∧ c.toNat < 0x110000) :=
  c.valid

theorem readChar_short {c letter : Char} (h : Table.get? shortEscapes c = some letter)
    (rest : List Char) : readChar ('\\' :: letter :: rest) = some (c, rest) := by
  have hall : ∀ entry ∈ shortEscapes, entry.2 ≠ 'u' ∧ ofLetter entry.2 = some entry.1 := by decide
  obtain ⟨hletter, hof⟩ := hall (c, letter) (Table.mem_of_get? h)
  rw [readChar.eq_4 _ _ hletter, hof]
  rfl

/-- A character of the basic plane is one code unit. -/
theorem readUnicode_hexDigits {c : Char} (h : c.toNat < 0x10000) (rest : List Char) :
    readUnicode (hexDigits c.toNat ++ rest) = some (c, rest) := by
  have hrange := toNat_range c
  have hhigh : ¬ (0xd800 ≤ c.toNat ∧ c.toNat < 0xdc00) := by omega
  have hlow : ¬ (0xdc00 ≤ c.toNat ∧ c.toNat < 0xe000) := by omega
  rw [readUnicode, readHex_hexDigits h]
  simp only [Option.bind_eq_bind, Option.bind_some, if_neg hhigh, if_neg hlow, Char.ofNat_toNat]

/-- Two surrogates make a character. -/
theorem readUnicode_pair {high low : Nat} (hhigh : 0xd800 ≤ high ∧ high < 0xdc00)
    (hlow : 0xdc00 ≤ low ∧ low < 0xe000) (rest : List Char) :
    readUnicode (hexDigits high ++ (unicodeEscape low ++ rest)) =
      some (Char.ofNat (0x10000 + 1024 * (high - 0xd800) + (low - 0xdc00)), rest) := by
  have hread := readHex_hexDigits (by omega : low < 0x10000) rest
  rw [readUnicode, readHex_hexDigits (by omega)]
  simp only [Option.bind_eq_bind, Option.bind_some, if_pos hhigh, unicodeEscape, List.cons_append,
    readLow, hread, if_pos hlow]

/-- Any other character is two. -/
theorem readUnicode_surrogates {c : Char} (h : 0x10000 ≤ c.toNat) (rest : List Char) :
    readUnicode (hexDigits (0xd800 + (c.toNat - 0x10000) / 1024) ++
      (unicodeEscape (0xdc00 + (c.toNat - 0x10000) % 1024) ++ rest)) = some (c, rest) := by
  have hrange := toNat_range c
  have hmod : (c.toNat - 0x10000) % 1024 < 1024 := Nat.mod_lt _ (by decide)
  rw [readUnicode_pair (by omega) (by omega)]
  have hsum : 0x10000 + 1024 * (0xd800 + (c.toNat - 0x10000) / 1024 - 0xd800) +
      (0xdc00 + (c.toNat - 0x10000) % 1024 - 0xdc00) = c.toNat := by omega
  rw [hsum, Char.ofNat_toNat]

theorem readChar_unicode (rest : List Char) :
    readChar ('\\' :: 'u' :: rest) = readUnicode rest := by
  rw [readChar]

/-- A printable character without an escape stands for itself. -/
theorem readChar_self {c : Char} (hshort : Table.get? shortEscapes c = none) (h : 32 ≤ c.toNat)
    (rest : List Char) : readChar (c :: rest) = some (c, rest) := by
  have hbackslash : c ≠ '\\' := by
    rintro rfl
    simp [shortEscapes] at hshort
  cases rest <;> simp [readChar, hbackslash, Nat.not_lt.mpr h]

/-- **A character that is written is read back.** -/
theorem readChar_escape (c : Char) (rest : List Char) :
    readChar (escape c ++ rest) = some (c, rest) := by
  unfold escape
  cases hshort : Table.get? shortEscapes c with
  | some letter => exact readChar_short hshort rest
  | none =>
      by_cases hprintable : 32 ≤ c.toNat ∧ c.toNat ≤ 126
      · simpa [hprintable] using readChar_self hshort hprintable.1 rest
      · by_cases hbasic : c.toNat < 0x10000
        · have h := readUnicode_hexDigits hbasic rest
          simpa [hprintable, hbasic, unicodeEscape, readChar_unicode] using h
        · have h := readUnicode_surrogates (Nat.le_of_not_lt hbasic) rest
          simpa [hprintable, hbasic, unicodeEscape, readChar_unicode] using h

/-- No character is written as a quotation mark. -/
theorem head?_escape (c : Char) (rest : List Char) : (escape c ++ rest).head? ≠ some '"' := by
  unfold escape
  cases hshort : Table.get? shortEscapes c with
  | some letter => simp
  | none =>
      have hquote : c ≠ '"' := by
        rintro rfl
        simp [shortEscapes] at hshort
      dsimp only
      split
      · simpa using hquote
      · split <;> simp [unicodeEscape]

/-- **A string that is written is read back.** -/
theorem readText_quote (text rest : List Char) {fuel : Nat} (hfuel : text.length < fuel) :
    readText fuel (text.flatMap escape ++ '"' :: rest) = some (text, rest) := by
  induction text generalizing fuel with
  | nil =>
      obtain ⟨fuel, rfl⟩ := Nat.exists_eq_succ_of_ne_zero (Nat.ne_zero_of_lt hfuel)
      simp [readText]
  | cons c text ih =>
      obtain ⟨fuel, rfl⟩ := Nat.exists_eq_succ_of_ne_zero (Nat.ne_zero_of_lt hfuel)
      rw [List.flatMap_cons, List.append_assoc, readText, if_neg (head?_escape c _),
        readChar_escape]
      simp [ih (Nat.lt_of_succ_lt_succ hfuel)]

example : quote "a\té😀" = "\"a\\t\\u00e9\\ud83d\\ude00\"".toList := by decide

theorem length_le_length_escape (text : List Char) :
    text.length ≤ (text.flatMap escape).length := by
  induction text with
  | nil => simp
  | cons c text ih =>
      have hne : escape c ≠ [] := fun h => by simpa [h, readChar] using readChar_escape c []
      have hpos := List.length_pos_iff.mpr hne
      simp only [List.flatMap_cons, List.length_append, List.length_cons]
      omega

/-! ## numbers -/

/-- The characters of numbers. -/
def isNumeric (c : Char) : Bool := c.isDigit || c ∈ ['-', '+', '.', 'e', 'E']

/-- The characters that tell a float from an integer. -/
def isFractional (c : Char) : Bool := c ∈ ['.', 'e', 'E']

/-- How floats are written and read: `float.__repr__`, and `float` of the text of a
JSON number with a fraction or an exponent. -/
structure Floats where
  IsFloat : Rat → Prop
  repr : Rat → List Char
  parse : List Char → Option Rat
  numeric : ∀ q, IsFloat q → ∀ c ∈ repr q, isNumeric c = true
  fractional : ∀ q, IsFloat q → ∃ c ∈ repr q, isFractional c = true
  parse_repr : ∀ q, IsFloat q → parse (repr q) = some q

/-- `int.__repr__`. -/
def intText : Int → List Char
  | .ofNat n => Nat.toDigits 10 n
  | .negSucc n => '-' :: Nat.toDigits 10 (n + 1)

/-- Digits without a zero that could be left out. -/
def readNat (ds : List Char) : Option Nat :=
  if ds ≠ [] ∧ ds.all Char.isDigit = true ∧ (ds.head? = some '0' → ds = ['0']) then
    some (Nat.ofDigitChars 10 ds 0)
  else none

/-- An integer. -/
def readInt : List Char → Option Int
  | '-' :: ds => (readNat ds).map fun n => -(n : Int)
  | ds => (readNat ds).map fun n => (n : Int)

/-- A number: the characters of numbers, as far as they go. -/
def readNumber (floats : Floats) (cs : List Char) : Option (Value × List Char) :=
  let token := cs.takeWhile isNumeric
  let number := if token.any isFractional then (floats.parse token).map Value.float
    else (readInt token).map Value.int
  number.map fun v => (v, cs.dropWhile isNumeric)

theorem head?_toDigits {n : Nat} (h : (Nat.toDigits 10 n).head? = some '0') : n = 0 := by
  induction n using Nat.strongRecOn with
  | ind n ih =>
      by_cases hn : n < 10
      · rw [Nat.toDigits_of_lt_base hn] at h
        have hall : ∀ d < 10, d.digitChar = '0' → d = 0 := by decide
        exact hall n hn (by simpa using h)
      · rw [Nat.toDigits_of_base_le (by decide) (Nat.le_of_not_lt hn),
          List.head?_append_of_ne_nil _ Nat.toDigits_ne_nil] at h
        have hdiv := ih (n / 10) (by omega) h
        omega

theorem isDigit_of_mem_toDigits {n : Nat} {c : Char} (h : c ∈ Nat.toDigits 10 n) :
    c.isDigit = true :=
  Nat.isDigit_of_mem_toDigits (by decide) (by decide) h

theorem readNat_toDigits (n : Nat) : readNat (Nat.toDigits 10 n) = some n := by
  have hzero : (Nat.toDigits 10 n).head? = some '0' → Nat.toDigits 10 n = ['0'] := by
    intro h
    rw [head?_toDigits h, Nat.toDigits_zero]
  have hall : (Nat.toDigits 10 n).all Char.isDigit = true :=
    List.all_eq_true.mpr fun c hc => isDigit_of_mem_toDigits hc
  rw [readNat, if_pos ⟨Nat.toDigits_ne_nil, hall, hzero⟩, Nat.ofDigitChars_ten_toDigits]

/-- **An integer that is written is read back.** -/
theorem readInt_intText (i : Int) : readInt (intText i) = some i := by
  cases i with
  | negSucc n =>
      rw [intText, readInt, readNat_toDigits]
      rfl
  | ofNat n =>
      have hminus : ∀ ds, Nat.toDigits 10 n ≠ '-' :: ds := by
        intro ds h
        have hdigit : '-'.isDigit = true := isDigit_of_mem_toDigits (n := n) (by simp [h])
        contradiction
      rw [intText, readInt.eq_2 _ hminus, readNat_toDigits]
      rfl

theorem isNumeric_of_mem_intText {i : Int} {c : Char} (h : c ∈ intText i) :
    isNumeric c = true ∧ isFractional c = false := by
  have hdigit : ∀ c : Char, c.isDigit = true → isNumeric c = true ∧ isFractional c = false := by
    intro c hc
    refine ⟨by simp [isNumeric, hc], ?_⟩
    rw [isFractional, decide_eq_false_iff_not]
    rintro hmem
    simp only [List.mem_cons, List.not_mem_nil, or_false] at hmem
    rcases hmem with rfl | rfl | rfl <;> exact absurd hc (by decide)
  cases i with
  | ofNat n => exact hdigit c (isDigit_of_mem_toDigits h)
  | negSucc n =>
      rcases List.mem_cons.mp h with rfl | h
      · decide
      · exact hdigit c (isDigit_of_mem_toDigits h)

/-- A number ends where a text ends or goes on with another character. -/
def Ends (rest : List Char) : Prop := ∀ c ∈ rest.head?, isNumeric c = false

theorem takeWhile_of_ends {token rest : List Char} (h : ∀ c ∈ token, isNumeric c = true)
    (hends : Ends rest) : (token ++ rest).takeWhile isNumeric = token ∧
      (token ++ rest).dropWhile isNumeric = rest := by
  have hrest : rest.takeWhile isNumeric = [] ∧ rest.dropWhile isNumeric = rest := by
    cases rest with
    | nil => simp
    | cons c rest => simp [hends c rfl]
  rw [List.takeWhile_append_of_pos h, List.dropWhile_append_of_pos h, hrest.1, hrest.2]
  simp

theorem readNumber_intText (floats : Floats) (i : Int) {rest : List Char} (hends : Ends rest) :
    readNumber floats (intText i ++ rest) = some (.int i, rest) := by
  have htoken : ∀ c ∈ intText i, isNumeric c = true := fun _ hc => (isNumeric_of_mem_intText hc).1
  have hnumeric := takeWhile_of_ends htoken hends
  have hinteger : (intText i).any isFractional = false := by
    simpa using fun c hc => (isNumeric_of_mem_intText hc).2
  simp [readNumber, hnumeric, hinteger, readInt_intText]

theorem readNumber_repr (floats : Floats) {q : Rat} (hfloat : floats.IsFloat q)
    {rest : List Char} (hends : Ends rest) :
    readNumber floats (floats.repr q ++ rest) = some (.float q, rest) := by
  have hnumeric := takeWhile_of_ends (floats.numeric q hfloat) hends
  have hfractional : (floats.repr q).any isFractional = true :=
    List.any_eq_true.mpr (floats.fractional q hfloat)
  simp [readNumber, hnumeric, hfractional, floats.parse_repr q hfloat]

end Json
