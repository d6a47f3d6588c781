import Mathlib.Algebra.Order.Field.Rat
import Mathlib.Data.List.Infix

/-!
# Gestalt.Fields

The constrained field types of the protocol models.  A field declared with
`min_length`, `ge` or `le` is a type whose values satisfy the constraint, so
a record that breaks one of its declarations cannot be built; `check?` is the
validation that admits a raw value.  An instant is an `Int`: microseconds
since the epoch.
-/

namespace Gestalt

/-- A UUID, by its 128-bit number. -/
abbrev Uuid := Nat

/-! ## strings -/

/-- `str` with `min_length=n`. -/
structure MinStr (n : Nat) where
  val : String
  min_length : n ≤ val.length
  deriving DecidableEq

namespace MinStr

/-- Admit a string that is long enough. -/
def check? (n : Nat) (s : String) : Option (MinStr n) :=
  if h : n ≤ s.length then some ⟨s, h⟩ else none

/-- A literal, whose length is checked where it stands. -/
def text {n : Nat} (s : String) (min_length : n ≤ s.length := by decide) : MinStr n :=
  ⟨s, min_length⟩

@[simp] theorem check?_val {n : Nat} (s : MinStr n) : check? n s.val = some s := by
  simp [check?, s.min_length]

/-- A checked string is the one given. -/
theorem val_of_check? {n : Nat} {s : String} {checked : MinStr n} (h : check? n s = some checked) :
    checked.val = s := by
  unfold check? at h
  split at h
  · rw [← Option.some.inj h]
  · contradiction

theorem check?_of_le {n : Nat} {s : String} (h : n ≤ s.length) : check? n s = some ⟨s, h⟩ := by
  simp [check?, h]

/-- A string that is long enough is long enough for a weaker constraint. -/
def weaken {n m : Nat} (s : MinStr n)
    (weaker : decide (m ≤ n) = true := by exact Eq.refl true) : MinStr m :=
  ⟨s.val, Nat.le_trans (of_decide_eq_true weaker) s.min_length⟩

/-- Text around a constrained string only makes it longer. -/
def append {n : Nat} (s : MinStr n) (rest : String) : MinStr n :=
  ⟨s.val ++ rest, by rw [String.length_append]; exact Nat.le_add_right_of_le s.min_length⟩

end MinStr

/-! ## numbers -/

/-- `int` with `ge=0, le=100`. -/
structure Score where
  val : Int
  nonneg : 0 ≤ val
  le_hundred : val ≤ 100
  deriving DecidableEq

namespace Score

/-- Admit an integer in range. -/
def check? (i : Int) : Option Score :=
  if h : 0 ≤ i ∧ i ≤ 100 then some ⟨i, h.1, h.2⟩ else none

theorem check?_of_mem {i : Int} (h0 : 0 ≤ i) (h1 : i ≤ 100) : check? i = some ⟨i, h0, h1⟩ := by
  simp [check?, h0, h1]

@[simp] theorem check?_val (s : Score) : check? s.val = some s :=
  check?_of_mem s.nonneg s.le_hundred

/-- `max(0, min(100, value))`. -/
def clamp (i : Int) : Score := ⟨max 0 (min 100 i), by omega, by omega⟩

theorem val_of_check? {i : Int} {score : Score} (h : check? i = some score) : score.val = i := by
  unfold check? at h
  split at h
  · rw [← Option.some.inj h]
  · contradiction

end Score

/-- A `float` with `ge=0.0, le=1.0`. -/
structure Ratio where
  val : Rat
  nonneg : 0 ≤ val
  le_one : val ≤ 1

/-- Admit a number between 0 and 1. -/
def Ratio.check? (q : Rat) : Option Ratio :=
  if h : 0 ≤ q ∧ q ≤ 1 then some ⟨q, h.1, h.2⟩ else none

theorem Ratio.val_of_check? {q : Rat} {ratio : Ratio} (h : check? q = some ratio) :
    ratio.val = q := by
  unfold check? at h
  split at h
  · rw [← Option.some.inj h]
  · contradiction

/-- A `float` with `ge=0.0`. -/
structure NonNegFloat where
  val : Rat
  nonneg : 0 ≤ val

/-- Admit a number that is not negative. -/
def NonNegFloat.check? (q : Rat) : Option NonNegFloat :=
  if h : 0 ≤ q then some ⟨q, h⟩ else none

theorem NonNegFloat.val_of_check? {q : Rat} {checked : NonNegFloat} (h : check? q = some checked) :
    checked.val = q := by
  unfold check? at h
  split at h
  · rw [← Option.some.inj h]
  · contradiction

/-! ## Python arithmetic and text -/

/-- `int(x)` of a float: truncation toward zero. -/
def truncate (q : Rat) : Int := Int.tdiv q.num q.den

/-- Round to the nearest integer, ties to even. -/
def roundHalfEven (q : Rat) : Int :=
  let below := q.num / q.den
  let rest := q - below
  if rest < 1 / 2 then below
  else if 1 / 2 < rest then below + 1
  else if below % 2 = 0 then below else below + 1

/-- `f"{q:.{digits}f}"`. -/
def fixed (digits : Nat) (q : Rat) : String :=
  let scaled := (roundHalfEven (q * 10 ^ digits)).natAbs
  let sign := if q < 0 then "-" else ""
  let body := toString (scaled / 10 ^ digits)
  let frac := toString (scaled % 10 ^ digits)
  if digits = 0 then sign ++ body
  else sign ++ body ++ "." ++ "".pushn '0' (digits - frac.length) ++ frac

/-- `f"{q:.2%}"`. -/
def percent (q : Rat) : String := fixed 2 (q * 100) ++ "%"

/-- `str.isspace` of one character. -/
def isSpace (c : Char) : Bool :=
  let n := c.toNat
  (9 ≤ n && n ≤ 13) || (28 ≤ n && n ≤ 32) || n = 0x85 || n = 0xa0 || n = 0x1680 ||
    (0x2000 ≤ n && n ≤ 0x200a) || n = 0x2028 || n = 0x2029 || n = 0x202f || n = 0x205f ||
    n = 0x3000

/-- `s.strip()`. -/
def strip (s : String) : String :=
  String.ofList ((s.toList.dropWhile isSpace).reverse.dropWhile isSpace).reverse

/-- `not s.strip()`: nothing is left once surrounding white space is removed. -/
def blank (s : String) : Bool := s.toList.all isSpace

/-- `keyword in text`. -/
def occursIn (keyword text : String) : Bool := decide (keyword.toList <:+: text.toList)

end Gestalt
