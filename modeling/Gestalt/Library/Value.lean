/-!
# Gestalt.Library.Value

Dynamically typed values and insertion-ordered dictionaries.

`Value` is what a dictionary of free-form data holds once it has been parsed:
JSON data, plus the identifiers, instants and enumeration members that a
dump of typed records leaves in place.  The members are those of string
enumerations, which are strings themselves.  A dictionary is its list of
items in insertion order: replacing the value of a key that is present keeps
its place, a new key goes to the end.
-/

/-- A dynamically typed value. -/
inductive Value where
  | none
  | bool (b : Bool)
  | int (i : Int)
  | float (q : Rat)
  | str (s : String)
  | uuid (u : Nat)
  | datetime (t : Int)
  | member (enum value : String)
  | list (xs : List Value)
  | dict (items : List (String × Value))

/-- An insertion-ordered dictionary. -/
abbrev Table (κ α : Type) := List (κ × α)

/-- A dictionary with string keys. -/
abbrev Dict (α : Type) := Table String α

namespace Table

variable {κ α : Type} [DecidableEq κ]

/-- `d.get(key)`. -/
def get? : Table κ α → κ → Option α
  | [], _ => none
  | (k, v) :: d, key => if k = key then some v else get? d key

/-- `key in d`. -/
def contains (d : Table κ α) (key : κ) : Bool := (d.get? key).isSome

/-- `d[key] = v`: in place when the key is present, at the end otherwise. -/
def set : Table κ α → κ → α → Table κ α
  | [], key, v => [(key, v)]
  | (k, w) :: d, key, v => if k = key then (k, v) :: d else (k, w) :: set d key v

/-- `d.update(items)`. -/
def update (d items : Table κ α) : Table κ α := items.foldl (fun d kv => d.set kv.1 kv.2) d

@[simp] theorem get?_nil (key : κ) : get? ([] : Table κ α) key = none := rfl

@[simp] theorem get?_cons (k key : κ) (v : α) (d : Table κ α) :
    get? ((k, v) :: d) key = if k = key then some v else get? d key := rfl

@[simp] theorem update_nil (d : Table κ α) : d.update [] = d := rfl

@[simp] theorem update_cons (d : Table κ α) (k : κ) (v : α) (items : Table κ α) :
    d.update ((k, v) :: items) = (d.set k v).update items := rfl

/-- A key reads back the value just set. -/
@[simp] theorem get?_set_self (d : Table κ α) (key : κ) (v : α) :
    (d.set key v).get? key = some v := by
  induction d with
  | nil => simp [set]
  | cons kw d ih =>
      obtain ⟨k, w⟩ := kw
      by_cases hk : k = key <;> simp [set, hk, ih]

/-- Setting one key leaves every other key alone. -/
theorem get?_set_of_ne {d : Table κ α} {k key : κ} (h : k ≠ key) (v : α) :
    (d.set k v).get? key = d.get? key := by
  induction d with
  | nil => simp [set, h]
  | cons kw d ih =>
      obtain ⟨k', w⟩ := kw
      by_cases hk : k' = k
      · subst hk
        simp [set, h]
      · simp [set, hk, ih]

/-- Reading a key after setting one. -/
@[simp] theorem get?_set (d : Table κ α) (k key : κ) (v : α) :
    (d.set k v).get? key = if k = key then some v else d.get? key := by
  by_cases h : k = key
  · subst h
    simp
  · simp [h, get?_set_of_ne h]

/-- A new key goes to the end. -/
theorem set_of_not_mem {d : Table κ α} {key : κ} (h : key ∉ d.map Prod.fst) (v : α) :
    d.set key v = d ++ [(key, v)] := by
  induction d with
  | nil => rfl
  | cons kw d ih =>
      rw [List.map_cons, List.mem_cons, not_or] at h
      rw [set, if_neg (Ne.symm h.1), ih h.2]
      rfl

/-- New keys that differ go to the end in order. -/
theorem update_eq_append {d items : Table κ α} (h : ((d ++ items).map Prod.fst).Nodup) :
    d.update items = d ++ items := by
  induction items generalizing d with
  | nil => simp
  | cons kv items ih =>
      have hnew : kv.1 ∉ d.map Prod.fst := by
        rw [List.map_append, List.map_cons, List.nodup_append] at h
        exact fun hmem => h.2.2 _ hmem _ (List.mem_cons_self ..) rfl
      rw [update_cons, set_of_not_mem hnew, ih (by simpa using h)]
      simp

/-- A dictionary is its items. -/
theorem update_of_nodup {items : Table κ α} (h : (items.map Prod.fst).Nodup) :
    update [] items = items := update_eq_append h

theorem mem_of_get? {d : Table κ α} {key : κ} {v : α} (h : d.get? key = some v) :
    (key, v) ∈ d := by
  induction d with
  | nil => simp at h
  | cons kw d ih =>
      rw [get?_cons] at h
      split at h
      · next hk =>
          obtain rfl := Option.some.inj h
          simp [← hk]
      · exact List.mem_cons_of_mem _ (ih h)

end Table

namespace Value

/-- `bool(v)`, the test an `if` makes. -/
def truthy : Value → Bool
  | none => false
  | bool b => b
  | int i => i ≠ 0
  | float q => q ≠ 0
  | str s | member _ s => s ≠ ""
  | uuid _ | datetime _ => true
  | list xs => !xs.isEmpty
  | dict items => !items.isEmpty

/-- The string a value is, when `isinstance(v, str)`. -/
def asStr? : Value → Option String
  | str s | member _ s => some s
  | _ => Option.none

/-- `list(v)`: the items of a list, the keys of a dictionary, the characters
of a string.  Anything else is not iterable. -/
def iterate? : Value → Option (List Value)
  | list xs => some xs
  | dict items => some (items.map fun kv => str kv.1)
  | str s | member _ s => some (s.toList.map fun c => str (String.singleton c))
  | _ => Option.none

/-- The name of the type of `v` in the interpreter's own messages. -/
def typeName : Value → String
  | none => "NoneType"
  | bool _ => "bool"
  | int _ => "int"
  | float _ => "float"
  | str _ => "str"
  | uuid _ => "UUID"
  | datetime _ => "datetime.datetime"
  | member enum _ => enum
  | list _ => "list"
  | dict _ => "dict"

/-- The number a value is: a boolean is one. -/
def asNumber? : Value → Option Rat
  | bool b => some (if b then 1 else 0)
  | int i => some i
  | float q => some q
  | _ => Option.none

mutual

/-- `a == b`: numbers by their value, strings by their text, lists item by item and
dictionaries key by key. -/
def equals : Value → Value → Bool
  | none, none => true
  | uuid u, uuid w => u = w
  | datetime t, datetime u => t = u
  | list xs, list ys => equalsAll xs ys
  | dict items, dict others => items.length = others.length && equalsItems items others
  | a, b =>
      match a.asNumber?, b.asNumber?, a.asStr?, b.asStr? with
      | some p, some q, _, _ => p = q
      | _, _, some s, some t => s = t
      | _, _, _, _ => false

def equalsAll : List Value → List Value → Bool
  | [], [] => true
  | x :: xs, y :: ys => equals x y && equalsAll xs ys
  | _, _ => false

def equalsItems : List (String × Value) → List (String × Value) → Bool
  | [], _ => true
  | (k, x) :: items, others =>
      (match Table.get? others k with
      | some y => equals x y
      | Option.none => false) && equalsItems items others

end

/-- Only `None` equals `None`. -/
@[simp] theorem none_equals (v : Value) : equals none v = true ↔ v = none := by
  cases v <;> simp [equals, asNumber?, asStr?]

end Value
