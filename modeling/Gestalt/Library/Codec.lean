import Gestalt.Library.Value

/-!
# Gestalt.Library.Codec

Dumping typed records into values and validating values back into records.

A `Codec` is a pair of a dump, which never fails, and a load, which re-runs
the validators.  The validators may look at a context (the clock, for one),
so the question a client asks is not whether the pair round-trips but *when*:
`c.Reads ctx a` says that the dump of `a` loads back as `a` in `ctx`.

Combinators build the codecs of lists, options, dictionaries and constrained
types; for each there is one lemma that reduces `Reads` to the parts.  A
record is loaded field by field with `field`, after `fieldsOf` has checked
that the value is a dictionary without undeclared keys.
-/

/-- Why a value was rejected: the path of the offending field and the problem. -/
structure LoadError where
  path : List String
  problem : String

/-- A dump with the load that validates it. -/
structure Codec (Ctx α : Type) where
  dump : α → Value
  load : Ctx → Value → Except LoadError α

namespace Codec

variable {Ctx α β : Type}

/-- The dump of `a` validates in `ctx` and gives `a` back. -/
def Reads (c : Codec Ctx α) (ctx : Ctx) (a : α) : Prop := c.load ctx (c.dump a) = .ok a

/-- A value of the wrong type. -/
def expected (type : String) : Except LoadError α := .error ⟨[], s!"Input should be a valid {type}"⟩

/-! ## scalars -/

/-- Any value at all, kept as it is. -/
def any : Codec Ctx Value := ⟨id, fun _ v => .ok v⟩

/-- A string. -/
def str : Codec Ctx String where
  dump := .str
  load
    | _, .str s => .ok s
    | _, _ => expected "string"

/-- An integer. -/
def int : Codec Ctx Int where
  dump := .int
  load
    | _, .int i => .ok i
    | _, _ => expected "integer"

/-- A float, read as an exact rational. -/
def float : Codec Ctx Rat where
  dump := .float
  load
    | _, .float q => .ok q
    | _, .int i => .ok i
    | _, _ => expected "number"

/-- A boolean. -/
def bool : Codec Ctx Bool where
  dump := .bool
  load
    | _, .bool b => .ok b
    | _, _ => expected "boolean"

/-- An identifier. -/
def uuid : Codec Ctx Nat where
  dump := .uuid
  load
    | _, .uuid u => .ok u
    | _, _ => expected "UUID"

/-- An instant. -/
def datetime : Codec Ctx Int where
  dump := .datetime
  load
    | _, .datetime t => .ok t
    | _, _ => expected "datetime"

/-- A member of the enumeration `enum`, looked up by its value. -/
def member (enum : String) (value : α → String) (ofValue : String → Option α) : Codec Ctx α where
  dump a := .member enum (value a)
  load
    | _, .member _ s | _, .str s =>
        match ofValue s with
        | some a => .ok a
        | none => expected enum
    | _, _ => expected enum

/-! ## combinators -/

/-- A field that may be `None`. -/
def option (c : Codec Ctx α) : Codec Ctx (Option α) where
  dump
    | none => .none
    | some a => c.dump a
  load
    | _, .none => .ok none
    | ctx, v => some <$> c.load ctx v

/-- Load every element in order. -/
def loadAll (c : Codec Ctx α) (ctx : Ctx) : List Value → Except LoadError (List α)
  | [] => .ok []
  | v :: vs =>
      match c.load ctx v with
      | .error e => .error e
      | .ok a =>
          match loadAll c ctx vs with
          | .error e => .error e
          | .ok as => .ok (a :: as)

/-- A list. -/
def list (c : Codec Ctx α) : Codec Ctx (List α) where
  dump as := .list (as.map c.dump)
  load
    | ctx, .list vs => loadAll c ctx vs
    | _, _ => expected "list"

/-- Load the value of every item in order. -/
def loadItems (c : Codec Ctx α) (ctx : Ctx) : List (String × Value) → Except LoadError (Dict α)
  | [] => .ok []
  | (k, v) :: items =>
      match c.load ctx v with
      | .error e => .error e
      | .ok a =>
          match loadItems c ctx items with
          | .error e => .error e
          | .ok as => .ok ((k, a) :: as)

/-- A dictionary of values. -/
def dict (c : Codec Ctx α) : Codec Ctx (Dict α) where
  dump d := .dict (d.map fun kv => (kv.1, c.dump kv.2))
  load
    | ctx, .dict items => loadItems c ctx items
    | _, _ => expected "dictionary"

/-- A constrained type: the dump forgets the constraint, the load checks it. -/
def refine (c : Codec Ctx β) (forget : α → β) (check : Ctx → β → Except LoadError α) :
    Codec Ctx α where
  dump a := c.dump (forget a)
  load ctx v := (c.load ctx v).bind (check ctx)

/-! ## when they read back -/

section Reads

variable (ctx : Ctx)

@[simp] theorem reads_any (v : Value) : (any : Codec Ctx Value).Reads ctx v := rfl

@[simp] theorem reads_str (s : String) : (str : Codec Ctx String).Reads ctx s := rfl

@[simp] theorem reads_int (i : Int) : (int : Codec Ctx Int).Reads ctx i := rfl

@[simp] theorem reads_float (q : Rat) : (float : Codec Ctx Rat).Reads ctx q := rfl

@[simp] theorem reads_bool (b : Bool) : (bool : Codec Ctx Bool).Reads ctx b := rfl

@[simp] theorem reads_uuid (u : Nat) : (uuid : Codec Ctx Nat).Reads ctx u := rfl

@[simp] theorem reads_datetime (t : Int) : (datetime : Codec Ctx Int).Reads ctx t := rfl

theorem reads_member {enum : String} {value : α → String} {ofValue : String → Option α} {a : α}
    (h : ofValue (value a) = some a) : (member enum value ofValue : Codec Ctx α).Reads ctx a := by
  simp [Reads, member, h]

/-- An optional field reads back when its value, if any, does and does not
dump as `None`. -/
theorem reads_option {c : Codec Ctx α} (hnone : ∀ a, c.dump a ≠ .none) {o : Option α}
    (h : ∀ a ∈ o, c.Reads ctx a) : (option c).Reads ctx o := by
  cases o with
  | none => rfl
  | some a =>
      have ha : c.load ctx (c.dump a) = .ok a := h a rfl
      simp only [Reads, option]
      split
      · next hd => exact absurd hd (hnone a)
      · rw [ha]; rfl

/-- **A list reads back exactly when each element does.** -/
theorem reads_list {c : Codec Ctx α} {as : List α} :
    (list c).Reads ctx as ↔ ∀ a ∈ as, c.Reads ctx a := by
  simp only [Reads, list]
  induction as with
  | nil => simp [loadAll]
  | cons a as ih =>
      simp only [List.map_cons, loadAll, List.mem_cons, forall_eq_or_imp]
      cases ha : c.load ctx (c.dump a) with
      | error e => simp
      | ok b =>
          cases hs : loadAll c ctx (as.map c.dump) with
          | error e =>
              rw [hs] at ih
              simp only [reduceCtorEq, false_iff] at ih
              simp [ih]
          | ok bs =>
              rw [hs, Except.ok.injEq] at ih
              simp [ih]

/-- A list never loads as another list when no element loads as another. -/
theorem eq_of_load_list {c : Codec Ctx α}
    (hc : ∀ a b, c.load ctx (c.dump a) = .ok b → b = a) {as bs : List α}
    (h : (list c).load ctx ((list c).dump as) = .ok bs) : bs = as := by
  simp only [list] at h
  induction as generalizing bs with
  | nil => simpa [loadAll, eq_comm] using h
  | cons a as ih =>
      simp only [List.map_cons, loadAll] at h
      cases ha : c.load ctx (c.dump a) with
      | error e => simp [ha] at h
      | ok b =>
          cases hs : loadAll c ctx (as.map c.dump) with
          | error e => simp [ha, hs] at h
          | ok cs =>
              simp only [ha, hs, Except.ok.injEq] at h
              rw [← h, hc a b ha, ih hs]

/-- A dictionary reads back when each of its values does. -/
theorem reads_dict {c : Codec Ctx α} {d : Dict α} (h : ∀ kv ∈ d, c.Reads ctx kv.2) :
    (dict c).Reads ctx d := by
  simp only [Reads, dict]
  induction d with
  | nil => rfl
  | cons kv d ih =>
      have hkv : c.load ctx (c.dump kv.2) = .ok kv.2 := h kv (List.mem_cons_self ..)
      have hd := ih fun kv' hkv' => h kv' (List.mem_cons_of_mem _ hkv')
      simp only [List.map_cons, loadItems, hkv, hd]

/-- A constrained value reads back exactly when the check, run again, accepts
it unchanged. -/
theorem reads_refine {c : Codec Ctx β} {forget : α → β} {check : Ctx → β → Except LoadError α}
    {a : α} (hc : c.Reads ctx (forget a)) :
    (refine c forget check).Reads ctx a ↔ check ctx (forget a) = .ok a := by
  have hl : c.load ctx (c.dump (forget a)) = .ok (forget a) := hc
  simp [Reads, refine, hl, Except.bind]

end Reads

/-! ## lossless codecs -/

/-- A codec that reads back everything it dumps, in every context. -/
class Lossless (c : Codec Ctx α) : Prop where
  reads : ∀ ctx a, c.Reads ctx a

/-- A codec that never dumps `None`. -/
class Present (c : Codec Ctx α) : Prop where
  dump_ne_none : ∀ a, c.dump a ≠ .none

@[simp] theorem load_dump (c : Codec Ctx α) [Lossless c] (ctx : Ctx) (a : α) :
    c.load ctx (c.dump a) = .ok a := Lossless.reads ctx a

section Instances

instance : Lossless (any : Codec Ctx Value) := ⟨reads_any⟩
instance : Lossless (str : Codec Ctx String) := ⟨reads_str⟩
instance : Lossless (int : Codec Ctx Int) := ⟨reads_int⟩
instance : Lossless (float : Codec Ctx Rat) := ⟨reads_float⟩
instance : Lossless (bool : Codec Ctx Bool) := ⟨reads_bool⟩
instance : Lossless (uuid : Codec Ctx Nat) := ⟨reads_uuid⟩
instance : Lossless (datetime : Codec Ctx Int) := ⟨reads_datetime⟩

instance : Present (str : Codec Ctx String) := ⟨fun _ => by simp [str]⟩
instance : Present (uuid : Codec Ctx Nat) := ⟨fun _ => by simp [uuid]⟩
instance (c : Codec Ctx α) : Present (list c) := ⟨fun _ => by simp [list]⟩

instance (c : Codec Ctx α) [Lossless c] [Present c] : Lossless (option c) :=
  ⟨fun ctx _ => reads_option ctx Present.dump_ne_none fun a _ => Lossless.reads ctx a⟩

instance (c : Codec Ctx α) [Lossless c] : Lossless (list c) :=
  ⟨fun ctx _ => (reads_list ctx).mpr fun a _ => Lossless.reads ctx a⟩

instance (c : Codec Ctx α) [Lossless c] : Lossless (dict c) :=
  ⟨fun ctx _ => reads_dict ctx fun kv _ => Lossless.reads ctx kv.2⟩

end Instances

/-! ## records -/

/-- A sequence of checks that succeeds has a first check that succeeds. -/
theorem exists_of_bind_eq_ok {ε : Type} {x : Except ε α} {f : α → Except ε β} {b : β}
    (h : (x >>= f) = .ok b) : ∃ a, x = .ok a ∧ f a = .ok b := by
  cases x with
  | error e => contradiction
  | ok a => exact ⟨a, rfl, h⟩

/-- The items of a dictionary none of whose keys is undeclared. -/
def fieldsOf (model : String) (declared : List String) : Value → Except LoadError (Dict Value)
  | .dict items =>
      match items.find? fun kv => kv.1 ∉ declared with
      | some kv => .error ⟨[kv.1], "Extra inputs are not permitted"⟩
      | none => .ok items
  | _ => expected model

/-- Load the field `key`; a field that is absent takes its declared default. -/
def field (d : Dict Value) (key : String) (c : Codec Ctx α) (ctx : Ctx)
    (default : Option α := none) : Except LoadError α :=
  match d.get? key with
  | some v =>
      match c.load ctx v with
      | .ok a => .ok a
      | .error e => .error ⟨key :: e.path, e.problem⟩
  | none =>
      match default with
      | some a => .ok a
      | none => .error ⟨[key], "Field required"⟩

end Codec
