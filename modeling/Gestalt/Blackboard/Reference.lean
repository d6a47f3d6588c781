import Gestalt.Blackboard.Memory
import Gestalt.Reference

/-!
# Gestalt.Blackboard.Reference

A concrete memory table: identifiers in their canonical form, JSON without
escapes, a record worth finding and records of telemetry.
-/

namespace Gestalt

open Blackboard

namespace Reference

/-! ## texts -/

/-- `str` of an identifier. -/
def uuidText (u : Uuid) : MinStr 1 :=
  let digits := (Nat.toDigits 16 u).leftpad 32 '0'
  let group := fun start count => (digits.drop start).take count
  ⟨String.ofList (group 0 8 ++ '-' :: (group 8 4 ++ '-' :: (group 12 4 ++ '-' :: (group 16 4 ++
    '-' :: group 20 12)))), by
      rw [String.length_ofList, List.length_append, List.length_cons]
      omega⟩

/-- `UUID` of a text in canonical form. -/
def uuidOf (text : String) : Uuid :=
  Nat.ofDigitChars 16 (text.toList.filter (· ≠ '-')) 0

/-- The runtime with the texts of identifiers as they are. -/
def storeRuntime : Runtime := { runtime with idText := uuidText }

mutual

/-- `json.dumps`, of strings without escapes; not of floats. -/
def jsonText : Value → Option String
  | .none => some "null"
  | .bool b => some (if b then "true" else "false")
  | .int i => some (toString i)
  | .str s | .member _ s => some ("\"" ++ s ++ "\"")
  | .list xs => (jsonItems xs).map fun items => "[" ++ ", ".intercalate items ++ "]"
  | .dict items => (jsonFields items).map fun fields => "\x7b" ++ ", ".intercalate fields ++ "\x7d"
  | .float _ | .uuid _ | .datetime _ => none

def jsonItems : List Value → Option (List String)
  | [] => some []
  | x :: xs => do return (← jsonText x) :: (← jsonItems xs)

def jsonFields : List (String × Value) → Option (List String)
  | [] => some []
  | (k, x) :: items => do return ("\"" ++ k ++ "\": " ++ (← jsonText x)) :: (← jsonFields items)

end

/-- The values the table below holds. -/
def jsonValues : List Value :=
  [.list [], .dict [], .list [.str "redis", .str "incident"], .list [.str "stats"],
   .dict [("severity", .str "high")]]

/-- The columns. -/
def jsonColumns : Columns where
  idOf text := .ok (uuidOf text)
  dumps value :=
    match jsonText value with
    | some text => .ok text
    | none => .error (.typeError "Object is not JSON serializable")
  loads text :=
    match jsonValues.find? fun value => jsonText value = some text with
    | some value => .ok value
    | none => .error (.valueError "Expecting value")
  context := ⟨0, 0⟩

/-- Whole floats, as they are written below `1e16`. -/
def wholeFloats : Json.Floats where
  IsFloat q := ∃ i : Int, i.natAbs < 10 ^ 16 ∧ q = i
  repr q := Json.intText q.num ++ ['.', '0']
  parse token :=
    if ['.', '0'] <:+ token then
      (Json.readInt (token.take (token.length - 2))).map fun i => (i : Rat)
    else none
  numeric := by
    rintro q - c hc
    rcases List.mem_append.mp hc with hc | hc
    · exact (Json.isNumeric_of_mem_intText hc).1
    · simp only [List.mem_cons, List.not_mem_nil, or_false] at hc
      rcases hc with rfl | rfl <;> decide
  fractional q _ := ⟨'.', by simp, by decide⟩
  parse_repr := by
    rintro q ⟨i, -, rfl⟩
    simp [Json.readInt_intText]

/-! ## records -/

/-- A record worth finding. -/
def incident : BlackboardMemoryRecord where
  recordId := 1
  traceId := 9
  memoryKind := .knowledge
  title := .text "Deployment incident"
  content := .text "Redis stream lag was detected in production."
  tags := ["redis", "incident"]
  embedding := some []
  metadata := [("severity", .str "high")]
  createdAt := 1

/-- A record of telemetry. -/
def telemetry (n : Nat) : BlackboardMemoryRecord where
  recordId := n
  traceId := 9
  memoryKind := .stats
  title := .text "Stats snapshot"
  content := .text "The load is nominal."
  tags := ["stats"]
  createdAt := n

/-- The record worth finding is read back. -/
theorem readsBack_incident : ReadsBack storeRuntime jsonColumns incident where
  recordId := rfl
  traceId := rfl
  tags := ⟨"[\"redis\", \"incident\"]", rfl, by decide, rfl⟩
  embedding := by
    rintro embedding ⟨⟩
    exact ⟨"[]", rfl, by decide, rfl⟩
  metadata := ⟨"\x7b\"severity\": \"high\"\x7d", rfl, by decide, rfl⟩

/-- So are records of telemetry. -/
theorem readsBack_telemetry {n : Nat} (hid : jsonColumns.idOf (storeRuntime.idText n).val = .ok n) :
    ReadsBack storeRuntime jsonColumns (telemetry n) where
  recordId := hid
  traceId := (rfl : jsonColumns.idOf (storeRuntime.idText 9).val = .ok 9)
  tags := ⟨"[\"stats\"]", rfl, by decide, rfl⟩
  embedding embedding hmem := by contradiction
  metadata := ⟨"\x7b\x7d", rfl, by decide, rfl⟩

/-- The text of the test suite's query. -/
def incidentQuery : BlackboardQuery where
  query := .text "redis incident"
  limit := 1
  limit_pos := by decide
  limit_le := by decide

/-- A single space. -/
def singleSpace : MinStr 1 := .text " "

/-- A query whose text is a single space. -/
def blankQuery : BlackboardQuery := { incidentQuery with query := singleSpace }

/-- The graph store knows no relation. -/
def unrelated (_ : String) : Except Exc (List BlackboardRelation) := .ok []

end Reference

end Gestalt
