import Gestalt.Config
import Gestalt.Library.Value
import Gestalt.Reference

/-!
# Gestalt.Config.Loading

`build_settings`, on any document whose top level is a mapping.

Five sections are taken apart before anything validates them: two are spread
into a new dictionary, one is asked for its `get`, two for both, and the names
of environment variables in them are looked up as they stand.  `pieces` lists
what is read in the order in which it is read.
-/

namespace Gestalt

namespace Loading

/-! ## documents -/

/-- A Python text: its code points, lone surrogates included. -/
abbrev Text := List Nat

/-- The code points of a literal. -/
def text (s : String) : Text := s.toList.map Char.toNat

/-- A key of a mapping: a text or another scalar. -/
inductive Key where
  | str (points : Text)
  | other (type literal : String)
  deriving DecidableEq

/-- What `yaml.safe_load` makes of a document. -/
inductive Yaml where
  | null
  | bool (b : Bool)
  | int (i : Int)
  | float (literal : String)
  | str (points : Text)
  | bytes (data : List UInt8)
  | date (iso : String)
  | datetime (iso : String)
  | set (members : List Key)
  | sequence (items : List Yaml)
  | mapping (entries : List (Key × Yaml))

/-- A mapping with the keys of a document. -/
abbrev Mapping := Table Key Yaml

namespace Yaml

/-- A text literal. -/
def literal (s : String) : Yaml := .str (text s)

/-- `type(value).__name__`. -/
def typeName : Yaml → String
  | null => "NoneType"
  | bool _ => "bool"
  | int _ => "int"
  | float _ => "float"
  | str _ => "str"
  | bytes _ => "bytes"
  | date _ => "date"
  | datetime _ => "datetime"
  | set _ => "set"
  | sequence _ => "list"
  | mapping _ => "dict"

/-- The name the interpreter's own messages use. -/
def qualifiedName : Yaml → String
  | date _ => "datetime.date"
  | datetime _ => "datetime.datetime"
  | v => v.typeName

/-- `isinstance(value, dict)`. -/
def isMapping : Yaml → Bool
  | mapping _ => true
  | _ => false

/-- The entries of a mapping. -/
def entries : Yaml → Mapping
  | mapping entries => entries
  | _ => []

/-- `value in (None, "")`. -/
def isMissing : Yaml → Bool
  | null | str [] => true
  | _ => false

/-- The code points of a text. -/
def points : Yaml → Text
  | str points => points
  | _ => []

end Yaml

namespace Mapping

/-- `d.get(key, default)`. -/
def get (d : Mapping) (key : String) (default : Yaml) : Yaml :=
  (d.get? (.str (text key))).getD default

/-- `{**d, key: value}`. -/
def extend (d : Mapping) (key : String) (value : Yaml) : Mapping :=
  Table.set d (.str (text key)) value

/-- `d.pop(key, None)`. -/
def pop (d : Mapping) (key : String) : Mapping := d.filter fun entry => entry.1 ≠ .str (text key)

/-- `payload.get(name, {})`. -/
def part (payload : Mapping) (name : String) : Yaml := payload.get name (.mapping [])

end Mapping

/-! ## errors -/

/-- What loading may raise.  Only the first is documented. -/
inductive ConfigError where
  | settingsError (message : Text)
  | typeError (message : String)
  | attributeError (message : String)
  | unicodeEncodeError (object : Text)

/-- `{**value}`. -/
def spread : Yaml → Except ConfigError Mapping
  | .mapping entries => .ok entries
  | v => .error (.typeError s!"'{v.qualifiedName}' object is not a mapping")

/-- `value.get`. -/
def attributeGet : Yaml → Except ConfigError Mapping
  | .mapping entries => .ok entries
  | v => .error (.attributeError s!"'{v.qualifiedName}' object has no attribute 'get'")

/-- The environment of the process. -/
abbrev Environ := Text → Option Text

/-- Whether the text has an encoding in UTF-8 with `surrogateescape`. -/
def encodable (points : Text) : Bool :=
  points.all fun p => !decide (0xD800 ≤ p ∧ p ≤ 0xDFFF) || decide (0xDC80 ≤ p ∧ p ≤ 0xDCFF)

/-- `os.getenv(name)`. -/
def getenv (environ : Environ) : Yaml → Except ConfigError (Option Text)
  | .str points =>
      if encodable points then .ok (environ points) else .error (.unicodeEncodeError points)
  | v => .error (.typeError s!"str expected, not {v.typeName}")

/-- `_resolve_env`. -/
def resolveEnv (environ : Environ) (name default : Yaml) : Except ConfigError Yaml := do
  let found ← getenv environ name
  let value := (found.map Yaml.str).getD default
  if value.isMissing then
    .error (.settingsError (text "Required environment variable is missing: " ++ name.points))
  else return value

/-! ## settings -/

/-- `_build_agent_configs`. -/
def buildAgentConfigs (payload : Mapping) : Yaml :=
  match payload.get? (.str (text "agents")) with
  | some (.mapping (entry :: entries)) => .mapping (entry :: entries)
  | _ => .mapping (defaults.map fun (name, tier) => (.str (text name), .mapping [
      (.str (text "enabled"), .bool true), (.str (text "max_retries"), .int 2),
      (.str (text "tool_allowlist"), (payload.part "tools").entries.get name (.sequence [])),
      (.str (text "model_preference"), .literal tier)]))
where
  defaults : List (String × String) :=
    [("orchestrator", "high"), ("monitor", "low"), ("analyzer", "medium"),
     ("planner_executor", "high"), ("optimizer", "medium"), ("knowledge", "medium"),
     ("security_audit", "critical")]

/-- What is handed to the validation. -/
structure NormalizedPayload where
  configPath : String
  app : Mapping
  models : Yaml
  blackboard : Mapping
  events : Mapping
  scheduler : Yaml
  stats : Yaml
  audit : Yaml
  telemetry : Mapping
  security : Yaml
  agents : Yaml

/-- `build_settings`, once the document is loaded.  `modelValidate` is
`GestaltSettings.model_validate`, with the text of its `ValidationError`. -/
def buildSettings (modelValidate : NormalizedPayload → Except Text GestaltSettings)
    (environ : Environ) (configPath : String) (payload : Mapping) :
    Except ConfigError GestaltSettings := do
  let app ← spread (payload.part "app")
  let adminToken ← resolveEnv environ
    (app.get "admin_token_env" (.literal "GESTALT_ADMIN_TOKEN")) (.literal "change-me")
  let blackboard ← attributeGet (payload.part "blackboard")
  let databaseUrl ← resolveEnv environ
    (blackboard.get "database_url_env" (.literal "GESTALT_DATABASE_URL"))
    (.literal "sqlite+aiosqlite:///./gestalt.db")
  let neo4jUri ← resolveEnv environ
    (blackboard.get "neo4j_uri_env" (.literal "GESTALT_NEO4J_URI")) (.literal "bolt://neo4j:7687")
  let neo4jUsername ← resolveEnv environ
    (blackboard.get "neo4j_username_env" (.literal "GESTALT_NEO4J_USERNAME")) (.literal "neo4j")
  let neo4jPassword ← resolveEnv environ
    (blackboard.get "neo4j_password_env" (.literal "GESTALT_NEO4J_PASSWORD"))
    (.literal "change-me")
  let events ← spread (payload.part "events")
  let redisUrl ← resolveEnv environ
    (events.get "redis_url_env" (.literal "GESTALT_REDIS_URL")) (.literal "redis://redis:6379/0")
  let telemetry ← spread (payload.part "telemetry")
  let serviceName ← resolveEnv environ
    (telemetry.get "service_name_env" (.literal "GESTALT_OTEL_SERVICE_NAME"))
    (app.get "name" (.literal "gestalt-core"))
  let exporterEndpoint ← getenv environ
    (telemetry.get "exporter_endpoint_env" (.literal "GESTALT_OTEL_EXPORTER_OTLP_ENDPOINT"))
  match modelValidate {
    configPath
    app := (app.extend "admin_token" adminToken).pop "admin_token_env"
    models := payload.part "models"
    blackboard := [
      (.str (text "database_url"), databaseUrl), (.str (text "neo4j_uri"), neo4jUri),
      (.str (text "neo4j_username"), neo4jUsername), (.str (text "neo4j_password"), neo4jPassword),
      (.str (text "vector_dimensions"), blackboard.get "vector_dimensions" (.int 24)),
      (.str (text "semantic_top_k"), blackboard.get "semantic_top_k" (.int 8)),
      (.str (text "memory_namespace"), blackboard.get "memory_namespace" (.literal "gestalt")),
      (.str (text "use_sqlite_fallback_for_tests"),
        blackboard.get "use_sqlite_fallback_for_tests" (.bool true))]
    events := (events.extend "redis_url" redisUrl).pop "redis_url_env"
    scheduler := payload.part "scheduler"
    stats := payload.part "stats"
    audit := payload.part "audit"
    telemetry := (((telemetry.extend "service_name" serviceName).extend "exporter_endpoint"
      ((exporterEndpoint.map Yaml.str).getD .null)).pop "service_name_env").pop
        "exporter_endpoint_env"
    security := payload.part "security"
    agents := buildAgentConfigs payload } with
  | .ok settings => return settings
  | .error e => .error (.settingsError (text "Invalid settings: " ++ e))

/-! ## what is read -/

/-- A piece of a document that is used before the validation: a section that has to
be a mapping, the name of a variable that is required, or of one that is not. -/
inductive Piece where
  | part (value : Yaml)
  | required (name default : Yaml)
  | optional (name : Yaml)

/-- The value names a variable the environment can be asked for. -/
def Yaml.isName : Yaml → Bool
  | str points => encodable points
  | _ => false

/-- What a required variable is resolved to. -/
def resolved (environ : Environ) (name default : Yaml) : Yaml :=
  ((environ name.points).map Yaml.str).getD default

namespace Piece

/-- The piece is what it is used as. -/
def wellFormed : Piece → Bool
  | part value => value.isMapping
  | required name _ | optional name => name.isName

/-- A required variable is unset without a default, or empty. -/
def missing (environ : Environ) : Piece → Bool
  | required name default => (resolved environ name default).isMissing
  | _ => false

/-- Each piece that is read is well formed; nothing is read after a required
variable that is missing. -/
def ReadsWell (environ : Environ) : List Piece → Prop
  | [] => True
  | piece :: rest =>
      piece.wellFormed = true ∧ (piece.missing environ = true ∨ ReadsWell environ rest)

/-- That is to say: before each piece that is malformed a variable is missing. -/
theorem readsWell_iff {environ : Environ} {pieces : List Piece} :
    ReadsWell environ pieces ↔ ∀ before piece after, pieces = before ++ piece :: after →
      piece.wellFormed = true ∨
        ∃ earlier ∈ before, earlier.wellFormed = true ∧ earlier.missing environ = true := by
  induction pieces with
  | nil => simp [ReadsWell]
  | cons first rest ih =>
      rw [ReadsWell, ih]
      constructor
      · intro h before piece after hsplit
        obtain ⟨hfirst, hrest⟩ := h
        cases before with
        | nil =>
            obtain ⟨rfl, -⟩ := List.cons.inj hsplit
            exact Or.inl hfirst
        | cons head before =>
            obtain ⟨rfl, htail⟩ := List.cons.inj hsplit
            rcases hrest with hmissing | hrest
            · exact Or.inr ⟨first, List.mem_cons_self, hfirst, hmissing⟩
            · refine (hrest before piece after htail).imp_right fun h => ?_
              obtain ⟨earlier, hmem, hearlier⟩ := h
              exact ⟨earlier, List.mem_cons_of_mem _ hmem, hearlier⟩
      · intro h
        refine ⟨?_, ?_⟩
        · simpa using h [] first rest rfl
        · by_cases hmissing : first.missing environ = true
          · exact Or.inl hmissing
          · refine Or.inr fun before piece after hsplit => ?_
            have hpiece := h (first :: before) piece after (by rw [hsplit]; rfl)
            simpa [hmissing] using hpiece

end Piece

/-- The pieces of a document, in the order in which they are read. -/
def pieces (payload : Mapping) : List Piece :=
  let app := (payload.part "app").entries
  let blackboard := (payload.part "blackboard").entries
  let events := (payload.part "events").entries
  let telemetry := (payload.part "telemetry").entries
  [.part (payload.part "app"),
   .required (app.get "admin_token_env" (.literal "GESTALT_ADMIN_TOKEN")) (.literal "change-me"),
   .part (payload.part "blackboard"),
   .required (blackboard.get "database_url_env" (.literal "GESTALT_DATABASE_URL"))
     (.literal "sqlite+aiosqlite:///./gestalt.db"),
   .required (blackboard.get "neo4j_uri_env" (.literal "GESTALT_NEO4J_URI"))
     (.literal "bolt://neo4j:7687"),
   .required (blackboard.get "neo4j_username_env" (.literal "GESTALT_NEO4J_USERNAME"))
     (.literal "neo4j"),
   .required (blackboard.get "neo4j_password_env" (.literal "GESTALT_NEO4J_PASSWORD"))
     (.literal "change-me"),
   .part (payload.part "events"),
   .required (events.get "redis_url_env" (.literal "GESTALT_REDIS_URL"))
     (.literal "redis://redis:6379/0"),
   .part (payload.part "telemetry"),
   .required (telemetry.get "service_name_env" (.literal "GESTALT_OTEL_SERVICE_NAME"))
     (app.get "name" (.literal "gestalt-core")),
   .optional (telemetry.get "exporter_endpoint_env"
     (.literal "GESTALT_OTEL_EXPORTER_OTLP_ENDPOINT"))]

/-! ## loading -/

/-- The result is a value or the documented error. -/
def Documented {α : Type} (result : Except ConfigError α) : Prop :=
  (∃ a, result = .ok a) ∨ ∃ message, result = .error (.settingsError message)

section Steps

variable {α : Type} {environ : Environ}

theorem documented_spread_bind {v : Yaml} {f : Mapping → Except ConfigError α} :
    Documented (spread v >>= f) ↔ v.isMapping = true ∧ Documented (f v.entries) := by
  cases v with
  | mapping entries => simp [spread, Yaml.isMapping, Yaml.entries, bind, Except.bind]
  | _ => simp [spread, Yaml.isMapping, Documented, bind, Except.bind]

theorem documented_attributeGet_bind {v : Yaml} {f : Mapping → Except ConfigError α} :
    Documented (attributeGet v >>= f) ↔ v.isMapping = true ∧ Documented (f v.entries) := by
  cases v with
  | mapping entries => simp [attributeGet, Yaml.isMapping, Yaml.entries, bind, Except.bind]
  | _ => simp [attributeGet, Yaml.isMapping, Documented, bind, Except.bind]

theorem documented_getenv_bind {name : Yaml} {f : Option Text → Except ConfigError α} :
    Documented (getenv environ name >>= f) ↔
      name.isName = true ∧ Documented (f (environ name.points)) := by
  cases name with
  | str points =>
      by_cases h : encodable points = true
      · simp [getenv, Yaml.isName, Yaml.points, h, bind, Except.bind]
      · simp [getenv, Yaml.isName, h, Documented, bind, Except.bind]
  | _ => simp [getenv, Yaml.isName, Documented, bind, Except.bind]

theorem documented_resolveEnv_bind {name default : Yaml} {f : Yaml → Except ConfigError α} :
    Documented (resolveEnv environ name default >>= f) ↔ name.isName = true ∧
      ((resolved environ name default).isMissing = true ∨
        Documented (f (resolved environ name default))) := by
  rw [resolveEnv, bind_assoc, documented_getenv_bind]
  refine and_congr_right fun _ => ?_
  rw [← resolved]
  by_cases hmissing : (resolved environ name default).isMissing = true
  · simp [hmissing, Documented, bind, Except.bind]
  · simp [hmissing, bind, Except.bind, pure, Except.pure]

end Steps

/-- The validation either accepts the payload or is reported as documented. -/
theorem documented_validated {e : Except Text GestaltSettings} :
    Documented (match e with
      | .ok settings => (return settings : Except ConfigError GestaltSettings)
      | .error e => .error (.settingsError (text "Invalid settings: " ++ e))) := by
  cases e with
  | ok settings => exact Or.inl ⟨settings, rfl⟩
  | error e => exact Or.inr ⟨_, rfl⟩

/-- Loading is documented as far as what it reads is well formed. -/
theorem documented_buildSettings_iff
    {modelValidate : NormalizedPayload → Except Text GestaltSettings} {environ : Environ}
    {configPath : String} {payload : Mapping} :
    Documented (buildSettings modelValidate environ configPath payload) ↔
      Piece.ReadsWell environ (pieces payload) := by
  simp only [buildSettings, documented_spread_bind, documented_attributeGet_bind,
    documented_resolveEnv_bind, documented_getenv_bind, documented_validated]
  simp only [pieces, Piece.ReadsWell, Piece.wellFormed, Piece.missing, Bool.false_eq_true,
    false_or, or_true, and_true]

/-- **Only documented failures.**  For every document, environment and validation,
`build_settings` returns settings or raises `SettingsError` exactly when before each
malformed piece a required variable is missing. -/
theorem buildSettings_documented_iff
    (modelValidate : NormalizedPayload → Except Text GestaltSettings) (environ : Environ)
    (configPath : String) (payload : Mapping) :
    (∃ settings, buildSettings modelValidate environ configPath payload = .ok settings) ∨
        (∃ message, buildSettings modelValidate environ configPath payload =
          .error (.settingsError message)) ↔
      ∀ before piece after, pieces payload = before ++ piece :: after →
        piece.wellFormed = true ∨
          ∃ earlier ∈ before, earlier.wellFormed = true ∧ earlier.missing environ = true := by
  rw [← Piece.readsWell_iff]
  exact documented_buildSettings_iff

/-- A section left empty is no mapping: a document that says `app:` raises `TypeError`,
though the validation would accept anything. -/
theorem buildSettings_null_section :
    let result := buildSettings (fun _ => .ok Reference.settings) (fun _ => none)
      "config/gestalt.yaml" [(.str (text "app"), .null)]
    result = .error (.typeError "'NoneType' object is not a mapping") ∧
      ¬ ((∃ settings, result = .ok settings) ∨
        ∃ message, result = .error (.settingsError message)) := by
  intro result
  have hraises : result = .error (.typeError "'NoneType' object is not a mapping") := rfl
  refine ⟨hraises, ?_⟩
  rw [hraises]
  simp

end Loading

end Gestalt
