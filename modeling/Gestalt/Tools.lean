import Gestalt.Protocol.Codec
import Gestalt.Services

/-!
# Gestalt.Tools

The tool registry and the tools registered in it (`gestalt/tools`,
`_register_tools` of `gestalt/main.py`).

A call names a tool and carries a free-form payload.  The registry consults the
allowlist of the agent and resolves the name; the tool validates the payload
and checks what it checks, all before it has an effect.  So a call either
raises or has one effect.
-/

namespace Gestalt

open Codec (fieldsOf field)

/-! ## validating payloads -/

/-- What pydantic and Python do with a raw value: coerce it to a string, to an
integer or to a memory record, parse a URL and render it, and turn text to upper
case. -/
structure Coercions where
  str : Value → Except LoadError String
  int : Value → Except LoadError Int
  url : Value → Except LoadError String
  record : Value → Except LoadError BlackboardMemoryRecord
  upper : String → String

/-- `int` with `ge=lo, le=hi`. -/
structure Bounded (lo hi : Nat) where
  val : Nat
  ge : lo ≤ val
  le : val ≤ hi

/-- A literal, whose range is checked where it stands. -/
def Bounded.lit {lo hi : Nat} (val : Nat)
    (in_range : decide (lo ≤ val ∧ val ≤ hi) = true := by exact Eq.refl true) : Bounded lo hi :=
  ⟨val, (of_decide_eq_true in_range).1, (of_decide_eq_true in_range).2⟩

namespace Coercions

variable (h : Coercions)

/-- The codec of a field of an input model. -/
abbrev InputCodec (α : Type) := Codec Unit α

def text : InputCodec String := ⟨.str, fun _ => h.str⟩

def address : InputCodec String := ⟨.str, fun _ => h.url⟩

def memoryRecord : InputCodec BlackboardMemoryRecord :=
  ⟨fun _ => .none, fun _ => h.record⟩

/-- `str` with `min_length=n`. -/
def minText (n : Nat) : InputCodec (MinStr n) :=
  Codec.refine h.text MinStr.val fun _ s =>
    match MinStr.check? n s with
    | some m => .ok m
    | none => .error ⟨[], s!"String should have at least {n} characters"⟩

/-- `int` with `ge=lo, le=hi`. -/
def bounded (lo hi : Nat) : InputCodec (Bounded lo hi) :=
  Codec.refine ⟨.int, fun _ => h.int⟩ (fun b => b.val) fun _ i =>
    if hlo : (lo : Int) ≤ i then
      if hhi : i ≤ hi then .ok ⟨i.toNat, by omega, by omega⟩
      else .error ⟨[], s!"Input should be less than or equal to {hi}"⟩
    else .error ⟨[], s!"Input should be greater than or equal to {lo}"⟩

/-- The HTTP method: `str` with `min_length=3, max_length=10`. -/
def method : InputCodec (MinStr 3) :=
  Codec.refine (h.minText 3) id fun _ s =>
    if s.val.length ≤ 10 then .ok s
    else .error ⟨[], "String should have at most 10 characters"⟩

end Coercions

/-- Input payload for querying the blackboard. -/
structure BlackboardQueryInput where
  query : MinStr 1
  limit : Bounded 1 100
  filters : Dict Value

def BlackboardQueryInput.load (h : Coercions) (payload : Dict Value) :
    Except LoadError BlackboardQueryInput := do
  let d ← fieldsOf "BlackboardQueryInput" ["query", "limit", "filters"] (.dict payload)
  return {
    query := ← field d "query" (h.minText 1) ()
    limit := ← field d "limit" (h.bounded 1 100) () (some (.lit 5))
    filters := ← field d "filters" (Codec.dict Codec.any) () (some []) }

/-- Input payload for writing memory into the blackboard. -/
structure BlackboardWriteInput where
  record : BlackboardMemoryRecord

def BlackboardWriteInput.load (h : Coercions) (payload : Dict Value) :
    Except LoadError BlackboardWriteInput := do
  let d ← fieldsOf "BlackboardWriteInput" ["record"] (.dict payload)
  return { record := ← field d "record" h.memoryRecord () }

/-- Input payload for metrics queries. -/
structure PrometheusQueryInput where
  query : MinStr 1

def PrometheusQueryInput.load (h : Coercions) (payload : Dict Value) :
    Except LoadError PrometheusQueryInput := do
  let d ← fieldsOf "PrometheusQueryInput" ["query"] (.dict payload)
  return { query := ← field d "query" (h.minText 1) () }

/-- Input payload for outbound HTTP requests. -/
structure HttpRequestInput where
  method : MinStr 3
  url : String
  headers : Dict String
  params : Dict String
  jsonBody : Option (Dict Value)
  timeoutSeconds : Bounded 1 60

def HttpRequestInput.load (h : Coercions) (payload : Dict Value) :
    Except LoadError HttpRequestInput := do
  let d ← fieldsOf "HttpRequestInput"
    ["method", "url", "headers", "params", "json_body", "timeout_seconds"] (.dict payload)
  return {
    method := ← field d "method" h.method () (some (.text "GET"))
    url := ← field d "url" h.address ()
    headers := ← field d "headers" (Codec.dict h.text) () (some [])
    params := ← field d "params" (Codec.dict h.text) () (some [])
    jsonBody := ← field d "json_body" (Codec.option (Codec.dict Codec.any)) () (some none)
    timeoutSeconds :=
      ← field d "timeout_seconds" (h.bounded 1 60) () (some (.lit 15)) }

/-- Input payload for sandbox command execution. -/
structure SandboxCommandInput where
  command : MinStr 1
  workingDirectory : String
  timeoutSeconds : Bounded 1 300

def SandboxCommandInput.load (h : Coercions) (payload : Dict Value) :
    Except LoadError SandboxCommandInput := do
  let d ← fieldsOf "SandboxCommandInput" ["command", "working_directory", "timeout_seconds"]
    (.dict payload)
  return {
    command := ← field d "command" (h.minText 1) ()
    workingDirectory := ← field d "working_directory" h.text () (some ".")
    timeoutSeconds :=
      ← field d "timeout_seconds" (h.bounded 1 300) () (some (.lit 30)) }

/-- Payload for Redis stream inspection. -/
structure RedisInspectInput where
  streamName : MinStr 1
  count : Bounded 1 100

def RedisInspectInput.load (h : Coercions) (payload : Dict Value) :
    Except LoadError RedisInspectInput := do
  let d ← fieldsOf "RedisInspectInput" ["stream_name", "count"] (.dict payload)
  return {
    streamName := ← field d "stream_name" (h.minText 1) ()
    count := ← field d "count" (h.bounded 1 100) () (some (.lit 10)) }

/-- Input payload for read-only Kubernetes inspection. -/
structure KubernetesReadInput where
  inNamespace : MinStr 1
  kind : MinStr 1
  name : MinStr 1

def KubernetesReadInput.load (h : Coercions) (payload : Dict Value) :
    Except LoadError KubernetesReadInput := do
  let d ← fieldsOf "KubernetesReadInput" ["namespace", "kind", "name"] (.dict payload)
  return {
    inNamespace := ← field d "namespace" (h.minText 1) ()
    kind := ← field d "kind" (h.minText 1) ()
    name := ← field d "name" (h.minText 1) () }

/-- Input payload for a tightly scoped Kubernetes patch. -/
structure KubernetesPatchInput where
  inNamespace : MinStr 1
  kind : MinStr 1
  name : MinStr 1
  patch : Dict String

def KubernetesPatchInput.load (h : Coercions) (payload : Dict Value) :
    Except LoadError KubernetesPatchInput := do
  let d ← fieldsOf "KubernetesPatchInput" ["namespace", "kind", "name", "patch"] (.dict payload)
  return {
    inNamespace := ← field d "namespace" (h.minText 1) ()
    kind := ← field d "kind" (h.minText 1) ()
    name := ← field d "name" (h.minText 1) ()
    patch := ← field d "patch" (Codec.dict h.text) () (some []) }

/-! ## effects -/

/-- What a tool does once it has checked everything it checks: a query or a write
of the blackboard, a metric sample, an HTTP request, a subprocess, or what the
stubs return. -/
inductive ToolEffect where
  | queryMemory (query : BlackboardQuery)
  | writeMemory (record : BlackboardMemoryRecord)
  | sample (query : MinStr 1) (value : Rat)
  | request (method url : String) (headers params : Dict String)
      (jsonBody : Option (Dict Value)) (timeoutSeconds : Nat)
  | spawn (command cwd : String) (timeoutSeconds : Nat)
  | inspect (streamName : MinStr 1) (count : Nat)
  | readResource (inNamespace kind name : MinStr 1) (details : Dict String)
  | patchResource (inNamespace kind name : MinStr 1) (patchSummary : Dict String)

/-- Execution context supplied to each tool invocation. -/
structure ToolContext where
  traceId : String
  agentName : String
  metadata : Dict Value := []

/-- Normalized request passed to a tool through the registry. -/
structure ToolExecutionRequest where
  traceId : String
  agentName : String
  payload : Dict Value := []
  metadata : Dict Value := []

/-- `context`. -/
def ToolExecutionRequest.context (request : ToolExecutionRequest) : ToolContext where
  traceId := request.traceId
  agentName := request.agentName
  metadata := request.metadata

/-! ## the tools -/

/-- The tools, each with what its constructor keeps. -/
inductive Tool where
  | blackboardQuery
  | blackboardWrite
  | prometheusQuery
  | httpRequest (allowlist : List String)
  | sandboxCommand (workspaceRoot : String)
  | redisStreamInspect
  | kubernetesRead
  | kubernetesPatch

/-- What a descriptor tells the registry. -/
structure ToolDescriptor where
  name : MinStr 2
  requiresApproval : Bool := false

namespace Tool

def descriptor : Tool → ToolDescriptor
  | blackboardQuery => { name := .text "blackboard_query" }
  | blackboardWrite => { name := .text "blackboard_write" }
  | prometheusQuery => { name := .text "prometheus_query" }
  | httpRequest _ => { name := .text "http_request" }
  | sandboxCommand _ => { name := .text "sandbox_command" }
  | redisStreamInspect => { name := .text "redis_stream_inspect" }
  | kubernetesRead => { name := .text "kubernetes_read" }
  | kubernetesPatch => { name := .text "kubernetes_patch", requiresApproval := true }

/-- The canonical tool name. -/
def name (tool : Tool) : String := tool.descriptor.name.val

/-- The value of a metric. -/
def metricValue (query : String) : Rat :=
  if occursIn "queue" query then 3
  else if occursIn "latency" query then 420
  else if occursIn "error" query then 1 / 100
  else 1

/-- `arun` of the HTTP tool. -/
def runHttpRequest (h : Coercions) (allowlist : List String) (input : HttpRequestInput) :
    Except Exc ToolEffect :=
  if allowlist ≠ [] ∧ ∀ allowed ∈ allowlist, ¬ allowed.toList <+: input.url.toList then
    .error (.permissionError s!"URL '{input.url}' is not in the outbound allowlist.")
  else
    .ok (.request (h.upper input.method.val) input.url input.headers input.params input.jsonBody
      input.timeoutSeconds.val)

/-- `arun` of the sandbox tool. -/
def runSandbox (rt : Runtime) (workspaceRoot : String) (input : SandboxCommandInput) :
    Except Exc ToolEffect :=
  let cwd := rt.resolve (PosixPath.join workspaceRoot input.workingDirectory)
  match blockedTerms.find? fun blocked => occursIn blocked (rt.lower input.command.val) with
  | some blocked =>
      .error (.permissionError s!"Blocked sandbox command pattern detected: {blocked}")
  | none =>
      if workspaceRoot.toList <+: cwd.toList then
        .ok (.spawn input.command.val cwd input.timeoutSeconds.val)
      else .error (.permissionError "Sandbox working directory escapes workspace root.")

/-- `execute`: validate the payload, then `arun`. -/
def execute (rt : Runtime) (h : Coercions) (request : ToolExecutionRequest) :
    Tool → Except Exc ToolEffect
  | blackboardQuery => do
      let input ← (BlackboardQueryInput.load h request.payload).mapError
        (Exc.validationError "BlackboardQueryInput")
      return .queryMemory {
        query := input.query
        limit := input.limit.val
        limit_pos := input.limit.ge
        limit_le := input.limit.le
        filters := input.filters }
  | blackboardWrite => do
      let input ← (BlackboardWriteInput.load h request.payload).mapError
        (Exc.validationError "BlackboardWriteInput")
      return .writeMemory input.record
  | prometheusQuery => do
      let input ← (PrometheusQueryInput.load h request.payload).mapError
        (Exc.validationError "PrometheusQueryInput")
      return .sample input.query (metricValue (rt.lower input.query.val))
  | httpRequest allowlist => do
      let input ← (HttpRequestInput.load h request.payload).mapError
        (Exc.validationError "HttpRequestInput")
      runHttpRequest h allowlist input
  | sandboxCommand workspaceRoot => do
      let input ← (SandboxCommandInput.load h request.payload).mapError
        (Exc.validationError "SandboxCommandInput")
      runSandbox rt workspaceRoot input
  | redisStreamInspect => do
      let input ← (RedisInspectInput.load h request.payload).mapError
        (Exc.validationError "RedisInspectInput")
      return .inspect input.streamName input.count.val
  | kubernetesRead => do
      let input ← (KubernetesReadInput.load h request.payload).mapError
        (Exc.validationError "KubernetesReadInput")
      return .readResource input.inNamespace input.kind input.name
        [("inspected_by", request.context.agentName), ("trace_id", request.context.traceId)]
  | kubernetesPatch => do
      let input ← (KubernetesPatchInput.load h request.payload).mapError
        (Exc.validationError "KubernetesPatchInput")
      return .patchResource input.inNamespace input.kind input.name
        (input.patch.set "applied_by" request.context.agentName)

end Tool

/-! ## the registry -/

/-- Registry that stores and resolves tools by name. -/
abbrev ToolRegistry := Dict Tool

namespace ToolRegistry

/-- `register`. -/
def register (registry : ToolRegistry) (tool : Tool) : ToolRegistry := registry.set tool.name tool

/-- `bulk_register`. -/
def bulkRegister (registry : ToolRegistry) (tools : List Tool) : ToolRegistry :=
  tools.foldl register registry

/-- `execute_allowed`. -/
def executeAllowed (rt : Runtime) (h : Coercions) (registry : ToolRegistry) (toolName : String)
    (request : ToolExecutionRequest) (allowlist : List String) : Except Exc ToolEffect :=
  if toolName ∈ allowlist then
    match registry.get? toolName with
    | none => .error (.keyError toolName)
    | some tool => tool.execute rt h request
  else
    .error (.permissionError
      s!"Tool '{toolName}' is not allowed for agent '{request.agentName}'.")

end ToolRegistry

/-- The tools `_register_tools` builds. -/
def builtTools (rt : Runtime) : List Tool :=
  [.blackboardQuery, .blackboardWrite, .prometheusQuery,
   .httpRequest rt.settings.security.outboundHttpAllowlist,
   .sandboxCommand (rt.resolve "/workspace"), .redisStreamInspect, .kubernetesRead,
   .kubernetesPatch]

/-- `_register_tools`. -/
def registerTools (rt : Runtime) : ToolRegistry := ToolRegistry.bulkRegister [] (builtTools rt)

/-- `execute_tool`, on behalf of the agent `a`. -/
def executeTool (rt : Runtime) (h : Coercions) (a : AgentName) (state : GestaltGraphState)
    (toolName : String) (payload : Dict Value) : Except Exc ToolEffect :=
  ToolRegistry.executeAllowed rt h (registerTools rt) toolName
    { traceId := (rt.idText state.traceId).val
      agentName := a.name
      payload
      metadata := [("cycle_id", .str (rt.idText state.cycleId).val)] }
    (rt.settings.policy a).toolAllowlist

end Gestalt
