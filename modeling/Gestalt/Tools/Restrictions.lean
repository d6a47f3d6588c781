import Gestalt.Reference
import Gestalt.Tools.Sandbox

/-!
# Gestalt.Tools.Restrictions

The restrictions of the settings and of the descriptors, against the calls that
get through.

The registry enforces the allowlist of the agent, the sandbox its blocked terms
and its root, the HTTP tool its own allowlist.  The rest of the security boundary
is parsed and read by nothing, so a call that passes these checks has its effect
whatever the boundary says.
-/

namespace Gestalt

open Effects

/-! ## the registry -/

namespace ToolRegistry

variable {registry : ToolRegistry} {tools : List Tool} {tool : Tool}

theorem bulkRegister_cons (registry : ToolRegistry) (tool : Tool) (tools : List Tool) :
    registry.bulkRegister (tool :: tools) = (registry.register tool).bulkRegister tools := rfl

/-- A tool is resolved by no name but its own. -/
theorem name_of_get?_bulkRegister {toolName : String}
    (hregistry : ∀ tool, registry.get? toolName = some tool → tool.name = toolName)
    (hget : (registry.bulkRegister tools).get? toolName = some tool) : tool.name = toolName := by
  induction tools generalizing registry with
  | nil => exact hregistry tool hget
  | cons head tools ih =>
      rw [bulkRegister_cons] at hget
      refine ih (fun tool htool => ?_) hget
      rw [register, Table.get?_set] at htool
      split at htool
      · next hname => exact Option.some.inj htool ▸ hname
      · exact hregistry tool htool

/-- Registering other tools leaves a name alone. -/
theorem get?_bulkRegister_of_notMem {toolName : String} (h : toolName ∉ tools.map Tool.name) :
    (registry.bulkRegister tools).get? toolName = registry.get? toolName := by
  induction tools generalizing registry with
  | nil => rfl
  | cons tool tools ih =>
      rw [List.map_cons, List.mem_cons, not_or] at h
      rw [bulkRegister_cons, ih h.2, register, Table.get?_set_of_ne (Ne.symm h.1)]

/-- Tools of different names can be resolved by their names. -/
theorem get?_bulkRegister (hnodup : (tools.map Tool.name).Nodup) (hmem : tool ∈ tools) :
    (registry.bulkRegister tools).get? tool.name = some tool := by
  induction tools generalizing registry with
  | nil => contradiction
  | cons head tools ih =>
      rw [List.map_cons, List.nodup_cons] at hnodup
      rw [bulkRegister_cons]
      rcases List.mem_cons.mp hmem with rfl | hmem
      · rw [get?_bulkRegister_of_notMem hnodup.1, register, Table.get?_set_self]
      · exact ih hnodup.2 hmem

end ToolRegistry

/-- The tools have different names. -/
theorem names_builtTools (rt : Runtime) :
    (builtTools rt).map Tool.name =
      ["blackboard_query", "blackboard_write", "prometheus_query", "http_request",
       "sandbox_command", "redis_stream_inspect", "kubernetes_read", "kubernetes_patch"] := rfl

/-- The tools that are built are resolved by their names. -/
theorem get?_registerTools {rt : Runtime} {tool : Tool} (h : tool ∈ builtTools rt) :
    (registerTools rt).get? tool.name = some tool := by
  refine ToolRegistry.get?_bulkRegister ?_ h
  rw [names_builtTools]
  decide

theorem name_of_get?_registerTools {rt : Runtime} {toolName : String} {tool : Tool}
    (h : (registerTools rt).get? toolName = some tool) : tool.name = toolName :=
  ToolRegistry.name_of_get?_bulkRegister (fun _ hnone => by simp at hnone) h

section Calls

variable {rt : Runtime} {h : Coercions} {a : AgentName} {state : GestaltGraphState}
variable {payload : Dict Value} {effect : ToolEffect}

/-- The request `execute_tool` makes. -/
def toolRequest (rt : Runtime) (a : AgentName) (state : GestaltGraphState)
    (payload : Dict Value) : ToolExecutionRequest where
  traceId := (rt.idText state.traceId).val
  agentName := a.name
  payload
  metadata := [("cycle_id", .str (rt.idText state.cycleId).val)]

/-- A call has an effect when the name is allowed and the tool it names executes the
request. -/
theorem executeTool_ok_iff {toolName : String} :
    executeTool rt h a state toolName payload = .ok effect ↔
      toolName ∈ (rt.settings.policy a).toolAllowlist ∧
      ∃ tool, (registerTools rt).get? toolName = some tool ∧
        tool.execute rt h (toolRequest rt a state payload) = .ok effect := by
  unfold executeTool ToolRegistry.executeAllowed
  split
  · next hallowed =>
      cases hget : (registerTools rt).get? toolName with
      | none => simp
      | some tool => simp [hallowed, toolRequest]
  · next hallowed => simp [hallowed]

/-- The calls of a tool that is built. -/
theorem executeTool_name_ok_iff {tool : Tool} (hbuilt : tool ∈ builtTools rt) :
    executeTool rt h a state tool.name payload = .ok effect ↔
      tool.name ∈ (rt.settings.policy a).toolAllowlist ∧
      tool.execute rt h (toolRequest rt a state payload) = .ok effect := by
  rw [executeTool_ok_iff, get?_registerTools hbuilt]
  simp

end Calls

/-! ## what the tools check -/

section Tools

variable {rt : Runtime} {h : Coercions} {request : ToolExecutionRequest} {effect : ToolEffect}

/-- Validation followed by `arun`. -/
theorem validated_ok_iff {α : Type} {model : String} {x : Except LoadError α}
    {arun : α → Except Exc ToolEffect} :
    (x.mapError (Exc.validationError model) >>= arun) = .ok effect ↔
      ∃ input, x = .ok input ∧ arun input = .ok effect := by
  cases x with
  | error e => simp [Except.mapError, bind, Except.bind]
  | ok input => simp [Except.mapError, bind, Except.bind]

/-- What the sandbox checks: no blocked term, and a working directory under the
workspace root. -/
structure SandboxAdmits (rt : Runtime) (input : SandboxCommandInput) : Prop where
  command : ∀ blocked ∈ blockedTerms, occursIn blocked (rt.lower input.command.val) = false
  cwd : (rt.resolve "/workspace").toList <+:
    (rt.resolve (PosixPath.join (rt.resolve "/workspace") input.workingDirectory)).toList

/-- The sandbox runs what it admits, with the timeout of the payload. -/
theorem runSandbox_ok_iff {input : SandboxCommandInput} :
    Tool.runSandbox rt (rt.resolve "/workspace") input = .ok effect ↔
      SandboxAdmits rt input ∧ effect = .spawn input.command.val
        (rt.resolve (PosixPath.join (rt.resolve "/workspace") input.workingDirectory))
        input.timeoutSeconds.val := by
  rw [Tool.runSandbox_eq_ok_iff]
  constructor
  · rintro ⟨hblocked, hcwd, heffect⟩
    refine ⟨⟨fun blocked hmem => ?_, hcwd⟩, heffect⟩
    rw [← Bool.not_eq_true]
    exact fun hoccurs => hblocked ⟨blocked, hmem, hoccurs⟩
  · rintro ⟨hadmits, heffect⟩
    refine ⟨?_, hadmits.cwd, heffect⟩
    rintro ⟨blocked, hmem, hoccurs⟩
    simp [hadmits.command blocked hmem] at hoccurs

theorem execute_sandboxCommand_ok_iff :
    (Tool.sandboxCommand (rt.resolve "/workspace")).execute rt h request = .ok effect ↔
      ∃ input, SandboxCommandInput.load h request.payload = .ok input ∧ SandboxAdmits rt input ∧
        effect = .spawn input.command.val
          (rt.resolve (PosixPath.join (rt.resolve "/workspace") input.workingDirectory))
          input.timeoutSeconds.val := by
  rw [Tool.execute, validated_ok_iff]
  exact exists_congr fun input => and_congr_right fun _ => runSandbox_ok_iff

theorem execute_kubernetesRead_ok_iff :
    Tool.kubernetesRead.execute rt h request = .ok effect ↔
      ∃ input, KubernetesReadInput.load h request.payload = .ok input ∧
        effect = .readResource input.inNamespace input.kind input.name
          [("inspected_by", request.agentName), ("trace_id", request.traceId)] := by
  rw [Tool.execute, validated_ok_iff]
  exact exists_congr fun input => and_congr_right fun _ => by
    simp [ToolExecutionRequest.context, pure, Except.pure, eq_comm]

theorem execute_kubernetesPatch_ok_iff :
    Tool.kubernetesPatch.execute rt h request = .ok effect ↔
      ∃ input, KubernetesPatchInput.load h request.payload = .ok input ∧
        effect = .patchResource input.inNamespace input.kind input.name
          (input.patch.set "applied_by" request.agentName) := by
  rw [Tool.execute, validated_ok_iff]
  exact exists_congr fun input => and_congr_right fun _ => by
    simp [ToolExecutionRequest.context, pure, Except.pure, eq_comm]

/-- A request is sent when there is no allowlist or the address begins with an
entry of it. -/
theorem Tool.runHttpRequest_ok_iff {h : Coercions} {allowlist : List String}
    {input : HttpRequestInput} {effect : ToolEffect} :
    runHttpRequest h allowlist input = .ok effect ↔
      (allowlist = [] ∨ ∃ allowed ∈ allowlist, allowed.toList <+: input.url.toList) ∧
        effect = .request (h.upper input.method.val) input.url input.headers input.params
          input.jsonBody input.timeoutSeconds.val := by
  unfold runHttpRequest
  split
  · next hrefused =>
      obtain ⟨hnonempty, hnone⟩ := hrefused
      constructor
      · intro heq
        contradiction
      · rintro ⟨hempty | ⟨allowed, hmem, hbegins⟩, -⟩
        · exact absurd hempty hnonempty
        · exact absurd hbegins (hnone allowed hmem)
  · next hadmitted =>
      have hsome : allowlist = [] ∨ ∃ allowed ∈ allowlist, allowed.toList <+: input.url.toList := by
        by_contra hnot
        obtain ⟨hnonempty, hnone⟩ := not_or.mp hnot
        exact hadmitted ⟨hnonempty, fun allowed hmem hbegins => hnone ⟨allowed, hmem, hbegins⟩⟩
      simp [hsome, eq_comm]

/-- The HTTP tool keeps to its allowlist, unless it has none. -/
theorem allowlisted_of_execute {allowlist : List String} (hallowlist : allowlist ≠ [])
    (hexecute : (Tool.httpRequest allowlist).execute rt h request = .ok effect) :
    ∃ method url headers params jsonBody timeoutSeconds,
      effect = .request method url headers params jsonBody timeoutSeconds ∧
      ∃ allowed ∈ allowlist, allowed.toList <+: url.toList := by
  rw [Tool.execute, validated_ok_iff] at hexecute
  obtain ⟨input, -, hrun⟩ := hexecute
  obtain ⟨hadmitted, rfl⟩ := Tool.runHttpRequest_ok_iff.mp hrun
  exact ⟨_, _, _, _, _, _, rfl, hadmitted.resolve_left hallowlist⟩

end Tools

/-! ## restrictions -/

/-- An unexpired approval the orchestrator issued to the agent. -/
def Approved (a : AgentName) (state : GestaltGraphState) (now : Int) : Prop :=
  ∃ approval ∈ state.approvals, approval.sourceAgent = AgentName.orchestrator.field ∧
    approval.targetAgent = a.field ∧ now < approval.expiresAt

/-- **A call respects the restrictions**: its effect is one the allowlist, the
security boundary and the descriptor let it have. -/
structure RespectsRestrictions (rt : Runtime) (a : AgentName) (state : GestaltGraphState)
    (now : Int) (toolName : String) (effect : ToolEffect) : Prop where
  allowed : toolName ∈ (rt.settings.policy a).toolAllowlist
  sandbox : toolName = "sandbox_command" → ∃ command cwd timeoutSeconds,
    effect = .spawn command cwd timeoutSeconds ∧ rt.settings.security.sandboxEnabled = true ∧
    timeoutSeconds ≤ rt.settings.security.sandboxTimeoutSeconds
  read : toolName = "kubernetes_read" → ∃ inNamespace kind name details,
    effect = .readResource inNamespace kind name details ∧
    inNamespace.val ∈ rt.settings.security.kubernetesAllowedNamespaces
  patch : toolName = "kubernetes_patch" → ∃ inNamespace kind name patchSummary,
    effect = .patchResource inNamespace kind name patchSummary ∧
    inNamespace.val ∈ rt.settings.security.kubernetesAllowedNamespaces
  approved : ∀ tool, (registerTools rt).get? toolName = some tool →
    tool.descriptor.requiresApproval = true → Approved a state now

/-- The calls that get through against a restriction: an allowed name, a payload
that validates, what the tool itself checks, and a restriction nothing checks. -/
inductive Escapes (rt : Runtime) (h : Coercions) (a : AgentName) (state : GestaltGraphState)
    (now : Int) (payload : Dict Value) : String → Prop where
  | sandbox {input : SandboxCommandInput}
      (allowed : "sandbox_command" ∈ (rt.settings.policy a).toolAllowlist)
      (valid : SandboxCommandInput.load h payload = .ok input) (admits : SandboxAdmits rt input)
      (against : rt.settings.security.sandboxEnabled = false ∨
        rt.settings.security.sandboxTimeoutSeconds < input.timeoutSeconds.val) :
      Escapes rt h a state now payload "sandbox_command"
  | read {input : KubernetesReadInput}
      (allowed : "kubernetes_read" ∈ (rt.settings.policy a).toolAllowlist)
      (valid : KubernetesReadInput.load h payload = .ok input)
      (against : input.inNamespace.val ∉ rt.settings.security.kubernetesAllowedNamespaces) :
      Escapes rt h a state now payload "kubernetes_read"
  | patch {input : KubernetesPatchInput}
      (allowed : "kubernetes_patch" ∈ (rt.settings.policy a).toolAllowlist)
      (valid : KubernetesPatchInput.load h payload = .ok input)
      (against : input.inNamespace.val ∉ rt.settings.security.kubernetesAllowedNamespaces ∨
        ¬ Approved a state now) :
      Escapes rt h a state now payload "kubernetes_patch"

section Restrictions

variable {rt : Runtime} {h : Coercions} {a : AgentName} {state : GestaltGraphState} {now : Int}
variable {payload : Dict Value} {toolName : String} {effect : ToolEffect}

/-- The calls of the sandbox tool. -/
theorem executeTool_sandbox_ok_iff :
    executeTool rt h a state "sandbox_command" payload = .ok effect ↔
      "sandbox_command" ∈ (rt.settings.policy a).toolAllowlist ∧
      ∃ input, SandboxCommandInput.load h payload = .ok input ∧ SandboxAdmits rt input ∧
        effect = .spawn input.command.val
          (rt.resolve (PosixPath.join (rt.resolve "/workspace") input.workingDirectory))
          input.timeoutSeconds.val := by
  have hbuilt : Tool.sandboxCommand (rt.resolve "/workspace") ∈ builtTools rt := by
    simp [builtTools]
  exact (executeTool_name_ok_iff hbuilt).trans
    (and_congr_right fun _ => execute_sandboxCommand_ok_iff)

/-- The calls of the read tool. -/
theorem executeTool_read_ok_iff :
    executeTool rt h a state "kubernetes_read" payload = .ok effect ↔
      "kubernetes_read" ∈ (rt.settings.policy a).toolAllowlist ∧
      ∃ input, KubernetesReadInput.load h payload = .ok input ∧
        effect = .readResource input.inNamespace input.kind input.name
          [("inspected_by", a.name), ("trace_id", (rt.idText state.traceId).val)] := by
  have hbuilt : Tool.kubernetesRead ∈ builtTools rt := by simp [builtTools]
  exact (executeTool_name_ok_iff hbuilt).trans
    (and_congr_right fun _ => execute_kubernetesRead_ok_iff)

/-- The calls of the patch tool. -/
theorem executeTool_patch_ok_iff :
    executeTool rt h a state "kubernetes_patch" payload = .ok effect ↔
      "kubernetes_patch" ∈ (rt.settings.policy a).toolAllowlist ∧
      ∃ input, KubernetesPatchInput.load h payload = .ok input ∧
        effect = .patchResource input.inNamespace input.kind input.name
          (input.patch.set "applied_by" a.name) := by
  have hbuilt : Tool.kubernetesPatch ∈ builtTools rt := by simp [builtTools]
  exact (executeTool_name_ok_iff hbuilt).trans
    (and_congr_right fun _ => execute_kubernetesPatch_ok_iff)

/-- Only patches require an approval. -/
theorem toolName_of_requiresApproval {tool : Tool}
    (hget : (registerTools rt).get? toolName = some tool)
    (hrequires : tool.descriptor.requiresApproval = true) :
    toolName = "kubernetes_patch" := by
  have hname := name_of_get?_registerTools hget
  cases tool with
  | kubernetesPatch => exact hname.symm
  | _ => contradiction

/-- A call that escapes has an effect against the restrictions. -/
theorem Escapes.against (hescapes : Escapes rt h a state now payload toolName) :
    ∃ effect, executeTool rt h a state toolName payload = .ok effect ∧
      ¬ RespectsRestrictions rt a state now toolName effect := by
  cases hescapes with
  | sandbox allowed valid admits against =>
      refine ⟨_, executeTool_sandbox_ok_iff.mpr ⟨allowed, _, valid, admits, rfl⟩, ?_⟩
      intro hrespects
      obtain ⟨command, cwd, timeoutSeconds, heffect, henabled, hle⟩ := hrespects.sandbox rfl
      injection heffect with _ _ htimeout
      rcases against with hdisabled | hlong
      · rw [henabled] at hdisabled
        contradiction
      · omega
  | read allowed valid against =>
      refine ⟨_, executeTool_read_ok_iff.mpr ⟨allowed, _, valid, rfl⟩, ?_⟩
      intro hrespects
      obtain ⟨inNamespace, kind, name, details, heffect, hmem⟩ := hrespects.read rfl
      injection heffect with hnamespace
      rw [← hnamespace] at hmem
      exact against hmem
  | patch allowed valid against =>
      refine ⟨_, executeTool_patch_ok_iff.mpr ⟨allowed, _, valid, rfl⟩, ?_⟩
      intro hrespects
      obtain ⟨inNamespace, kind, name, patchSummary, heffect, hmem⟩ := hrespects.patch rfl
      injection heffect with hnamespace
      rw [← hnamespace] at hmem
      have hbuilt : Tool.kubernetesPatch ∈ builtTools rt := by simp [builtTools]
      have happroved := hrespects.approved _ (get?_registerTools hbuilt) rfl
      rcases against with houtside | hunapproved
      · exact houtside hmem
      · exact hunapproved happroved

/-- A call that does not escape has no effect but within the restrictions. -/
theorem respects_of_not_escapes (hnot : ¬ Escapes rt h a state now payload toolName)
    (hok : executeTool rt h a state toolName payload = .ok effect) :
    RespectsRestrictions rt a state now toolName effect where
  allowed := (executeTool_ok_iff.mp hok).1
  sandbox hname := by
    subst hname
    obtain ⟨allowed, input, valid, admits, heffect⟩ := executeTool_sandbox_ok_iff.mp hok
    refine ⟨_, _, _, heffect, ?_, ?_⟩
    · by_contra hdisabled
      exact hnot (.sandbox allowed valid admits (Or.inl (Bool.not_eq_true _ ▸ hdisabled)))
    · by_contra hlong
      exact hnot (.sandbox allowed valid admits (Or.inr (Nat.lt_of_not_le hlong)))
  read hname := by
    subst hname
    obtain ⟨allowed, input, valid, heffect⟩ := executeTool_read_ok_iff.mp hok
    refine ⟨_, _, _, _, heffect, ?_⟩
    by_contra houtside
    exact hnot (.read allowed valid houtside)
  patch hname := by
    subst hname
    obtain ⟨allowed, input, valid, heffect⟩ := executeTool_patch_ok_iff.mp hok
    refine ⟨_, _, _, _, heffect, ?_⟩
    by_contra houtside
    exact hnot (.patch allowed valid (Or.inl houtside))
  approved tool hget hrequires := by
    obtain rfl := toolName_of_requiresApproval hget hrequires
    obtain ⟨allowed, input, valid, heffect⟩ := executeTool_patch_ok_iff.mp hok
    by_contra hunapproved
    exact hnot (.patch allowed valid (Or.inr hunapproved))

/-- Of the security boundary the tools read the HTTP allowlist and nothing else. -/
theorem executeTool_of_outboundHttpAllowlist {security : SecurityConfig}
    (hsame : security.outboundHttpAllowlist = rt.settings.security.outboundHttpAllowlist) :
    executeTool { rt with settings := { rt.settings with security } } h a state toolName payload =
      executeTool rt h a state toolName payload := by
  have hbuilt : builtTools { rt with settings := { rt.settings with security } } =
      builtTools rt := by
    simp only [builtTools, hsame]
  unfold executeTool registerTools
  rw [hbuilt]
  rfl

/-- **When tool calls respect the restrictions.**  For all settings, agents, states,
names and payloads: a call has an effect only within the restrictions, and raises
otherwise, exactly when it is not one of those that escape. -/
theorem restrictions_respected_iff (rt : Runtime) (h : Coercions) (a : AgentName)
    (state : GestaltGraphState) (now : Int) (toolName : String) (payload : Dict Value) :
    (∀ effect, executeTool rt h a state toolName payload = .ok effect →
      RespectsRestrictions rt a state now toolName effect) ↔
    ¬ Escapes rt h a state now payload toolName := by
  constructor
  · intro hrespects hescapes
    obtain ⟨effect, hok, hnot⟩ := hescapes.against
    exact hnot (hrespects effect hok)
  · exact fun hnot effect hok => respects_of_not_escapes hnot hok

end Restrictions

/-! ## the sandbox calls of the agents -/

/-- Strings and integers are taken as they are. -/
structure Coercions.Plain (h : Coercions) : Prop where
  str : ∀ s, h.str (.str s) = .ok s
  int : ∀ i, h.int (.int i) = .ok i

/-- The payload `run_sandbox_command` sends. -/
def sandboxPayload (command : MinStr 1) (workingDirectory : String)
    (timeoutSeconds : Bounded 1 300) : Dict Value :=
  [("command", .str command.val), ("working_directory", .str workingDirectory),
   ("timeout_seconds", .int timeoutSeconds.val)]

section Sandbox

variable {rt : Runtime} {h : Coercions} {a : AgentName} {state : GestaltGraphState}
variable {command : MinStr 1} {workingDirectory : String} {timeoutSeconds : Bounded 1 300}

/-- The payload validates as what it was made of. -/
theorem load_sandboxPayload (hplain : h.Plain) :
    SandboxCommandInput.load h (sandboxPayload command workingDirectory timeoutSeconds) =
      .ok ⟨command, workingDirectory, timeoutSeconds⟩ := by
  have hcommand : (h.minText 1).load () (.str command.val) = .ok command := by
    simp [Coercions.minText, Coercions.text, Codec.refine, hplain.str, Except.bind]
  have htimeout : (h.bounded 1 300).load () (.int timeoutSeconds.val) = .ok timeoutSeconds := by
    have hge := timeoutSeconds.ge
    have hle := timeoutSeconds.le
    simp only [Coercions.bounded, Codec.refine, hplain.int, Except.bind]
    rw [dif_pos (by omega), dif_pos (by omega)]
    rfl
  simp [SandboxCommandInput.load, sandboxPayload, Codec.fieldsOf, Codec.field, hcommand, htimeout,
    Coercions.text, hplain.str, bind, Except.bind, pure, Except.pure]

/-- The tool call of the payload, where the tool is allowed. -/
theorem executeTool_sandboxPayload (hplain : h.Plain)
    (hallowed : "sandbox_command" ∈ (rt.settings.policy a).toolAllowlist) :
    executeTool rt h a state "sandbox_command"
        (sandboxPayload command workingDirectory timeoutSeconds) =
      Tool.runSandbox rt (rt.resolve "/workspace")
        ⟨command, workingDirectory, timeoutSeconds⟩ := by
  have hbuilt : Tool.sandboxCommand (rt.resolve "/workspace") ∈ builtTools rt := by
    simp [builtTools]
  have hget : (registerTools rt).get? "sandbox_command" =
      some (.sandboxCommand (rt.resolve "/workspace")) := get?_registerTools hbuilt
  rw [executeTool, ToolRegistry.executeAllowed, if_pos hallowed, hget]
  dsimp only
  rw [Tool.execute, load_sandboxPayload hplain]
  rfl

/-- **The sandbox call of an agent** starts the subprocess that its tool call has as
effect, and raises where the tool call raises. -/
theorem runSandboxCommand_eq (hplain : h.Plain) :
    (∀ e, executeTool rt h a state "sandbox_command"
        (sandboxPayload command workingDirectory timeoutSeconds) = .error e →
      runSandboxCommand rt a command.val workingDirectory timeoutSeconds.val =
        Program.raise e) ∧
    ∀ effect, executeTool rt h a state "sandbox_command"
        (sandboxPayload command workingDirectory timeoutSeconds) = .ok effect →
      ∃ text cwd timeout, effect = .spawn text cwd timeout ∧
        runSandboxCommand rt a command.val workingDirectory timeoutSeconds.val =
          send (.bash text cwd timeout) := by
  by_cases hallowed : "sandbox_command" ∈ (rt.settings.policy a).toolAllowlist
  · rw [executeTool_sandboxPayload hplain hallowed, runSandboxCommand, executeAllowed,
      if_pos hallowed, Tool.runSandbox, sandboxCommand]
    cases blockedTerms.find? fun blocked => occursIn blocked (rt.lower command.val) with
    | some blocked =>
        refine ⟨fun e he => ?_, fun effect heffect => by contradiction⟩
        rw [← Except.error.inj he]
    | none =>
        dsimp only
        split
        · refine ⟨fun e he => by contradiction, fun effect heffect => ?_⟩
          exact ⟨_, _, _, (Except.ok.inj heffect).symm, rfl⟩
        · refine ⟨fun e he => ?_, fun effect heffect => by contradiction⟩
          rw [← Except.error.inj he]
  · rw [executeTool, ToolRegistry.executeAllowed, if_neg hallowed, runSandboxCommand,
      executeAllowed, if_neg hallowed]
    refine ⟨fun e he => ?_, fun effect heffect => by contradiction⟩
    rw [← Except.error.inj he]

end Sandbox

/-! ## a patch outside the boundary -/

namespace Reference

/-- Strings and integers are read as they are, and URLs as their text. -/
def coercions : Coercions where
  str
    | .str s => .ok s
    | _ => Codec.expected "string"
  int
    | .int i => .ok i
    | _ => Codec.expected "integer"
  url
    | .str s => .ok s
    | _ => Codec.expected "URL"
  record _ := Codec.expected "dictionary"
  upper s := String.ofList (s.toList.map Char.toUpper)

/-- A state without approvals. -/
def idleState : GestaltGraphState where
  traceId := 1
  cycleId := 2
  objective := .text "Scale the deployment down"
  stats := { lastUpdated := 0 }

/-- A patch of a namespace. -/
def patchPayload : Dict Value :=
  [("namespace", .str "kube-system"), ("kind", .str "Deployment"), ("name", .str "coredns"),
   ("patch", .dict [("replicas", .str "0")])]

end Reference

/-- The planner patches a namespace that is not allowed, without an approval. -/
theorem patch_unrestricted :
    ¬ ∀ effect, executeTool Reference.runtime Reference.coercions .plannerExecutor
        Reference.idleState "kubernetes_patch" Reference.patchPayload = .ok effect →
      RespectsRestrictions Reference.runtime .plannerExecutor Reference.idleState 0
        "kubernetes_patch" effect := by
  intro hrespects
  have hescapes : Escapes Reference.runtime Reference.coercions .plannerExecutor
      Reference.idleState 0 Reference.patchPayload "kubernetes_patch" :=
    .patch (by decide) rfl (Or.inl (by decide))
  obtain ⟨effect, hok, hnot⟩ := hescapes.against
  exact hnot (hrespects effect hok)

end Gestalt
