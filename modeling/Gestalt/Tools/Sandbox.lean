import Gestalt.Reference
import Gestalt.Tools

/-!
# Gestalt.Tools.Sandbox

Where the sandbox runs its commands.

The guard compares the text of the working directory with the text of the
workspace root.  On normalized paths that admits the root, its descendants, and
whatever lies in or below a sibling of the root whose name begins with the name
of the root.
-/

namespace Gestalt

open PosixPath (isAbsolute join names render Within ThroughNamesake)

namespace Tool

variable {rt : Runtime} {workspaceRoot : String} {input : SandboxCommandInput}

/-- The working directory of a command. -/
def workingDirectory (rt : Runtime) (workspaceRoot : String) (input : SandboxCommandInput) :
    String :=
  rt.resolve (join workspaceRoot input.workingDirectory)

/-- The command has a blocked term. -/
def Blocked (rt : Runtime) (input : SandboxCommandInput) : Prop :=
  ∃ blocked ∈ blockedTerms, occursIn blocked (rt.lower input.command.val) = true

/-- The sandbox refuses with a permission error and nothing else. -/
theorem exists_of_runSandbox_error {e : Exc} (h : runSandbox rt workspaceRoot input = .error e) :
    ∃ message, e = .permissionError message := by
  unfold runSandbox at h
  dsimp only at h
  split at h
  · exact ⟨_, (Except.error.inj h).symm⟩
  · split at h
    · contradiction
    · exact ⟨_, (Except.error.inj h).symm⟩

/-- The sandbox starts a process for a command without a blocked term, in a
directory whose text begins with the text of the root. -/
theorem runSandbox_eq_ok_iff {effect : ToolEffect} :
    runSandbox rt workspaceRoot input = .ok effect ↔
      ¬ Blocked rt input ∧
        workspaceRoot.toList <+: (workingDirectory rt workspaceRoot input).toList ∧
        effect = .spawn input.command.val (workingDirectory rt workspaceRoot input)
          input.timeoutSeconds.val := by
  unfold runSandbox
  dsimp only
  split
  · next blocked hblocked =>
      have hfound : Blocked rt input :=
        ⟨blocked, List.mem_of_find?_eq_some hblocked, by simpa using List.find?_some hblocked⟩
      simp [hfound]
  · next hnone =>
      have hfound : ¬ Blocked rt input := by
        rintro ⟨blocked, hmem, hoccurs⟩
        exact List.find?_eq_none.mp hnone blocked hmem hoccurs
      simp only [hfound, not_false_eq_true, true_and, workingDirectory]
      split
      · next hcwd => simp [hcwd, eq_comm]
      · next hcwd => simp [hcwd]

end Tool

/-- No link of the file system leads anywhere else: `resolve` is lexical. -/
def Runtime.ResolvesLexically (rt : Runtime) : Prop :=
  ∀ path, isAbsolute path = true → rt.resolve path = PosixPath.resolve path

namespace Tool

/-- The names of the working directory of a command in the sandbox of `root`. -/
def workingNames (root : String) (input : SandboxCommandInput) : List (List Char) :=
  names (join (PosixPath.resolve root) input.workingDirectory)

/-- The sandbox of the workspace root `root` contains the command: a process is
started in the root or in a descendant of it, and where the working directory is
neither, nothing is started and a permission error is raised. -/
structure ContainsCommand (rt : Runtime) (root : String) (input : SandboxCommandInput) : Prop where
  started : ∀ command cwd timeoutSeconds,
    runSandbox rt (rt.resolve root) input = .ok (.spawn command cwd timeoutSeconds) →
      cwd = render (workingNames root input) ∧ Within (names root) (workingNames root input)
  refused : ¬ Within (names root) (workingNames root input) →
    ∃ message, runSandbox rt (rt.resolve root) input = .error (.permissionError message)

/-- **When the sandbox contains a command.**  It does unless the command is not
blocked and its working directory goes through a namesake of the root. -/
theorem containsCommand_iff (rt : Runtime) (hlexical : rt.ResolvesLexically) (root : String)
    (hroot : isAbsolute root = true) (input : SandboxCommandInput) :
    ContainsCommand rt root input ↔
      Blocked rt input ∨ ¬ ThroughNamesake (names root) (workingNames root input) := by
  have hresolve : rt.resolve root = PosixPath.resolve root := hlexical root hroot
  have hcwd : workingDirectory rt (rt.resolve root) input = render (workingNames root input) := by
    rw [hresolve]
    exact hlexical _ (PosixPath.isAbsolute_join (PosixPath.isAbsolute_resolve root) _)
  have hbegins : (rt.resolve root).toList <+: (render (workingNames root input)).toList ↔
      Within (names root) (workingNames root input) ∨
        ThroughNamesake (names root) (workingNames root input) := by
    rw [hresolve]
    exact PosixPath.render_prefix_iff (fun _ => PosixPath.isName_of_mem_names)
      fun _ => PosixPath.isName_of_mem_names
  constructor
  · intro h
    by_contra hnot
    rw [not_or, not_not] at hnot
    obtain ⟨hblocked, hnamesake⟩ := hnot
    have hok := runSandbox_eq_ok_iff.mpr
      ⟨hblocked, hcwd ▸ hbegins.mpr (Or.inr hnamesake), rfl⟩
    exact ThroughNamesake.not_within hnamesake (h.started _ _ _ hok).2
  · intro h
    have hwithin : ∀ effect, runSandbox rt (rt.resolve root) input = .ok effect →
        Within (names root) (workingNames root input) ∧
          effect = .spawn input.command.val (render (workingNames root input))
            input.timeoutSeconds.val := by
      intro effect hok
      obtain ⟨hblocked, htext, heffect⟩ := runSandbox_eq_ok_iff.mp hok
      rw [hcwd] at htext heffect
      exact ⟨(hbegins.mp htext).resolve_right (h.resolve_left hblocked), heffect⟩
    constructor
    · intro command cwd timeoutSeconds hok
      obtain ⟨hinside, heffect⟩ := hwithin _ hok
      injection heffect with _ hcwd _
      exact ⟨hcwd, hinside⟩
    · intro houtside
      cases hrun : runSandbox rt (rt.resolve root) input with
      | ok effect => exact absurd (hwithin effect hrun).1 houtside
      | error e =>
          obtain ⟨message, rfl⟩ := exists_of_runSandbox_error hrun
          exact ⟨message, rfl⟩

end Tool

/-- The runtime of the test suite on a file system without links. -/
def Reference.lexicalRuntime : Runtime := { runtime with resolve := PosixPath.resolve }

/-- A listing of a directory. -/
def Reference.listing (workingDirectory : String) : SandboxCommandInput where
  command := .text "ls"
  workingDirectory
  timeoutSeconds := .lit 5

/-- A subdirectory of the workspace, spelled with detours. -/
theorem Tool.containsCommand_subdirectory :
    ContainsCommand Reference.lexicalRuntime "/workspace"
      (Reference.listing ".//src/../docs/./") :=
  (containsCommand_iff Reference.lexicalRuntime (fun _ _ => rfl) "/workspace" (by decide)
    (Reference.listing ".//src/../docs/./")).mpr
    (Or.inr fun h => ThroughNamesake.not_within h (by decide))

/-- A directory beside the workspace whose name begins with `workspace`. -/
theorem Tool.sibling_entered :
    ¬ ContainsCommand Reference.lexicalRuntime "/workspace"
      (Reference.listing "../workspace-secrets") := by
  intro h
  have hstarted := h.started "ls" "/workspace-secrets" 5 rfl
  exact absurd hstarted.2 (by decide)

end Gestalt
