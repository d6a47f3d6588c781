import Gestalt.Agents
import Gestalt.Orchestrator
import Gestalt.Protocol.Codec

/-!
# Gestalt.Graph

The super-graph (`gestalt/graph.py`) and the requests that start a cycle
(`gestalt/main.py`).  A cycle is the node it is at, its state and the nodes it
has visited.  One visit hands the state to the node, which rebuilds it from
its dump, runs the agent and follows the edge that leaves the node.  What the
world does during a visit is part of the visit, so a sequence of visits is one
behaviour of the world and nothing relates one visit to the next.
-/

namespace Gestalt

open Effects

/-! ## nodes and edges -/

/-- The agents of `build_graph`, by node. -/
def agentAt (rt : Runtime) : AgentName → Agent
  | .orchestrator => ⟨.orchestrator, Orchestrator.produceArtifacts rt⟩
  | .monitor => ⟨.monitor, Monitor.produceArtifacts rt⟩
  | .analyzer => ⟨.analyzer, Analyzer.produceArtifacts rt⟩
  | .plannerExecutor => ⟨.plannerExecutor, PlannerExecutor.produceArtifacts rt⟩
  | .optimizer => ⟨.optimizer, Optimizer.produceArtifacts rt⟩
  | .knowledge => ⟨.knowledge, Knowledge.produceArtifacts rt⟩
  | .securityAudit => ⟨.securityAudit, SecurityAudit.produceArtifacts rt⟩

/-- How a cycle goes wrong outside the agents. -/
inductive CycleError where
  | invalidState (error : LoadError)
  | raised (error : Exc)
  | unknownNode
  | recursionLimit

/-- Where a cycle is. -/
inductive Cursor where
  | at (node : AgentName)
  | ended
  | crashed (error : CycleError)

/-- `route_from_orchestrator`.  The text of a value that is no string is not
the name of a node. -/
def routeFromOrchestrator (state : GestaltGraphState) : Option String :=
  match state.metadata.get? "next_node" with
  | none => some "__end__"
  | some next => next.asStr?

/-- The conditional edges out of the orchestrator. -/
def followRoute (route : Option String) : Cursor :=
  match route with
  | none => .crashed .unknownNode
  | some name =>
      if name = "__end__" then .ended
      else match Specialist.ofName? name with
        | some a => .at a.agent
        | none => .crashed .unknownNode

/-- The edge that leaves a node. -/
def nextCursor (node : AgentName) (state : GestaltGraphState) : Cursor :=
  if node = .orchestrator then followRoute (routeFromOrchestrator state)
  else .at .orchestrator

/-! ## cycles -/

/-- What the world does during one visit: the clock and the identifiers at the
hand-off, and the answers to what the agent asks. -/
structure Visit where
  received : LoadContext
  answers : Surroundings Services

/-- A cycle in progress. -/
structure Cycle where
  cursor : Cursor
  state : GestaltGraphState
  visited : List AgentName

namespace Cycle

/-- The node runs on the state it was handed. -/
def visit (rt : Runtime) (answers : Surroundings Services) (node : AgentName)
    (state : GestaltGraphState) (c : Cycle) : Cycle :=
  match ((run rt (agentAt rt node)).run answers state).result with
  | .error e => { c with cursor := .crashed (.raised e), visited := c.visited ++ [node] }
  | .ok state' =>
      { cursor := nextCursor node state', state := state', visited := c.visited ++ [node] }

/-- One step: hand the state over and visit the node.  A cycle that ended or
crashed stays as it is. -/
def step (rt : Runtime) (v : Visit) (c : Cycle) : Cycle :=
  match c.cursor with
  | .ended | .crashed _ => c
  | .at node =>
      match GestaltGraphState.modelValidate v.received c.state.modelDump with
      | .error e => { c with cursor := .crashed (.invalidState e) }
      | .ok state => c.visit rt v.answers node state

/-- A cycle after `n` steps. -/
def after (rt : Runtime) (visits : Nat → Visit) (c : Cycle) : Nat → Cycle
  | 0 => c
  | n + 1 => (after rt visits c n).step rt (visits n)

end Cycle

/-! ## requests -/

/-- What `build_graph_state` takes from its default factories. -/
structure Fresh where
  traceId : Uuid
  cycleId : Uuid
  now : Int

/-- `build_graph_state`. -/
def buildGraphState (fresh : Fresh) (request : CycleRequest) : GestaltGraphState where
  traceId := fresh.traceId
  cycleId := fresh.cycleId
  source := request.source
  objective := request.objective
  stats := { lastUpdated := fresh.now }
  metadata := request.metadata

/-- The cycle a request starts. -/
def Cycle.start (fresh : Fresh) (request : CycleRequest) : Cycle where
  cursor := .at .orchestrator
  state := buildGraphState fresh request
  visited := []

/-- `run_cycle`.  LangGraph raises when the cycle has not ended after the node
`executions` its recursion limit admits (one less than the limit itself, whose
first step is the entry of the graph); the final state is validated once more,
at `last`. -/
def runCycle (rt : Runtime) (executions : Nat) (fresh : Fresh) (visits : Nat → Visit)
    (last : LoadContext) (request : CycleRequest) : Except CycleError GestaltGraphState :=
  let c := Cycle.after rt visits (Cycle.start fresh request) executions
  match c.cursor with
  | .at _ => .error .recursionLimit
  | .crashed e => .error e
  | .ended =>
      match GestaltGraphState.modelValidate last c.state.modelDump with
      | .ok state => .ok state
      | .error e => .error (.invalidState e)

/-- The request `trigger_audit` makes. -/
def triggerAudit (payload : TriggerAuditRequest) : CycleRequest where
  objective := .text "Manual security audit trigger"
  metadata := payload.metadata.update
    [("force_audit", .bool true), ("audit_scope", .list (payload.scope.map .str))]

/-- `scheduler_request`. -/
def schedulerRequest (objective : MinStr 3) (scheduledAgent : String) : CycleRequest where
  objective
  source := .scheduler
  metadata := [("scheduled_agent", .str scheduledAgent)]

end Gestalt
