import Woml.Definition.Queries
import Woml.Projection.State

/-!
# Readiness of nodes

Which nodes of a definition may start next, for a projection. `Reference` is the plain scan over
the whole graph; `ReadinessGraph` is the computation over adjacency indexes that the engine uses,
either borrowed (nodes and edges) or prepared (ordinals).

Completion of a choice join or an approval join asks for the completion of its predecessors, so
on a graph whose joins lie on a cycle the source recurses for ever. The recursion here has fuel,
and running out of it is the error `diverged`.
-/

namespace Woml

open Checked

inductive EngineError
  | message (text : String)
  | diverged
  deriving DecidableEq

/-! ## Edges and completion -/

/-- The decision that a resolved approval published. -/
def approvalDecision (p : RunProjection) (approvalId : String) : Option String :=
  match p.context.steps.get? approvalId with
  | some (.object output) => (JsonMap.get? output "decision").bind Value.asStr
  | _ => none

def isChoiceArmId (edgeId : String) : Bool :=
  Text.startsWith "__woml_choice__" edgeId &&
    (Text.contains ":when:" edgeId || Text.endsWith ":otherwise" edgeId ||
      Text.contains ":case:" edgeId || Text.endsWith ":default" edgeId)

def edgeIsActive (edge : CompiledWorkflowEdge) (p : RunProjection) : Bool :=
  match edge.approvalId with
  | some approvalId =>
    let decision := approvalDecision p approvalId
    if edge.id = s!"{approvalId}:approved" ∨ edge.id = s!"{approvalId}:approved:join" then
      decision = some "approved"
    else if edge.id = s!"{approvalId}:rejected" ∨ edge.id = s!"{approvalId}:rejected:join" then
      decision = some "rejected"
    else false
  | none =>
    match p.choiceSelections.entries.find? fun selection =>
      Text.startsWith s!"{selection.1}:" edge.id with
    | some (_, selectedArmId) => edge.id = selectedArmId || edge.id = s!"{selectedArmId}:join"
    | none =>
      if isChoiceArmId edge.id then false
      else
        match edge.branchId with
        | some branchId => p.branchSelections.get? branchId = some edge.id
        | none => true

def selectorBranchId (selectorId : String) : Option String :=
  (Text.stripPrefix "__woml_branch__" selectorId).bind (Text.stripSuffix "__select")

/-- The fork branch that ends in a node, with its fork. -/
def forkBranchWithTerminal (w : CompiledWorkflowDefinition) (nodeId : String) :
    Option (CompiledFork × CompiledForkBranch) :=
  w.forkBranches.find? fun (_, branch) => branch.terminalNodeId = nodeId

/-- Completion of every kind of node but the two joins that ask their predecessors. -/
def localCompletion (w : CompiledWorkflowDefinition) (node : CompiledWorkflowNode)
    (p : RunProjection) : Bool :=
  if node.handler = "engine.saga-open" then
    (w.sagaForControlNode node.id).any fun saga => p.sagas.contains saga.sagaId
  else if node.handler = "engine.saga-commit" then
    ((w.sagaForControlNode node.id).bind fun saga => p.sagas.get? saga.sagaId).any
      (·.phase = .correctionCompleted)
  else if node.handler = "engine.for-each-open" then
    ((w.graph.forEachList.find? (·.openNodeId = node.id)).bind fun descriptor =>
      p.forEach.get? descriptor.forEachId).any (·.status ≠ .open)
  else if node.handler = "engine.choice-select" then
    (w.graph.choiceList.find? (·.selectorNodeId = node.id)).any fun choice =>
      p.choiceSelections.contains choice.choiceId
  else if node.handler = "engine.fork-open" then
    (w.graph.forkList.find? (·.openNodeId = node.id)).any fun fork => p.forks.contains fork.forkId
  else if node.handler = "engine.fork-branch-terminal" then
    (forkBranchWithTerminal w node.id).any fun (fork, branch) =>
      (p.forks.get? fork.forkId).any (·.branches.contains branch.branchId)
  else if node.handler = "engine.fork-join" then
    ((w.graph.forkList.find? (·.joinNodeId = node.id)).bind fun fork =>
      p.forks.get? fork.forkId).any (·.joinStatus = .succeeded)
  else if node.handler = "engine.branch-select" then
    (selectorBranchId node.id).any fun branchId => p.branchSelections.contains branchId
  else if node.handler = "engine.parallel-start" then
    ((Text.stripPrefix "__woml_parallel__" node.id).bind (Text.stripSuffix "__start")).any
      fun parallelId => p.parallelGroups.contains parallelId
  else if node.handler = "engine.parallel-join" then
    (p.parallelGroups.get? node.id).any (·.status.isSuccess)
  else if node.handler = "engine.lock-acquire" then
    ((w.graph.lockList.find? (·.acquireNodeId = node.id)).bind fun lock =>
      p.locks.get? lock.lockId).any fun lock => lock.status = .held || lock.status = .released
  else if node.handler = "engine.lock-release" then
    ((w.graph.lockList.find? (·.releaseNodeId = node.id)).bind fun lock =>
      p.locks.get? lock.lockId).any (·.status = .released)
  else p.context.steps.containsKey node.id

/-- The arm through which a choice join was entered, if its choice was made. -/
def selectedArm (w : CompiledWorkflowDefinition) (p : RunProjection) (joinId : String) :
    Option String :=
  (w.graph.choiceList.find? (·.joinNodeId = joinId)).bind fun choice =>
    p.choiceSelections.get? choice.choiceId

def entersJoin (selected joinId : String) (edge : CompiledWorkflowEdge) : Bool :=
  edge.target = joinId && (edge.id = s!"{selected}:join" || edge.id = selected)

/-- The gate of every query: `false` when the run is not running. -/
def readinessBinding (w : CompiledWorkflowDefinition) (definitionHash : String)
    (p : RunProjection) : Except EngineError Bool :=
  if p.status ≠ .running then .ok false
  else if (p.workflowId = some w.workflowId ∨
      (p.eventSchemaVersion.any (11 ≤ ·) ∧ p.workflowId = none)) ∧
      p.definitionHash = some definitionHash then .ok true
  else .error (.message "The run is not bound to this compiled workflow definition.")

/-! ## The plain scan -/

namespace Reference

variable (w : CompiledWorkflowDefinition) (p : RunProjection)

def nodeIsComplete : Nat → CompiledWorkflowNode → Except EngineError Bool
  | 0, _ => .error .diverged
  | fuel + 1, node =>
    if node.handler = "engine.choice-join" then
      let entered := (selectedArm w p node.id).bind fun selected =>
        w.graph.edges.find? (entersJoin selected node.id)
      match entered.bind fun edge => w.node edge.source with
      | some predecessor => nodeIsComplete fuel predecessor
      | none => .ok false
    else if node.handler = "engine.approval-join" then
      (w.graph.edges.filter fun edge => edge.target = node.id && edgeIsActive edge p).anyM
        fun edge =>
          match w.node edge.source with
          | some predecessor => nodeIsComplete fuel predecessor
          | none => .ok false
    else .ok (localCompletion w node p)

def activeNodeIds : List String :=
  Worklist.visit
    (fun id =>
      (w.graph.edges.filter fun edge => edge.source = id && edgeIsActive edge p).map (·.target))
    (w.graph.entryNodeIds.length + w.graph.edges.length) w.graph.entryNodeIds []

def failureCanInactivateMainRoute (failedNodeId : String) : Bool :=
  (w.forkBranchOwner failedNodeId).elim true fun (fork, branch) =>
    fork.joinedBranchIds.contains branch.branchId

/-- The last attempt of its node, failed, with no retry scheduled. -/
def isFinalFailure (attempt : AttemptProjection) : Bool :=
  (p.latestAttempt attempt.identity.nodeId).any (·.identity = attempt.identity) &&
    attempt.status.isFailed && !p.pendingRetries.contains attempt.identity.nodeId

def workflowSettlementCanDecide : Bool :=
  match w.graph.settlement with
  | none => false
  | some settlement =>
    p.context.steps.containsKey settlement.mainResultNodeId ||
      p.attempts.reverse.any fun attempt =>
        isFinalFailure p attempt && failureCanInactivateMainRoute w attempt.identity.nodeId

/-- The active edges into each node, in edge order. -/
def incoming (active : List String) : SortedMap String (List CompiledWorkflowEdge) :=
  (w.graph.edges.filter fun edge => edge.source ∈ active && edgeIsActive edge p).foldl
    (fun index edge => index.push edge.target edge)
    (w.graph.nodes.foldl (fun index node => index.insert node.id []) .empty)

/-- The latest attempt of a node leaves it free to start at `now`. -/
def attemptAllows (latest : Option AttemptProjection) (retry : Option RetryScheduleProjection)
    (now : DateTime) : Bool :=
  match latest with
  | none => true
  | some attempt => attempt.status.isFailed && retry.any (·.scheduledAt ≤ now)

/-- Every predecessor of the edges exists and is complete. -/
def predecessorsComplete (fuel : Nat) (edges : List CompiledWorkflowEdge) :
    Except EngineError Bool :=
  edges.allM fun edge =>
    match w.node edge.source with
    | some predecessor => nodeIsComplete w p fuel predecessor
    | none => .ok false

/-- One candidate of the scan. The tests run in the source's order and stop at the first that
fails, so that a completion that is not asked for cannot diverge. -/
def isReady (fuel : Nat) (now : DateTime) (active : List String)
    (index : SortedMap String (List CompiledWorkflowEdge)) (node : CompiledWorkflowNode) :
    Except EngineError Bool :=
  if node.id ∉ active then .ok false
  else do
    if ← nodeIsComplete w p fuel node then .ok false
    else if node.handler = "engine.workflow-settlement" ∧ !workflowSettlementCanDecide w p then
      .ok false
    else if !attemptAllows (p.latestAttempt node.id) (p.pendingRetries.get? node.id) now then
      .ok false
    else predecessorsComplete w p fuel ((index.get? node.id).getD [])

/-- The ready nodes of a run that passed the gate, in source order. -/
def scan (fuel : Nat) (now : DateTime) : Except EngineError (List String) := do
  let active := activeNodeIds w p
  let ready ← filterChecked (isReady w p fuel now active (incoming w p active)) w.graph.nodes
  .ok (ready.map (·.id))

def readyNodeIdsForProjectionAt (fuel : Nat) (definitionHash : String) (now : DateTime) :
    Except EngineError (List String) := do
  if ← readinessBinding w definitionHash p then scan w p fuel now else .ok []

end Reference

/-! ## Adjacency indexes -/

/-- A borrowed definition: pointer equality of borrows is equality of addresses. -/
structure DefinitionRef extends CompiledWorkflowDefinition where
  address : Nat

inductive GraphIndex
  | borrowed (nodes : SortedMap String CompiledWorkflowNode)
      (incoming outgoing : SortedMap String (List CompiledWorkflowEdge))
  | prepared (nodes : SortedMap String Nat) (incoming outgoing : SortedMap String (List Nat))

structure ReadinessGraph where
  workflow : DefinitionRef
  index : GraphIndex

namespace ReadinessGraph

/-- The index of nodes and edges that a single check borrows. -/
def new (workflow : DefinitionRef) : ReadinessGraph where
  workflow := workflow
  index := .borrowed
    (workflow.graph.nodes.foldl (fun index node => index.insertFirst node.id node) .empty)
    (workflow.graph.edges.foldl (fun index edge => index.push edge.target edge) .empty)
    (workflow.graph.edges.foldl (fun index edge => index.push edge.source edge) .empty)

/-- The index of ordinals that a definition keeps (`OwnedTopology`). -/
def prepare (workflow : DefinitionRef) : ReadinessGraph where
  workflow := workflow
  index := .prepared
    (workflow.graph.nodes.zipIdx.foldl (fun index node => index.insertFirst node.1.id node.2)
      .empty)
    (workflow.graph.edges.zipIdx.foldl (fun index edge => index.push edge.1.target edge.2)
      .empty)
    (workflow.graph.edges.zipIdx.foldl (fun index edge => index.push edge.1.source edge.2)
      .empty)

variable (g : ReadinessGraph)

def node (id : String) : Option CompiledWorkflowNode :=
  match g.index with
  | .borrowed nodes _ _ => nodes.get? id
  | .prepared nodes _ _ => (nodes.get? id).bind fun ordinal => g.workflow.graph.nodes[ordinal]?

def incoming (id : String) : List CompiledWorkflowEdge :=
  match g.index with
  | .borrowed _ incoming _ => (incoming.get? id).getD []
  | .prepared _ incoming _ =>
    ((incoming.get? id).getD []).filterMap fun ordinal => g.workflow.graph.edges[ordinal]?

def outgoing (id : String) : List CompiledWorkflowEdge :=
  match g.index with
  | .borrowed _ _ outgoing => (outgoing.get? id).getD []
  | .prepared _ _ outgoing =>
    ((outgoing.get? id).getD []).filterMap fun ordinal => g.workflow.graph.edges[ordinal]?

end ReadinessGraph

/-! ## Latest attempts -/

/-- The latest attempt of each node: a map built for one query, or the ordinals that a cursor
keeps (`none` while it has built none). -/
inductive LatestAttempts
  | query (latest : SortedMap String AttemptProjection)
  | prefixed (p : RunProjection) (latest : Option (SortedMap String Nat))

namespace LatestAttempts

def new (p : RunProjection) : LatestAttempts :=
  .query (p.attempts.foldl (fun latest attempt => latest.insert attempt.identity.nodeId attempt)
    .empty)

def get (nodeId : String) : LatestAttempts → Option AttemptProjection
  | query latest => latest.get? nodeId
  | prefixed p (some latest) => (latest.get? nodeId).bind fun index => p.attempts[index]?
  | prefixed p none => p.latestAttempt nodeId

end LatestAttempts

/-! ## The indexed computation -/

namespace ReadinessGraph

variable (g : ReadinessGraph) (p : RunProjection)

/-- `node_is_complete_with_graph`, with the graph when there is one. -/
def nodeIsCompleteWithGraph (w : CompiledWorkflowDefinition) (graph : Option ReadinessGraph) :
    Nat → CompiledWorkflowNode → Except EngineError Bool
  | 0, _ => .error .diverged
  | fuel + 1, node =>
    let lookup := fun id => graph.elim (w.node id) (·.node id)
    if node.handler = "engine.choice-join" then
      let entered := (selectedArm w p node.id).bind fun selected =>
        (graph.elim w.graph.edges (·.incoming node.id)).find? (entersJoin selected node.id)
      match entered.bind fun edge => lookup edge.source with
      | some predecessor => nodeIsCompleteWithGraph w graph fuel predecessor
      | none => .ok false
    else if node.handler = "engine.approval-join" then
      (graph.elim (w.graph.edges.filter (·.target = node.id)) (·.incoming node.id)).anyM
        fun edge =>
          if edgeIsActive edge p then
            match lookup edge.source with
            | some predecessor => nodeIsCompleteWithGraph w graph fuel predecessor
            | none => .ok false
          else .ok false
    else .ok (localCompletion w node p)

def complete (fuel : Nat) (node : CompiledWorkflowNode) : Except EngineError Bool :=
  nodeIsCompleteWithGraph p g.workflow.toCompiledWorkflowDefinition (some g) fuel node

def activeNodeIds : List String :=
  Worklist.visit
    (fun id => ((g.outgoing id).filter (edgeIsActive · p)).map (·.target))
    (g.workflow.graph.entryNodeIds.length + g.workflow.graph.edges.length)
    g.workflow.graph.entryNodeIds []

def branchRegion (branch : CompiledForkBranch) : List String :=
  Worklist.visit
    (fun id => if id = branch.terminalNodeId then [] else (g.outgoing id).map (·.target))
    (1 + g.workflow.graph.edges.length) [branch.entryNodeId] []

def failureCanInactivateMainRoute (failedNodeId : String) : Bool :=
  (g.workflow.forkBranches.find? fun (_, branch) =>
    (g.branchRegion branch).contains failedNodeId).elim true fun (fork, branch) =>
      fork.joinedBranchIds.contains branch.branchId

def settlementCanDecide (latest : LatestAttempts) : Bool :=
  match g.workflow.graph.settlement with
  | none => false
  | some settlement =>
    p.context.steps.containsKey settlement.mainResultNodeId ||
      p.attempts.reverse.any fun attempt =>
        ((latest.get attempt.identity.nodeId).any (·.identity = attempt.identity) &&
          attempt.status.isFailed && !p.pendingRetries.contains attempt.identity.nodeId) &&
        g.failureCanInactivateMainRoute attempt.identity.nodeId

def candidateIsReady (fuel : Nat) (now : DateTime) (active : List String)
    (latest : LatestAttempts) (node : CompiledWorkflowNode) : Except EngineError Bool :=
  if node.id ∉ active then .ok false
  else do
    if ← g.complete p fuel node then .ok false
    else if node.handler = "engine.workflow-settlement" ∧ !g.settlementCanDecide p latest then
      .ok false
    else if !Reference.attemptAllows (latest.get node.id) (p.pendingRetries.get? node.id) now then
      .ok false
    else
      ((g.incoming node.id).filter fun edge =>
        edge.source ∈ active && edgeIsActive edge p).allM fun edge =>
          match g.node edge.source with
          | some predecessor => g.complete p fuel predecessor
          | none => .ok false

/-- The list of `ready_at_view` once the gate is passed and no frontier answers. -/
def scan (fuel : Nat) (now : DateTime) (latest : LatestAttempts) :
    Except EngineError (List String) := do
  let ready ← filterChecked (g.candidateIsReady p fuel now (g.activeNodeIds p) latest)
    g.workflow.graph.nodes
  .ok (ready.map (·.id))

/-- Membership of one node, over every candidate with its id. -/
def scanOne (fuel : Nat) (now : DateTime) (latest : LatestAttempts) (nodeId : String) :
    Except EngineError Bool :=
  g.workflow.graph.nodes.anyM fun node =>
    if node.id = nodeId then g.candidateIsReady p fuel now (g.activeNodeIds p) latest node
    else .ok false

def readyAt (fuel : Nat) (definitionHash : String) (now : DateTime) :
    Except EngineError (List String) := do
  if ← readinessBinding g.workflow.toCompiledWorkflowDefinition definitionHash p then
    g.scan p fuel now (.new p)
  else .ok []

def isReadyAt (fuel : Nat) (definitionHash : String) (now : DateTime) (nodeId : String) :
    Except EngineError Bool := do
  if ← readinessBinding g.workflow.toCompiledWorkflowDefinition definitionHash p then
    g.scanOne p fuel now (.new p) nodeId
  else .ok false

end ReadinessGraph

/-- The entry points of the engine: over a graph borrowed for one query, and over the prepared
topology of a retained definition (`ReadinessDefinition::ready_at`). -/
def readyNodeIdsForProjectionAt (fuel : Nat) (w : DefinitionRef) (definitionHash : String)
    (p : RunProjection) (now : DateTime) : Except EngineError (List String) := do
  if ← readinessBinding w.toCompiledWorkflowDefinition definitionHash p then
    (ReadinessGraph.new w).readyAt p fuel definitionHash now
  else .ok []

def ReadinessDefinition.readyAt (fuel : Nat) (w : DefinitionRef) (definitionHash : String)
    (p : RunProjection) (now : DateTime) : Except EngineError (List String) := do
  if ← readinessBinding w.toCompiledWorkflowDefinition definitionHash p then
    (ReadinessGraph.prepare w).readyAt p fuel definitionHash now
  else .ok []

end Woml
