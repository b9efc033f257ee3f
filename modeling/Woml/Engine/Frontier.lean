import Woml.Engine.Readiness
import Woml.Projection.Fold

/-!
# The incremental frontier

For a plain script graph the cursor over a history keeps, per node, whether it is active and
complete, how many of its active predecessors are not complete yet, and when its retry is due; the
candidates are the nodes that only wait for the clock. `Frontier.new` builds this for a
projection, `Frontier.update` keeps it after one event.

Vectors are lists of the length of the node list. `new` fills them by counting over the edges
where the source increments in a loop over the edges.
-/

namespace Woml

/-- The node that an event changes: `none` for an event the frontier does not support, which
invalidates it, `some none` for a supported event that changes no node. -/
def changedNode (event : RunEvent) : Option (Option String) :=
  if event.iteration.isSome then none
  else
    match event.payload with
    | .runStarted _ => some none
    | .stepAttemptStarted data => some (some data.nodeId)
    | .stepAttemptSucceeded data => some (some data.nodeId)
    | .stepAttemptFailed data => some (some data.nodeId)
    | .stepRetryScheduled data => some (some data.nodeId)
    | _ => none

structure Frontier where
  definition : DefinitionRef
  ids : SortedMap String Nat
  outgoing : List (List Nat)
  active : List Bool
  complete : List Bool
  remaining : List Nat
  eligible : List Bool
  retryAt : List (Option DateTime)
  candidates : SortedMap Nat Unit

namespace Frontier

/-- A plain script graph: no section of the later models, every node a local script, every edge
unconditional. -/
def isSupported (w : CompiledWorkflowDefinition) : Bool :=
  1 ≤ w.schemaVersion && w.schemaVersion ≤ 21 && w.lifecycle.isNone && w.runtimePolicy.isNone &&
    w.reusableDefinitions.isNone && w.communication.isNone && w.graph.forks.isNone &&
    w.graph.choices.isNone && w.graph.contextVisibility.isNone && w.graph.settlement.isNone &&
    w.graph.forEach.isNone && w.graph.waits.isNone && w.graph.locks.isNone &&
    w.graph.sagas.isNone &&
    (w.graph.nodes.all fun node => node.handler = "runtime.script" && node.execution.isNone) &&
    w.graph.edges.all fun edge =>
      edge.condition.isAlways && edge.branchId.isNone && edge.parallelId.isNone &&
        edge.approvalId.isNone && !Text.startsWith "__woml_choice__" edge.id

/-- The number of nodes that a topological order visits, each at most once. -/
def topologicalVisits (outgoing : List (List Nat)) : Nat → List Nat → List Nat → Nat → Nat
  | 0, _, _, visited => visited
  | _ + 1, [], _, visited => visited
  | fuel + 1, node :: queue, indegree, visited =>
    let (queue', indegree') := (outgoing.getD node []).foldl
      (fun (queue, indegree) next =>
        let left := indegree.getD next 0 - 1
        (if left = 0 then queue ++ [next] else queue, indegree.set next left))
      (queue, indegree)
    topologicalVisits outgoing fuel queue' indegree' (visited + 1)

def isAcyclic (count : Nat) (edges : List (Nat × Nat)) : Bool :=
  let indegree := (List.range count).map fun i => edges.countP (·.2 = i)
  topologicalVisits ((List.range count).map (Worklist.successors edges)) count
    ((List.range count).filter fun i => indegree.getD i 0 = 0) indegree 0 = count

/-- Eligibility of a node and the instant its retry is due. -/
def eligibility (complete : Bool) (status : Option AttemptStatus)
    (retry : Option RetryScheduleProjection) : Bool × Option DateTime :=
  if complete then (false, none)
  else
    match status with
    | none => (true, none)
    | some .started | some (.succeeded _) => (false, none)
    | some (.failed _) => (retry.isSome, retry.map (·.scheduledAt))

def refresh (f : Frontier) (index : Nat) (p : RunProjection) (latest : SortedMap String Nat) :
    Frontier :=
  let id := (f.definition.graph.nodes[index]?).elim "" (·.id)
  let status := (latest.get? id).bind fun i => (p.attempts[i]?).map (·.status)
  let (eligible, retryAt) :=
    eligibility (f.complete.getD index false) status (p.pendingRetries.get? id)
  { f with
    eligible := f.eligible.set index eligible
    retryAt := f.retryAt.set index retryAt
    candidates :=
      if f.active.getD index false ∧ f.remaining.getD index 0 = 0 ∧ eligible then
        f.candidates.insert index ()
      else f.candidates.erase index }

/-- The frontier before any node's eligibility is known. -/
def start (definition : DefinitionRef) (ids : SortedMap String Nat) (edges : List (Nat × Nat))
    (entries : List Nat) (p : RunProjection) : Frontier :=
  let count := definition.graph.nodes.length
  let reached := Worklist.visit (Worklist.successors edges) (entries.length + edges.length)
    entries []
  let active := (List.range count).map fun i => decide (i ∈ reached)
  let complete := definition.graph.nodes.map fun node => p.context.steps.containsKey node.id
  { definition, ids, outgoing := (List.range count).map (Worklist.successors edges), active
    complete
    remaining := (List.range count).map fun i => edges.countP fun edge =>
      decide (edge.2 = i) && (active.getD edge.1 false && !complete.getD edge.1 false)
    eligible := List.replicate count false
    retryAt := List.replicate count none
    candidates := .empty }

def new (definition : DefinitionRef) (p : RunProjection) (latest : SortedMap String Nat) :
    Option Frontier := do
  let graph := definition.graph
  guard (isSupported definition.toCompiledWorkflowDefinition)
  let count := graph.nodes.length
  let ids : SortedMap String Nat :=
    graph.nodes.zipIdx.foldl (fun ids node => ids.insert node.1.id node.2) .empty
  guard (ids.size = count)
  guard (latest.keys.all ids.contains)
  let edges ← graph.edges.mapM fun edge => do
    let source ← ids.get? edge.source
    let target ← ids.get? edge.target
    some (source, target)
  guard (isAcyclic count edges)
  let entries ← graph.entryNodeIds.mapM fun entry => ids.get? entry
  some ((List.range count).foldl (fun f index => f.refresh index p latest)
    (start definition ids edges entries p))

/-- One finished predecessor fewer for `next`. -/
def discount (f : Frontier) (next : Nat) : Frontier :=
  let left := f.remaining.getD next 0 - 1
  { f with
    remaining := f.remaining.set next left
    candidates :=
      if left = 0 ∧ f.active.getD next false ∧ f.eligible.getD next false then
        f.candidates.insert next ()
      else f.candidates }

/-- `none` when the frontier cannot follow the change. -/
def update (f : Frontier) (node : String) (p : RunProjection) (latest : SortedMap String Nat) :
    Option Frontier :=
  match f.ids.get? node with
  | none => none
  | some index =>
    let complete := p.context.steps.containsKey node
    if complete = f.complete.getD index false then some (f.refresh index p latest)
    else if !complete then none
    else
      let marked := { f with complete := f.complete.set index true }
      let counted :=
        if f.active.getD index false then (f.outgoing.getD index []).foldl discount marked
        else marked
      some (counted.refresh index p latest)

def due (f : Frontier) (index : Nat) (now : DateTime) : Bool :=
  (f.retryAt.getD index none).all (· ≤ now)

def contains (f : Frontier) (node : String) (now : DateTime) : Bool :=
  (f.ids.get? node).any fun index => f.candidates.contains index && f.due index now

def readyAt (f : Frontier) (now : DateTime) : List String :=
  (f.candidates.keys.filter fun index => f.due index now).map fun index =>
    (f.definition.graph.nodes[index]?).elim "" (·.id)

end Frontier

end Woml
