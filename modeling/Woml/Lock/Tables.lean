import Woml.Database.Tables

/-!
# Durable locks: the scopes

The lock of an acquisition, of the run or of one iteration, and the nodes that a lock protects.
-/

namespace Woml

/-- The lock of an acquisition as the history has it. -/
def RunProjection.lockAt (p : RunProjection) (lockId : String) :
    Option ForEachIterationScope → Option LockProjection
  | none => p.locks.get? lockId
  | some scope => do
    let loop ← p.forEach.get? scope.forEachId
    let execution ← loop.executions.get? scope.index
    execution.locks.get? lockId

/-- The search of the source stops at the node; the body of the lock ends at its terminal node. -/
def CompiledLock.containsNode (lock : CompiledLock) (nodeId : String)
    (edges : List CompiledWorkflowEdge) : Bool :=
  let next := fun candidate =>
    if candidate = lock.bodyTerminalNodeId then []
    else Worklist.successors (edges.map fun edge => (edge.source, edge.target)) candidate
  (Worklist.visit next (edges.length + 2) [lock.bodyEntryNodeId] []).contains nodeId

end Woml
