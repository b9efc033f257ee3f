import Woml.Definition.Queries
import Woml.Projection.State

/-!
# Closing the forks and groups of a run

A run that is cancelled or timed out closes its forks, and a cancelled run its parallel groups,
before its outcome is decided: the events that the routines append, by the projection that they
read.
-/

namespace Woml

namespace CompiledFork

variable (fork : CompiledFork)

def cancelledBranch (branch : CompiledForkBranch) : RunEventPayload :=
  .forkBranchSettled ⟨fork.forkId, branch.branchId, branch.terminalNodeId, .cancelled⟩

/-- The blocking branch is the first one of the join. -/
def cancelledJoin : RunEventPayload :=
  match fork.joinedBranchIds.head? with
  | some blockingBranchId => .forkJoinSettled ⟨fork.forkId, .cancelled, some blockingBranchId⟩
  | none => .forkJoinSettled ⟨fork.forkId, .succeeded, none⟩

/-- The branches without an outcome, when the projection is read again after each event. -/
def remaining (settled : String → Bool) : List CompiledForkBranch → List CompiledForkBranch
  | [] => []
  | branch :: branches =>
    if settled branch.branchId then remaining settled branches
    else branch :: remaining (fun id => settled id || id = branch.branchId) branches

def closing (f : ForkProjection) (branches : List CompiledForkBranch) : List RunEventPayload :=
  branches.map fork.cancelledBranch ++
    if f.joinStatus = .pending then [fork.cancelledJoin] else []

def settleOpenForkCancellation (f : ForkProjection) : List RunEventPayload :=
  fork.closing f (remaining f.branches.contains fork.branches)

def unsettled (f : ForkProjection) : List CompiledForkBranch :=
  fork.branches.filter fun branch => !f.branches.contains branch.branchId

/-- One fork in `settle_run_timeout`, which reads the projection once. -/
def settleForkTimeout (f : ForkProjection) : List RunEventPayload :=
  fork.closing f (fork.unsettled f)

end CompiledFork

/-- The failure of the latest attempt of a node. -/
def RunProjection.latestFailure (p : RunProjection) (nodeId : String) : Option AttemptFailureKind :=
  (p.latestAttempt nodeId).bind fun attempt =>
    match attempt.status with
    | .failed failure => some failure.kind
    | _ => none

namespace ParallelGroupDefinition

variable (group : ParallelGroupDefinition) (p : RunProjection)

/-- The completion of a group by the latest attempts of its children. -/
def cancelledCompletion : ParallelGroupCompletedData where
  parallelId := group.parallelId
  outcome := .failed
  failedNodeIds := group.childNodeIds.filter fun nodeId =>
    (p.latestFailure nodeId).any (· ≠ .invocationCancelled)
  cancelledNodeIds := group.childNodeIds.filter fun nodeId =>
    (p.latestFailure nodeId).any (· = .invocationCancelled)

/-- One started group in `settle_cancelling_run`, which has failed the attempts in flight before.
A group in which no latest attempt has failed is left open. -/
def settleCancelling : Option RunEventPayload :=
  let data := group.cancelledCompletion p
  if data.failedNodeIds = [] ∧ data.cancelledNodeIds = [] then none
  else some (.parallelGroupCompleted data)

end ParallelGroupDefinition

end Woml
