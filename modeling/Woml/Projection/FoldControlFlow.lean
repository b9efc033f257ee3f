import Woml.Projection.FoldRun

/-!
# Fold handlers: branches, choices, forks, for-each loops and parallel groups
-/

namespace Woml

open Checked

/-! ## Branches and choices -/

def applyBranchSelected (p : RunProjection) (data : BranchSelectedData) :
    Except FoldError RunProjection := do
  requireRunning p
  match p.branchSelections.get? data.branchId with
  | some selectedArm =>
    .error (.invalidHistory (s!"Branch {Text.quote data.branchId} was already selected as arm " ++
      s!"{Text.quote selectedArm}."))
  | none =>
    .ok { p with branchSelections := p.branchSelections.insert data.branchId data.armId }

def applyChoiceSelected (p : RunProjection) (data : ChoiceSelectedData) :
    Except FoldError RunProjection := do
  requireRunning p
  failIf (p.choiceSelections.contains data.choiceId)
    (.invalidHistory s!"Choice {Text.quote data.choiceId} was selected more than once.")
  .ok { p with choiceSelections := p.choiceSelections.insert data.choiceId data.armId }

/-! ## Forks -/

def applyForkOpened (p : RunProjection) (data : ForkOpenedData) :
    Except FoldError RunProjection := do
  requireRunning p
  failIf (p.forks.contains data.forkId)
    (.invalidHistory s!"Fork {Text.quote data.forkId} was opened more than once.")
  .ok { p with
    forks := p.forks.insert data.forkId ⟨data.forkId, .empty, .pending, none⟩ }

def applyForkBranchSettled (p : RunProjection) (data : ForkBranchSettledData) :
    Except FoldError RunProjection := do
  requireRunningOrCancelling p
  let fork ← orFail (p.forks.get? data.forkId)
    (.invalidHistory (s!"Fork branch {Text.quote data.forkId}.{Text.quote data.branchId} " ++
      "settled before its fork opened."))
  failIf (fork.branches.contains data.branchId)
    (.invalidHistory (s!"Fork branch {Text.quote data.forkId}.{Text.quote data.branchId} " ++
      "settled more than once."))
  let branch : ForkBranchProjection :=
    ⟨data.branchId, some data.terminalNodeId, some data.outcome⟩
  .ok { p with
    forks := p.forks.insert data.forkId
      { fork with branches := fork.branches.insert data.branchId branch } }

/-- A branch that settled so proves the outcome of the join. -/
def ForkJoinOutcome.isProvenBy : ForkJoinOutcome → ForkBranchOutcome → Bool
  | .failed, .failed | .cancelled, .cancelled => true
  | _, _ => false

def ForkJoinOutcome.joinStatus : ForkJoinOutcome → ForkJoinStatus
  | .succeeded => .succeeded
  | .failed => .failed
  | .cancelled => .cancelled

def applyForkJoinSettled (p : RunProjection) (data : ForkJoinSettledData) :
    Except FoldError RunProjection := do
  requireRunningOrCancelling p
  let fork ← orFail (p.forks.get? data.forkId)
    (.invalidHistory s!"Fork {Text.quote data.forkId} join settled before its fork opened.")
  failIf (fork.joinStatus ≠ .pending)
    (.invalidHistory s!"Fork {Text.quote data.forkId} join settled more than once.")
  match data.blockingBranchId with
  | some blockingBranchId =>
    failIf (!(((fork.branches.get? blockingBranchId).bind (·.outcome)).any data.outcome.isProvenBy))
      (.invalidHistory (s!"Fork {Text.quote data.forkId} join outcome is not proven by blocking " ++
        s!"branch {Text.quote blockingBranchId}."))
  | none => .ok ()
  .ok { p with
    forks := p.forks.insert data.forkId
      { fork with
        joinStatus := data.outcome.joinStatus
        blockingBranchId := data.blockingBranchId } }

/-! ## For-each loops -/

/-- The scope of an iteration event; validation makes it present. -/
def iterationScope (event : RunEvent) : Except FoldError ForEachIterationScope :=
  orFail event.iteration (.invalidHistory "validated iteration scope")

def applyForEachOpened (p : RunProjection) (data : ForEachOpenedData) :
    Except FoldError RunProjection := do
  requireRunning p
  failIf (p.forEach.contains data.forEachId)
    (.invalidHistory s!"For-each {Text.quote data.forEachId} was opened more than once.")
  let loop : ForEachProjection :=
    { forEachId := data.forEachId
      total := data.total
      itemsDigest := data.itemsDigest
      concurrency := data.concurrency
      status := .open
      iterations := .empty
      executions := .empty }
  .ok { p with forEach := p.forEach.insert data.forEachId loop }

def applyForEachIterationStarted (p : RunProjection) (event : RunEvent)
    (data : ForEachIterationIdentityData) : Except FoldError RunProjection := do
  requireRunning p
  let scope ← iterationScope event
  let loop ← orFail (p.forEach.get? data.forEachId)
    (.invalidHistory (s!"For-each iteration {Text.quote data.forEachId}:{scope.index} started " ++
      "before its loop opened."))
  failIf (loop.status ≠ .open ∨ loop.total ≤ scope.index ∨ loop.iterations.contains scope.index)
    (.invalidHistory (s!"For-each iteration {Text.quote data.forEachId}:{scope.index} cannot " ++
      "start in its current state."))
  .ok { p with
    forEach := p.forEach.insert data.forEachId
      { loop with
        iterations := loop.iterations.insert scope.index .started
        executions := loop.executions.insert scope.index { context := p.context } } }

section
variable [Host]

def projectionDigest (value : Value) : Except FoldError String :=
  match Host.canonicalJson value with
  | .ok bytes => .ok (sha256Prefixed bytes)
  | .error error =>
    .error (.invalidHistory s!"A durable JSON value is not canonical: {error}")

def applyForEachIterationSucceeded (p : RunProjection) (event : RunEvent)
    (data : ForEachIterationSucceededData) : Except FoldError RunProjection := do
  requireRunning p
  let scope ← iterationScope event
  match data.result, data.resultDigest with
  | some result, some expectedDigest => do
    let digest ← projectionDigest result
    failIf (digest ≠ expectedDigest)
      (.invalidHistory (s!"For-each iteration {Text.quote data.forEachId}:{scope.index} result " ++
        "digest does not match its value."))
  | _, _ => .ok ()
  let loop ← orFail (p.forEach.get? data.forEachId)
    (.invalidHistory "For-each iteration succeeded before opening.")
  failIf (!((loop.iterations.get? scope.index).any (·.isStarted)))
    (.invalidHistory (s!"For-each iteration {Text.quote data.forEachId}:{scope.index} succeeded " ++
      "without one active start."))
  .ok { p with
    forEach := p.forEach.insert data.forEachId
      { loop with iterations := loop.iterations.insert scope.index (.succeeded data.result) } }

end

/-- Update an entry that is present. -/
def modifyEntry {κ α : Type} [LinearOrder κ] (m : SortedMap κ α) (k : κ) (f : α → α) :
    SortedMap κ α :=
  match m.get? k with
  | some a => m.insert k (f a)
  | none => m

def applyForEachIterationFailed (p : RunProjection) (event : RunEvent)
    (data : ForEachIterationFailedData) : Except FoldError RunProjection := do
  requireRunningOrCancelling p
  let scope ← iterationScope event
  let loop ← orFail (p.forEach.get? data.forEachId)
    (.invalidHistory "For-each iteration failed before opening.")
  failIf (!((loop.iterations.get? scope.index).any (·.isStarted)))
    (.invalidHistory (s!"For-each iteration {Text.quote data.forEachId}:{scope.index} failed " ++
      "without one active start."))
  .ok { p with
    forEach := p.forEach.insert data.forEachId
      { loop with
        iterations := loop.iterations.insert scope.index (.failed data.failedNodeId)
        executions := modifyEntry loop.executions scope.index
          fun execution => { execution with pendingRetries := .empty } } }

def applyForEachIterationSkipped (p : RunProjection) (event : RunEvent)
    (data : ForEachIterationSkippedData) : Except FoldError RunProjection := do
  requireRunningOrCancelling p
  let scope ← iterationScope event
  let loop ← orFail (p.forEach.get? data.forEachId)
    (.invalidHistory "For-each iteration skipped before opening.")
  failIf (loop.status ≠ .open ∨ loop.total ≤ scope.index ∨ loop.iterations.contains scope.index)
    (.invalidHistory (s!"For-each iteration {Text.quote data.forEachId}:{scope.index} cannot be " ++
      "skipped in its current state."))
  .ok { p with
    forEach := p.forEach.insert data.forEachId
      { loop with iterations := loop.iterations.insert scope.index .skipped } }

namespace ForEachProjection

def succeededCount (loop : ForEachProjection) : Nat :=
  (loop.iterations.values.filter fun
    | .succeeded _ => true
    | _ => false).length

def failedCount (loop : ForEachProjection) : Nat :=
  (loop.iterations.values.filter fun
    | .failed _ => true
    | _ => false).length

def skippedCount (loop : ForEachProjection) : Nat :=
  (loop.iterations.values.filter fun
    | .skipped => true
    | _ => false).length

def pendingRetryCount (loop : ForEachProjection) : Nat :=
  (loop.executions.values.map (·.pendingRetries.size)).sum

def activeAttempts (loop : ForEachProjection) : List AttemptProjection :=
  (loop.executions.values.flatMap (·.attempts)).filter (·.status.isStarted)

def activeOperationCount (loop : ForEachProjection) : Nat :=
  ((loop.executions.values.flatMap (·.operations.values)).filter (·.status.isStarted)).length

def activeLifecycleCount (loop : ForEachProjection) : Nat :=
  ((loop.executions.values.flatMap (·.lifecycleHooks.values)).filter fun hook =>
    hook.status = .requested || hook.status = .running).length

def activeReusableCount (loop : ForEachProjection) : Nat :=
  ((loop.executions.values.flatMap (·.reusableLifecycleHooks.values)).filter fun hook =>
    hook.status = .requested || hook.status = .running).length

def activeParallelCount (loop : ForEachProjection) : Nat :=
  ((loop.executions.values.flatMap (·.parallelGroups.values)).filter
    (·.status = .started)).length

def ownsActiveWork (loop : ForEachProjection) : Bool :=
  loop.pendingRetryCount ≠ 0 || loop.activeAttempts.length ≠ 0 || loop.activeOperationCount ≠ 0 ||
    loop.activeLifecycleCount ≠ 0 || loop.activeReusableCount ≠ 0 || loop.activeParallelCount ≠ 0

/-- The attempts in flight as the settlement error lists them. -/
def activeAttemptNames (loop : ForEachProjection) : String :=
  "[" ++ String.intercalate ", " (loop.executions.entries.flatMap fun (index, execution) =>
    (execution.attempts.filter (·.status.isStarted)).map fun attempt =>
      Text.quote (s!"{index}:{attempt.identity.nodeId}:{attempt.identity.attempt}:" ++
        attempt.identity.invocationId)) ++ "]"

def settlementMessage (loop : ForEachProjection) (data : ForEachSettledData) : String :=
  s!"For-each {Text.quote data.forEachId} settlement does not match its folded iterations: " ++
    s!"event=({data.succeeded},{data.failed},{data.skipped}), " ++
    s!"folded=({loop.succeededCount},{loop.failedCount},{loop.skippedCount}), " ++
    s!"total={loop.total}, activeWork={loop.ownsActiveWork} " ++
    s!"(retries={loop.pendingRetryCount}, attempts={loop.activeAttempts.length} " ++
    s!"{loop.activeAttemptNames}, operations={loop.activeOperationCount}, " ++
    s!"lifecycle={loop.activeLifecycleCount}, reusable={loop.activeReusableCount}, " ++
    s!"parallel={loop.activeParallelCount})."

/-- The results of the iterations in index order. -/
def orderedResults (loop : ForEachProjection) : List Value :=
  (List.range loop.total).filterMap fun index =>
    match loop.iterations.get? index with
    | some (.succeeded (some result)) => some result
    | _ => none

/-- The public output of a loop that succeeded. -/
def output (loop : ForEachProjection) : Value :=
  .object ([("total", .number (.posInt loop.total)),
      ("succeeded", .number (.posInt loop.succeededCount))] ++
    if loop.orderedResults.isEmpty then [] else [("results", .array loop.orderedResults)])

end ForEachProjection

inductive ForEachSettlement
  | succeeded
  | failed
  | cancelled
  deriving DecidableEq

def ForEachSettlement.status : ForEachSettlement → ForEachStatus
  | .succeeded => .succeeded
  | .failed => .failed
  | .cancelled => .cancelled

/-- `for_each_succeeded`, `for_each_failed` and `for_each_cancelled`. -/
def applyForEachSettled [Host] (p : RunProjection) (settlement : ForEachSettlement)
    (data : ForEachSettledData) : Except FoldError RunProjection := do
  requireRunningOrCancelling p
  let loop ← orFail (p.forEach.get? data.forEachId)
    (.invalidHistory "For-each settled before opening.")
  failIf (loop.status ≠ .open ∨ data.total ≠ loop.total ∨
      data.succeeded ≠ loop.succeededCount ∨ data.failed ≠ loop.failedCount ∨
      data.skipped ≠ loop.skippedCount ∨
      loop.succeededCount + loop.failedCount + loop.skippedCount ≠ loop.total ∨
      (settlement = .succeeded ∧ (loop.failedCount ≠ 0 ∨ loop.skippedCount ≠ 0)) ∨
      loop.ownsActiveWork)
    (.invalidHistory (loop.settlementMessage data))
  let forEach := p.forEach.insert data.forEachId { loop with status := settlement.status }
  if settlement = .succeeded then do
    let digest ← projectionDigest loop.output
    failIf (digest ≠ data.aggregateDigest)
      (.invalidHistory (s!"For-each {Text.quote data.forEachId} aggregate digest does not match " ++
        "its public output."))
    .ok { p with
      forEach
      context := { p.context with steps := p.context.steps.insert data.forEachId loop.output } }
  else .ok { p with forEach }

/-! ## Parallel groups -/

def applyParallelGroupStarted (p : RunProjection) (data : ParallelGroupStartedData) :
    Except FoldError RunProjection := do
  requireRunning p
  failIf (p.parallelGroups.contains data.parallelId)
    (.invalidHistory s!"Parallel group {Text.quote data.parallelId} was started more than once.")
  .ok { p with
    parallelGroups := p.parallelGroups.insert data.parallelId
      ⟨data.parallelId, p.context, .started⟩ }

def applyParallelGroupCompleted (p : RunProjection) (data : ParallelGroupCompletedData) :
    Except FoldError RunProjection := do
  requireRunningOrCancelling p
  let group ← orFail (p.parallelGroups.get? data.parallelId)
    (.invalidHistory s!"Parallel group {Text.quote data.parallelId} completed before it started.")
  failIf (group.status ≠ .started)
    (.invalidHistory s!"Parallel group {Text.quote data.parallelId} was completed more than once.")
  .ok { p with
    parallelGroups := p.parallelGroups.insert data.parallelId
      { group with
        status := .completed data.outcome data.failedNodeIds data.cancelledNodeIds } }

end Woml
