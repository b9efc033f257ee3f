import Woml.Projection.FoldSuspension
import Woml.Projection.FoldControlFlow
import Woml.Projection.FoldLifecycle

/-!
# Fold handlers: work inside a for-each iteration

An event with an iteration scope acts on the execution of that iteration alone; the handlers are
close to those of the run but check less.
-/

namespace Woml

open Checked

namespace ForEachIterationExecutionProjection

variable (x : ForEachIterationExecutionProjection)

def latestAttempt (nodeId : String) : Option AttemptProjection :=
  x.attempts.reverse.find? (·.identity.nodeId = nodeId)

def hasActiveOperation (invocationId : String) : Bool :=
  x.operations.values.any fun operation =>
    operation.identity.invocationId = invocationId && operation.status.isStarted

/-! ## Attempts -/

def stepAttemptStarted (event : RunEvent) (data : StepAttemptStartedData) :
    Except FoldError ForEachIterationExecutionProjection := do
  failIf (x.attempts.any (·.identity.invocationId = data.invocationId) ∨
      (x.latestAttempt data.nodeId).any (·.status.isStarted))
    (.invalidHistory
      s!"Iteration attempt {Text.quote data.invocationId} is not unique and inactive.")
  let expected := (x.latestAttempt data.nodeId).elim 1 (·.identity.attempt + 1)
  failIf (data.attempt ≠ expected)
    (.invalidHistory s!"Iteration node {Text.quote data.nodeId} expected attempt {expected}.")
  let pendingRetries ←
    match x.latestAttempt data.nodeId with
    | none => .ok x.pendingRetries
    | some previous => do
      let retry ← orFail (x.pendingRetries.get? data.nodeId)
        (.invalidHistory "Iteration retry has no durable schedule.")
      failIf (!previous.status.isFailed ∨ retry.nextAttempt ≠ data.attempt ∨
          event.occurredAt < retry.scheduledAt)
        (.invalidHistory "Iteration retry does not match its failed attempt and schedule.")
      .ok (x.pendingRetries.erase data.nodeId)
  .ok { x with pendingRetries, attempts := x.attempts ++ [startedAttempt data] }

/-- The position of the attempt that a settlement event names. -/
def attemptIndex (key : AttemptIdentity) : Option Nat := x.attempts.findIdx? (·.identity = key)

def stepAttemptSucceeded (data : StepAttemptSucceededData) :
    Except FoldError ForEachIterationExecutionProjection := do
  failIf (x.hasActiveOperation data.invocationId)
    (.invalidHistory "Iteration attempt cannot succeed with an active operation.")
  let index ← orFail (x.attemptIndex ⟨data.nodeId, data.attempt, data.invocationId⟩)
    (.invalidHistory "Iteration success has no matching attempt.")
  failIf (!(x.attempts[index]?.any (·.status.isStarted)) ∨ x.context.steps.containsKey data.nodeId)
    (.invalidHistory "Iteration attempt already has a terminal outcome.")
  .ok { x with
    attempts := setAttemptStatus x.attempts index (.succeeded data.output)
    context := { x.context with steps := x.context.steps.insert data.nodeId data.output } }

def stepAttemptFailed (data : StepAttemptFailedData) :
    Except FoldError ForEachIterationExecutionProjection := do
  failIf (x.hasActiveOperation data.invocationId)
    (.invalidHistory "Iteration attempt cannot fail with an active operation.")
  let index ← orFail (x.attemptIndex ⟨data.nodeId, data.attempt, data.invocationId⟩)
    (.invalidHistory "Iteration failure has no matching attempt.")
  failIf (!(x.attempts[index]?.any (·.status.isStarted)))
    (.invalidHistory "Iteration attempt already has a terminal outcome.")
  .ok { x with attempts := setAttemptStatus x.attempts index (.failed data.failure) }

def isFailureIn (scope : ForEachIterationScope) (data : StepRetryScheduledData)
    (previous : RunEvent) : Bool :=
  previous.iteration = some scope &&
    match previous.payload with
    | .stepAttemptFailed failed =>
      failed.nodeId = data.nodeId && failed.attempt = data.failedAttempt
    | _ => false

def stepRetryScheduled (scope : ForEachIterationScope) (data : StepRetryScheduledData)
    (previousEvent : Option RunEvent) :
    Except FoldError ForEachIterationExecutionProjection := do
  let latestFailed := (x.latestAttempt data.nodeId).any fun attempt =>
    attempt.identity.attempt = data.failedAttempt && attempt.status.isFailed
  failIf (!(previousEvent.any (isFailureIn scope data)) ∨ !latestFailed ∨
      data.nextAttempt ≠ data.failedAttempt + 1 ∨ x.pendingRetries.contains data.nodeId)
    (.invalidHistory "Iteration retry schedule does not follow its failed attempt.")
  .ok { x with pendingRetries := x.pendingRetries.insert data.nodeId (retrySchedule data) }

/-! ## Control flow -/

def choiceSelected (data : ChoiceSelectedData) :
    Except FoldError ForEachIterationExecutionProjection := do
  failIf (x.choiceSelections.contains data.choiceId)
    (.invalidHistory "Iteration choice was selected more than once.")
  .ok { x with choiceSelections := x.choiceSelections.insert data.choiceId data.armId }

def branchSelected (data : BranchSelectedData) :
    Except FoldError ForEachIterationExecutionProjection := do
  failIf (x.branchSelections.contains data.branchId)
    (.invalidHistory "Iteration conditional branch was selected more than once.")
  .ok { x with branchSelections := x.branchSelections.insert data.branchId data.armId }

def parallelGroupStarted (data : ParallelGroupStartedData) :
    Except FoldError ForEachIterationExecutionProjection := do
  failIf (x.parallelGroups.contains data.parallelId)
    (.invalidHistory "Iteration parallel group started more than once.")
  .ok { x with
    parallelGroups := x.parallelGroups.insert data.parallelId
      ⟨data.parallelId, x.context, .started⟩ }

def parallelGroupCompleted (data : ParallelGroupCompletedData) :
    Except FoldError ForEachIterationExecutionProjection := do
  let group ← orFail (x.parallelGroups.get? data.parallelId)
    (.invalidHistory "Iteration parallel completion has no start.")
  failIf (group.status ≠ .started)
    (.invalidHistory "Iteration parallel group completed more than once.")
  .ok { x with
    parallelGroups := x.parallelGroups.insert data.parallelId
      { group with
        status := .completed data.outcome data.failedNodeIds data.cancelledNodeIds } }

/-! ## Locks -/

def lockWaitRegistered (data : LockWaitRegisteredData) :
    Except FoldError ForEachIterationExecutionProjection := do
  failIf (x.locks.contains data.lockId)
    (.invalidHistory "Iteration lock was registered more than once.")
  .ok { x with locks := x.locks.insert data.lockId (registeredLock data) }

def lockAcquired (data : LockAcquiredData) :
    Except FoldError ForEachIterationExecutionProjection := do
  let lock ← orFail (x.locks.get? data.lockId)
    (.invalidHistory "Iteration lock acquisition has no waiter.")
  failIf (lock.status ≠ .waiting ∨ lock.key ≠ data.key ∨
      lock.executionIdentity ≠ data.executionIdentity)
    (.invalidHistory "Iteration lock acquisition does not match its waiter.")
  .ok { x with locks := x.locks.insert data.lockId (lock.acquire data) }

def lockReleased (data : LockReleasedData) :
    Except FoldError ForEachIterationExecutionProjection := do
  let lock ← orFail (x.locks.get? data.lockId)
    (.invalidHistory "Iteration lock release has no held lease.")
  failIf (!lock.isHeldAs data.key data.leaseId data.fencingToken)
    (.invalidHistory "Iteration lock release does not match its lease.")
  .ok { x with
    locks := x.locks.insert data.lockId
      { lock with status := .released, resolvedAt := some data.releasedAt }
    context := { x.context with steps := x.context.steps.insert data.lockId data.result } }

def lockAcquireTimedOut (data : LockAcquireTimedOutData) :
    Except FoldError ForEachIterationExecutionProjection := do
  let lock ← orFail (x.locks.get? data.lockId)
    (.invalidHistory "Iteration lock timeout has no waiter.")
  failIf (lock.status ≠ .waiting ∨ lock.key ≠ data.key ∨ lock.deadline ≠ data.deadline)
    (.invalidHistory "Iteration lock timeout does not match its waiter.")
  .ok { x with
    locks := x.locks.insert data.lockId
      { lock with status := .acquireTimedOut, resolvedAt := some data.resolvedAt } }

def lockAcquisitionCancelled (data : LockAcquisitionCancelledData) :
    Except FoldError ForEachIterationExecutionProjection := do
  let lock ← orFail (x.locks.get? data.lockId)
    (.invalidHistory "Iteration lock cancellation has no waiter.")
  failIf (lock.status ≠ .waiting ∨ lock.key ≠ data.key)
    (.invalidHistory "Iteration lock cancellation does not match its waiter.")
  .ok { x with
    locks := x.locks.insert data.lockId
      { lock with status := .acquisitionCancelled, resolvedAt := some data.cancelledAt } }

def lockLeaseLost (data : LockLeaseLostData) :
    Except FoldError ForEachIterationExecutionProjection := do
  let lock ← orFail (x.locks.get? data.lockId)
    (.invalidHistory "Iteration lease loss has no held lock.")
  failIf (!lock.isHeldAs data.key data.leaseId data.fencingToken)
    (.invalidHistory "Iteration lease loss does not match its held lock.")
  .ok { x with
    locks := x.locks.insert data.lockId
      { lock with status := .leaseLost, resolvedAt := some data.detectedAt } }

/-! ## Operations -/

def operationStarted (data : OperationStartedData) :
    Except FoldError ForEachIterationExecutionProjection := do
  let active := x.attempts.any fun attempt =>
    attempt.identity = ⟨data.nodeId, data.attemptNumber, data.invocationId⟩ &&
      attempt.status.isStarted
  failIf (!active ∨ x.operations.contains ⟨data.invocationId, data.callId⟩)
    (.invalidHistory "Iteration operation requires one matching active attempt.")
  .ok { x with
    operations := x.operations.insert ⟨data.invocationId, data.callId⟩ (startedOperation data) }

/-- `outcome` is the word of the message for an operation that never started. -/
def operationSettled (data : OperationStartedData) (status : OperationStatus) (outcome : String) :
    Except FoldError ForEachIterationExecutionProjection := do
  let operation ← orFail (x.operations.get? ⟨data.invocationId, data.callId⟩)
    (.invalidHistory s!"Iteration operation {outcome} has no start.")
  failIf (!operation.status.isStarted) (.invalidHistory "Iteration operation already settled.")
  .ok { x with
    operations := x.operations.insert ⟨data.invocationId, data.callId⟩
      { operation with status } }

/-! ## Lifecycle hooks -/

def lifecycleHookRequested (data : LifecycleHookRequestedData) :
    Except FoldError ForEachIterationExecutionProjection := do
  failIf (x.lifecycleHooks.contains data.hookInvocationId)
    (.invalidHistory "Iteration lifecycle hook was requested more than once.")
  let hook : LifecycleHookProjection :=
    { hookInvocationId := data.hookInvocationId
      hookId := data.hookId
      event := data.event
      subject := data.subject
      status := .requested
      actions := .empty
      failedActions := 0 }
  .ok { x with lifecycleHooks := x.lifecycleHooks.insert data.hookInvocationId hook }

def lifecycleActionAttemptStarted (data : LifecycleActionIdentityData) :
    Except FoldError ForEachIterationExecutionProjection := do
  let lifecycleHooks ← updateHook x.lifecycleHooks data.hookInvocationId
    "Iteration lifecycle action started before its hook." fun hook => do
      failIf (hook.actions.contains data.actionId ∨ hook.hasActiveAction)
        (.invalidHistory "Iteration lifecycle action identity is duplicated.")
      .ok { hook with
        actions := hook.actions.insert data.actionId
          ⟨data.actionId, data.attempt, .started, none⟩
        status := .running }
  .ok { x with lifecycleHooks }

/-- The action in flight of an iteration's hook that a settlement names. -/
def settlingAction (hook : LifecycleHookProjection) (actionId : String) (attempt : Nat)
    (noun : String) : Except FoldError LifecycleActionProjection := do
  let action ← orFail (hook.actions.get? actionId)
    (.invalidHistory "Iteration lifecycle action has no start.")
  failIf (action.status ≠ .started ∨ action.attempt ≠ attempt)
    (.invalidHistory s!"Iteration lifecycle {noun} does not close its action.")
  .ok action

def lifecycleActionSucceeded (data : LifecycleActionIdentityData) :
    Except FoldError ForEachIterationExecutionProjection := do
  let lifecycleHooks ← updateHook x.lifecycleHooks data.hookInvocationId
    "Unknown iteration lifecycle hook." fun hook => do
      let action ← settlingAction hook data.actionId data.attempt "success"
      .ok { hook with
        actions := hook.actions.insert data.actionId { action with status := .succeeded } }
  .ok { x with lifecycleHooks }

def lifecycleActionFailed (data : LifecycleActionFailedData) :
    Except FoldError ForEachIterationExecutionProjection := do
  let lifecycleHooks ← updateHook x.lifecycleHooks data.hookInvocationId
    "Unknown iteration lifecycle hook." fun hook => do
      let action ← settlingAction hook data.actionId data.attempt "failure"
      .ok { hook with
        actions := hook.actions.insert data.actionId
          { action with status := .failed, failure := some data.failure }
        failedActions := hook.failedActions + 1 }
  .ok { x with lifecycleHooks }

def lifecycleHookCompleted (data : LifecycleHookCompletedData) :
    Except FoldError ForEachIterationExecutionProjection := do
  let lifecycleHooks ← updateHook x.lifecycleHooks data.hookInvocationId
    "Unknown iteration lifecycle hook." fun hook => do
      failIf (hook.hasActiveAction ∨ hook.failedActions ≠ data.failedActions)
        (.invalidHistory "Iteration lifecycle completion does not match its actions.")
      .ok { hook with status := data.status.hookStatus }
  .ok { x with lifecycleHooks }

def reusableHook (key : String) : Except FoldError ReusableLifecycleProjection :=
  orFail (x.reusableLifecycleHooks.get? key) (.invalidHistory "Unknown iteration reusable hook.")

def reusableLifecycleRequested (data : ReusableLifecycleRequestedData) :
    Except FoldError ForEachIterationExecutionProjection := do
  failIf (x.reusableLifecycleHooks.contains data.key)
    (.invalidHistory "Iteration reusable lifecycle hook was requested more than once.")
  let hook : ReusableLifecycleProjection :=
    { invocationId := data.invocationId
      definitionDigest := data.definitionDigest
      hook := data.hook
      status := .requested
      activeActionId := none
      completedActionIds := []
      warningCodes := [] }
  .ok { x with reusableLifecycleHooks := x.reusableLifecycleHooks.insert data.key hook }

def reusableLifecycleActionStarted (data : ReusableLifecycleActionStartedData) :
    Except FoldError ForEachIterationExecutionProjection := do
  let hook ← x.reusableHook data.key
  failIf (hook.activeActionId.isSome ∨ hook.completedActionIds.contains data.actionId)
    (.invalidHistory "Iteration reusable lifecycle action is duplicated.")
  .ok { x with
    reusableLifecycleHooks := x.reusableLifecycleHooks.insert data.key
      { hook with activeActionId := some data.actionId, status := .running } }

def reusableLifecycleActionSucceeded (data : ReusableLifecycleActionSucceededData) :
    Except FoldError ForEachIterationExecutionProjection := do
  let hook ← x.reusableHook data.key
  failIf (hook.activeActionId ≠ some data.actionId)
    (.invalidHistory "Iteration reusable lifecycle success has no active action.")
  .ok { x with
    reusableLifecycleHooks := x.reusableLifecycleHooks.insert data.key
      { hook with
        activeActionId := none
        completedActionIds := hook.completedActionIds ++ [data.actionId] } }

def reusableLifecycleActionFailed (data : ReusableLifecycleActionFailedData) :
    Except FoldError ForEachIterationExecutionProjection := do
  let hook ← x.reusableHook data.key
  failIf (hook.activeActionId ≠ some data.actionId)
    (.invalidHistory "Iteration reusable lifecycle failure has no active action.")
  .ok { x with
    reusableLifecycleHooks := x.reusableLifecycleHooks.insert data.key
      { hook with
        activeActionId := none
        completedActionIds := hook.completedActionIds ++ [data.actionId]
        warningCodes := hook.warningCodes ++ [data.warningCode] } }

def reusableLifecycleCompleted (data : ReusableLifecycleCompletedData) :
    Except FoldError ForEachIterationExecutionProjection := do
  let hook ← x.reusableHook data.key
  failIf hook.activeActionId.isSome
    (.invalidHistory "Iteration reusable lifecycle completed with an active action.")
  .ok { x with
    reusableLifecycleHooks := x.reusableLifecycleHooks.insert data.key
      { hook with
        status := if data.outcome = .completedWithWarnings then .completedWithWarnings
          else .completed } }

/-- What an event of the iteration does to its execution. -/
def apply (scope : ForEachIterationScope) (event : RunEvent) (previousEvent : Option RunEvent) :
    Except FoldError ForEachIterationExecutionProjection :=
  match event.payload with
  | .stepAttemptStarted data => x.stepAttemptStarted event data
  | .stepAttemptSucceeded data => x.stepAttemptSucceeded data
  | .stepAttemptFailed data => x.stepAttemptFailed data
  | .stepRetryScheduled data => x.stepRetryScheduled scope data previousEvent
  | .choiceSelected data => x.choiceSelected data
  | .branchSelected data => x.branchSelected data
  | .parallelGroupStarted data => x.parallelGroupStarted data
  | .parallelGroupCompleted data => x.parallelGroupCompleted data
  | .lockWaitRegistered data => x.lockWaitRegistered data
  | .lockAcquired data => x.lockAcquired data
  | .lockReleased data => x.lockReleased data
  | .lockAcquireTimedOut data => x.lockAcquireTimedOut data
  | .lockAcquisitionCancelled data => x.lockAcquisitionCancelled data
  | .lockLeaseLost data => x.lockLeaseLost data
  | .infrastructurePolicyDecisionRecorded _ =>
    .error (.invalidHistory "Infrastructure policy decisions cannot be iteration-scoped.")
  | .operationStarted data => x.operationStarted data
  | .operationSucceeded data =>
    x.operationSettled data.toOperationStartedData
      (.succeeded data.durationMs data.resultBytes data.resultDigest) "success"
  | .operationFailed data =>
    x.operationSettled data.toOperationStartedData (.failed data.durationMs data.failure) "failure"
  | .lifecycleHookRequested data => x.lifecycleHookRequested data
  | .lifecycleActionAttemptStarted data => x.lifecycleActionAttemptStarted data
  | .lifecycleActionSucceeded data => x.lifecycleActionSucceeded data
  | .lifecycleActionFailed data => x.lifecycleActionFailed data
  | .lifecycleHookCompleted data => x.lifecycleHookCompleted data
  | .reusableLifecycleRequested data => x.reusableLifecycleRequested data
  | .reusableLifecycleActionStarted data => x.reusableLifecycleActionStarted data
  | .reusableLifecycleActionSucceeded data => x.reusableLifecycleActionSucceeded data
  | .reusableLifecycleActionFailed data => x.reusableLifecycleActionFailed data
  | .reusableLifecycleCompleted data => x.reusableLifecycleCompleted data
  | _ => .error (.invalidHistory "Payload is not valid iteration-scoped work.")

end ForEachIterationExecutionProjection

def applyIterationScopedEvent (p : RunProjection) (event : RunEvent)
    (previousEvent : Option RunEvent) : Except FoldError RunProjection := do
  requireRunningOrCancelling p
  let scope ← orFail event.iteration
    (.invalidHistory "Loop-owned work is missing iteration scope.")
  let loop ← orFail (p.forEach.get? scope.forEachId)
    (.invalidHistory
      s!"Loop-owned work references unopened for-each {Text.quote scope.forEachId}.")
  failIf (loop.status ≠ .open ∨ !((loop.iterations.get? scope.index).any (·.isStarted)))
    (.invalidHistory (s!"Loop-owned work requires active iteration " ++
      s!"{Text.quote scope.forEachId}:{scope.index}."))
  let execution ← orFail (loop.executions.get? scope.index)
    (.invalidHistory "Active iteration has no execution projection.")
  let execution' ← execution.apply scope event previousEvent
  .ok { p with
    forEach := p.forEach.insert scope.forEachId
      { loop with executions := loop.executions.insert scope.index execution' } }

end Woml
