import Woml.Lib.SortedMap
import Woml.Event.Identities

/-!
# The run projection

`RunProjection` is what the engine knows of a run: the fold of its events. The types follow the
source's projection records; a field without a default starts as the source's `Default` sets it
in `RunProjection.initial`.
-/

namespace Woml

inductive FoldError
  | invalidEvent (error : EventValidationError)
  | invalidHistory (message : String)
  deriving DecidableEq

inductive RunStatus
  | notStarted | queued | running | waiting | cancelling | finalizing | succeeded | failed
  | cancelled
  deriving DecidableEq

/-- Succeeded, failed or cancelled. -/
def RunStatus.isTerminal : RunStatus → Bool
  | succeeded | failed | cancelled => true
  | _ => false

/-! ## Attempts and operations -/

structure AttemptIdentity where
  nodeId : String
  attempt : Nat
  invocationId : String
  deriving DecidableEq

inductive AttemptStatus
  | started
  | succeeded (output : Value)
  | failed (failure : AttemptFailure)

namespace AttemptStatus

def isStarted : AttemptStatus → Bool
  | started => true
  | _ => false

def isFailed : AttemptStatus → Bool
  | failed _ => true
  | _ => false

@[simp] theorem isStarted_started : started.isStarted = true := rfl
@[simp] theorem isStarted_succeeded (v : Value) : (succeeded v).isStarted = false := rfl
@[simp] theorem isStarted_failed (f : AttemptFailure) : (failed f).isStarted = false := rfl

end AttemptStatus

structure AttemptProjection where
  identity : AttemptIdentity
  handler : String
  idempotencyKey : Option String
  status : AttemptStatus

structure RetryScheduleProjection where
  nodeId : String
  failedAttempt : Nat
  nextAttempt : Nat
  scheduledAt : DateTime

structure OperationIdentity where
  invocationId : String
  callId : String
  deriving DecidableEq

/-- Operations are ordered by invocation, then by call. -/
instance : LinearOrder OperationIdentity :=
  LinearOrder.lift' (fun o => toLex (o.invocationId, o.callId)) fun a b h => by
    cases a; cases b; simp_all

inductive OperationStatus
  | started
  | succeeded (durationMs : F64) (resultBytes : Nat) (resultDigest : String)
  | failed (durationMs : F64) (failure : CapabilityFailure)

def OperationStatus.isStarted : OperationStatus → Bool
  | started => true
  | _ => false

structure OperationProjection where
  identity : OperationIdentity
  nodeId : String
  attemptNumber : Nat
  operationKey : String
  capability : String
  operation : String
  executionMode : OperationExecutionMode
  metadata : JsonMap
  status : OperationStatus

/-- A managed operation that has not settled. -/
def OperationProjection.isActiveManaged (operation : OperationProjection) : Bool :=
  operation.executionMode = .managed && operation.status.isStarted

/-! ## Lifecycle -/

inductive LifecycleStatus
  | idle | running | finalizing | completedWithWarnings | completed
  deriving DecidableEq

inductive LifecycleActionStatus
  | started | succeeded | failed
  deriving DecidableEq

structure LifecycleActionProjection where
  actionId : String
  attempt : Nat
  status : LifecycleActionStatus
  failure : Option LifecycleFailure

inductive LifecycleHookStatus
  | requested | running | completed | completedWithWarnings
  deriving DecidableEq

structure LifecycleHookProjection where
  hookInvocationId : String
  hookId : String
  event : LifecycleEventName
  subject : LifecycleSubject
  status : LifecycleHookStatus
  actions : SortedMap String LifecycleActionProjection
  failedActions : Nat

inductive ReusableLifecycleStatus
  | requested | running | completed | completedWithWarnings
  deriving DecidableEq

structure ReusableLifecycleProjection where
  invocationId : String
  definitionDigest : String
  hook : ReusableLifecycleHook
  status : ReusableLifecycleStatus
  activeActionId : Option String
  completedActionIds : List String
  warningCodes : List String

/-! ## Waits and locks -/

inductive DurableWaitStatus
  | registered
  | satisfied (winner : DurableWaitWinner)
  | timedOut (behavior : DurableWaitTimeoutBehavior)
  | cancelled
  deriving DecidableEq

structure DurableWaitProjection where
  waitId : String
  nodeId : String
  kind : DurableWaitKind
  registeredAt : DateTime
  deadline : Option DateTime
  signals : List String
  correlationDigest : Option String
  status : DurableWaitStatus
  resolvedAt : Option DateTime

inductive LockStatus
  | waiting | held | released | acquireTimedOut | acquisitionCancelled | leaseLost
  deriving DecidableEq

structure LockProjection where
  lockId : String
  key : String
  waiterSequence : Nat
  executionIdentity : String
  registeredAt : DateTime
  deadline : DateTime
  status : LockStatus
  leaseId : Option String
  fencingToken : Option String
  acquiredAt : Option DateTime
  expiresAt : Option DateTime
  resolvedAt : Option DateTime

/-! ## Control flow -/

/-- The values a node may read: the trigger payload and the published step outputs. -/
structure WorkflowContext where
  trigger : JsonMap := []
  steps : JsonMap := []

inductive ParallelGroupStatus
  | started
  | completed (outcome : ParallelGroupOutcome) (failedNodeIds cancelledNodeIds : List String)
  deriving DecidableEq

/-- Completed with every child successful. -/
def ParallelGroupStatus.isSuccess : ParallelGroupStatus → Bool
  | completed .succeeded _ _ => true
  | _ => false

structure ParallelGroupProjection where
  parallelId : String
  forkContext : WorkflowContext
  status : ParallelGroupStatus

inductive ForkJoinStatus
  | pending | succeeded | failed | cancelled
  deriving DecidableEq

structure ForkBranchProjection where
  branchId : String
  terminalNodeId : Option String
  outcome : Option ForkBranchOutcome

structure ForkProjection where
  forkId : String
  branches : SortedMap String ForkBranchProjection
  joinStatus : ForkJoinStatus
  blockingBranchId : Option String

inductive ForEachStatus
  | open | succeeded | failed | cancelled
  deriving DecidableEq

inductive ForEachIterationStatus
  | started
  | succeeded (result : Option Value)
  | failed (failedNodeId : String)
  | skipped

def ForEachIterationStatus.isStarted : ForEachIterationStatus → Bool
  | started => true
  | _ => false

structure ForEachIterationExecutionProjection where
  context : WorkflowContext := {}
  attempts : List AttemptProjection := []
  operations : SortedMap OperationIdentity OperationProjection := .empty
  pendingRetries : SortedMap String RetryScheduleProjection := .empty
  branchSelections : SortedMap String String := .empty
  choiceSelections : SortedMap String String := .empty
  parallelGroups : SortedMap String ParallelGroupProjection := .empty
  lifecycleHooks : SortedMap String LifecycleHookProjection := .empty
  reusableLifecycleHooks : SortedMap String ReusableLifecycleProjection := .empty
  locks : SortedMap String LockProjection := .empty

structure ForEachProjection where
  forEachId : String
  total : Nat
  itemsDigest : String
  concurrency : Nat
  status : ForEachStatus
  iterations : SortedMap Nat ForEachIterationStatus
  executions : SortedMap Nat ForEachIterationExecutionProjection

/-! ## Approvals and notifications -/

inductive ApprovalRequestStatus
  | waiting
  | resolved (resolution : ApprovalResolution) (resolvedAt : DateTime)
  deriving DecidableEq

structure ApprovalRequestProjection where
  approvalId : String
  requestId : String
  requestedAt : DateTime
  expiresAt : Option DateTime
  onTimeout : ApprovalTimeoutPolicy
  status : ApprovalRequestStatus

inductive RichApprovalRequestStatus
  | waiting | approved | rejected | expired | cancelled | invalidated
  deriving DecidableEq

structure RichApprovalReviewerDecisionProjection where
  principalId : String
  decision : ApprovalDecision
  decidedAt : DateTime

structure RichApprovalRequestProjection where
  approvalId : String
  requestId : String
  reviewDigest : String
  directoryVersion : String
  required : Nat
  requiredRoles : List String
  representedRoles : List String
  requestedAt : DateTime
  resolvedAt : Option DateTime
  status : RichApprovalRequestStatus
  decisions : SortedMap String RichApprovalReviewerDecisionProjection

inductive NotificationDeliveryStatus
  | requested
  | attemptStarted (attempt : Nat) (attemptId idempotencyKey : String)
  | succeeded (attempt : Nat) (attemptId : String) (providerMessage : ProviderMessageIdentity)
  | failed (attempt : Nat) (attemptId : String) (final : Bool) (failure : NotificationSafeFailure)
      (failedAt : DateTime)

structure NotificationDeliveryProjection where
  approvalId : String
  requestId : String
  deliveryId : String
  provider : String
  destination : String
  status : NotificationDeliveryStatus

inductive NotificationMessageUpdateStatus
  | requested
  | attemptStarted (attempt : Nat) (attemptId : String)
  | updated (attempt : Nat) (attemptId : String)
  | failed (attempt : Nat) (attemptId : String) (final : Bool) (failure : NotificationSafeFailure)
      (failedAt : DateTime)

structure NotificationMessageUpdateProjection where
  approvalId : String
  requestId : String
  deliveryId : String
  updateId : String
  resolution : NotificationResolution
  status : NotificationMessageUpdateStatus

/-! ## Sagas -/

inductive SagaPhase
  | forward | forwardSucceeded | correcting | correctionCompleted | manualRecovery
  deriving DecidableEq

inductive CorrectionActionStatus
  | registered | started | retryScheduled | succeeded | failed | interrupted | manualRecovery
  deriving DecidableEq

structure CorrectionActionProjection where
  actionId : String
  actionKind : CorrectiveActionKind
  forStepId : Option String
  completionSequence : Option Nat
  status : CorrectionActionStatus
  attempts : Nat
  activeAttempt : Option Nat
  retryAt : Option DateTime
  failureCode : Option String
  ambiguous : Bool

structure SagaProjection where
  sagaId : String
  phase : SagaPhase
  reason : Option SagaCorrectionReason
  startedSequence : Nat
  forwardSucceededSequence : Option Nat
  correctionCompletedSequence : Option Nat
  actions : SortedMap String CorrectionActionProjection

/-! ## The projection of a run -/

inductive RunFailure
  | attempt (failure : AttemptFailure)
  | branch (failure : BranchFailure)
  | parallel (parallelId : String) (policy : ParallelFailurePolicy) (primaryNodeId : String)
      (failedNodeIds cancelledNodeIds : List String) (failure : ParallelFailure)
  | approval (approvalId requestId : String) (failure : ApprovalFailure)
  | notification (approvalId requestId : String) (failedDeliveryIds : List String)
      (failure : NotificationRunFailure)

structure RunProjection where
  eventSchemaVersion : Option Nat := none
  runId : Option String := none
  workflowId : Option String := none
  definitionHash : Option String := none
  policyHash : Option String := none
  queue : Option String := none
  occurrenceSequence : Option Nat := none
  admittedAt : Option DateTime := none
  startedAt : Option DateTime := none
  timeoutAt : Option DateTime := none
  timeoutReachedAt : Option DateTime := none
  triggerId : Option String := none
  triggerHandler : Option String := none
  triggerOccurrenceId : Option String := none
  ingress : Option RunIngress := none
  status : RunStatus := .notStarted
  businessOutcome : Option BusinessOutcome := none
  lifecycleStatus : LifecycleStatus := .idle
  cancellationRequestId : Option String := none
  lifecycleHooks : SortedMap String LifecycleHookProjection := .empty
  reusableLifecycleHooks : SortedMap String ReusableLifecycleProjection := .empty
  lifecycleWarnings : List LifecycleWarning := []
  context : WorkflowContext := {}
  attempts : List AttemptProjection := []
  infrastructurePolicyDecisions : List InfrastructurePolicyDecisionRecordedData := []
  operations : SortedMap OperationIdentity OperationProjection := .empty
  pendingRetries : SortedMap String RetryScheduleProjection := .empty
  branchSelections : SortedMap String String := .empty
  choiceSelections : SortedMap String String := .empty
  parallelGroups : SortedMap String ParallelGroupProjection := .empty
  forks : SortedMap String ForkProjection := .empty
  forEach : SortedMap String ForEachProjection := .empty
  approvalRequests : SortedMap String ApprovalRequestProjection := .empty
  richApprovalRequests : SortedMap String RichApprovalRequestProjection := .empty
  durableWaits : SortedMap String DurableWaitProjection := .empty
  locks : SortedMap String LockProjection := .empty
  sagas : SortedMap String SagaProjection := .empty
  externalSignals : List ExternalSignalReceivedData := []
  notificationDeliveries : SortedMap String NotificationDeliveryProjection := .empty
  notificationUpdates : SortedMap String NotificationMessageUpdateProjection := .empty
  notificationDecisions : List NotificationDecisionAcceptedData := []
  terminalNodeId : Option String := none
  result : Option Value := none
  failure : Option RunFailure := none
  lifecycleFailure : Option LifecycleFailure := none
  lastSequence : Nat := 0

namespace RunProjection

def initial : RunProjection := {}

/-- The last attempt of a node. -/
def latestAttempt (p : RunProjection) (nodeId : String) : Option AttemptProjection :=
  p.attempts.reverse.find? (·.identity.nodeId = nodeId)

def completedNodeIds (p : RunProjection) : List String := p.context.steps.keys

def activeAttemptNodeIds (p : RunProjection) : List String :=
  (p.attempts.filter (·.status.isStarted)).map (·.identity.nodeId)

def activeManagedOperations (p : RunProjection) (invocationId : String) :
    List OperationProjection :=
  p.operations.values.filter fun operation =>
    operation.identity.invocationId = invocationId && operation.isActiveManaged

end RunProjection

end Woml
