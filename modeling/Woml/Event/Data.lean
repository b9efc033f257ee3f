import Woml.Event.Json

/-!
# Event payloads

The data a run event carries, one structure for each payload record of the source, with the
enumerations they use. Bounded integers are `Nat`; where a sum could wrap, the check that forms it
says so.
-/

namespace Woml

/-! ## Admission and run control -/

inductive QueueDiscipline
  | workConservingFifo
  deriving DecidableEq

structure RunAdmissionTrigger where
  id : String
  handler : String

structure RunAdmissionQueue where
  name : String
  discipline : QueueDiscipline

structure RunAdmittedData where
  definitionHash : String
  policyHash : String
  trigger : RunAdmissionTrigger
  payload : JsonMap
  queue : RunAdmissionQueue
  admittedAt : DateTime
  occurrenceSequence : Nat

structure RunExecutionStartedData where
  startedAt : DateTime
  timeoutAt : Option DateTime

structure RunTimeoutReachedData where
  deadlineAt : DateTime
  code : String

structure RunCancellationRequestedData where
  requestId : String

inductive RunIngress
  | workflowCall (callKey : String)

structure RunStartedData where
  workflowId : String
  definitionHash : String
  triggerId : Option String
  triggerHandler : Option String
  triggerOccurrenceId : Option String
  ingress : Option RunIngress
  trigger : JsonMap

/-! ## Failures -/

inductive CapabilityFailureKind
  | invalidInput | invalidResult | unsupportedCapability | unsupportedOperation
  | unsupportedVersion | inputTooLarge | resultTooLarge | frameTooLarge | timedOut | cancelled
  | handlerCrashed | workerCrashed | hostCrashed | transportFailed | serviceRejected | interrupted
  | ambiguous
  deriving DecidableEq

structure CapabilityFailure where
  kind : CapabilityFailureKind
  code : String
  message : String
  retryable : Bool
  ambiguous : Bool
  details : Option JsonMap

inductive AttemptFailureKind
  | scriptThrew | scriptTimedOut | invalidScriptResult | contextTooLarge | resultTooLarge
  | workerCrashed | hostCrashed | invocationCancelled | interrupted | serviceFailed
  deriving DecidableEq

structure FailureSizeDetails where
  actualBytes : Option Nat
  limitBytes : Option Nat

structure AttemptFailure where
  kind : AttemptFailureKind
  code : String
  message : String
  details : Option FailureSizeDetails := none
  capability : Option String := none
  operation : Option String := none
  callId : Option String := none
  retryable : Option Bool := none
  ambiguous : Option Bool := none
  cause : Option CapabilityFailure := none

inductive JsonValueType
  | null | number | string | array | object
  deriving DecidableEq

inductive BranchFailure
  | branchTestNotBoolean (code message : String) (actualType : JsonValueType)
  | referenceNotAvailable (code message : String)
  | branchSelectionInvalid (code message : String)

inductive ParallelFailurePolicy
  | failFast
  | waitAll
  deriving DecidableEq

structure ParallelFailure where
  kind : String
  code : String
  message : String

structure ApprovalFailure where
  kind : String
  code : String
  message : String

structure NotificationRunFailure where
  kind : String
  code : String
  message : String

/-- The five shapes of a `run_failed` payload, the newest first as in the source. -/
inductive RunFailedData
  | v5Notification (approvalId requestId : String) (failedDeliveryIds : List String)
      (failure : NotificationRunFailure)
  | v4Approval (approvalId requestId : String) (failure : ApprovalFailure)
  | v3Parallel (parallelId : String) (policy : ParallelFailurePolicy) (primaryNodeId : String)
      (failedNodeIds cancelledNodeIds : List String) (failure : ParallelFailure)
  | v2Attempt (nodeId : String) (attempt : Nat) (invocationId : String) (failure : AttemptFailure)
  | v2Branch (branchId : String) (armId : Option String) (path : Option (List String))
      (failure : BranchFailure)
  | v1 (nodeId : Option String) (attempt : Option Nat) (invocationId : Option String)
      (failure : AttemptFailure)

/-! ## Steps, branches, parallel groups and forks -/

structure StepAttemptStartedData where
  nodeId : String
  attempt : Nat
  invocationId : String
  handler : String
  idempotencyKey : Option String

structure StepAttemptSucceededData where
  nodeId : String
  attempt : Nat
  invocationId : String
  output : Value

structure StepAttemptFailedData where
  nodeId : String
  attempt : Nat
  invocationId : String
  failure : AttemptFailure

structure StepRetryScheduledData where
  nodeId : String
  failedAttempt : Nat
  nextAttempt : Nat
  scheduledAt : DateTime

structure BranchSelectedData where
  branchId : String
  armId : String

structure ChoiceSelectedData where
  choiceId : String
  armId : String

structure RunSucceededData where
  terminalNodeId : String
  result : Value

structure ParallelGroupStartedData where
  parallelId : String

inductive ParallelGroupOutcome
  | succeeded
  | failed
  deriving DecidableEq

structure ParallelGroupCompletedData where
  parallelId : String
  outcome : ParallelGroupOutcome
  failedNodeIds : List String
  cancelledNodeIds : List String

structure ForkOpenedData where
  forkId : String

inductive ForkBranchOutcome
  | succeeded
  | failed
  | cancelled
  deriving DecidableEq

structure ForkBranchSettledData where
  forkId : String
  branchId : String
  terminalNodeId : String
  outcome : ForkBranchOutcome

inductive ForkJoinOutcome
  | succeeded
  | failed
  | cancelled
  deriving DecidableEq

structure ForkJoinSettledData where
  forkId : String
  outcome : ForkJoinOutcome
  blockingBranchId : Option String

/-! ## For-each loops -/

structure ForEachIterationScope where
  forEachId : String
  index : Nat
  deriving DecidableEq

structure ForEachOpenedData where
  forEachId : String
  total : Nat
  itemsDigest : String
  concurrency : Nat

structure ForEachIterationIdentityData where
  forEachId : String

structure ForEachIterationSucceededData where
  forEachId : String
  result : Option Value
  resultDigest : Option String

inductive ForEachIterationFailureKind
  | scriptThrew | timedOut | nonJson | workerCrashed | hostCrashed | resultTooLarge
  | contextTooLarge | interrupted | capabilityFailed | cancelled
  deriving DecidableEq

structure ForEachIterationFailedData where
  forEachId : String
  failedNodeId : String
  failureKind : ForEachIterationFailureKind

inductive ForEachSkipReason
  | failure
  | cancellation
  deriving DecidableEq

structure ForEachIterationSkippedData where
  forEachId : String
  reason : ForEachSkipReason

structure ForEachSettledData where
  forEachId : String
  total : Nat
  succeeded : Nat
  failed : Nat
  skipped : Nat
  aggregateDigest : String

/-! ## Approvals and notifications -/

inductive ApprovalTimeoutPolicy
  | reject
  | fail
  deriving DecidableEq

structure ApprovalRequestedData where
  approvalId : String
  requestId : String
  expiresAt : Option DateTime
  onTimeout : ApprovalTimeoutPolicy

inductive ApprovalDecision
  | approved
  | rejected
  deriving DecidableEq

inductive ApprovalDecisionSource
  | human
  | timeout
  deriving DecidableEq

inductive ApprovalResolution
  | decision (decision : ApprovalDecision) (source : ApprovalDecisionSource)
  | timeoutFailure
  deriving DecidableEq

inductive RichApprovalResolutionReason
  | quorum | rejection | timeout | cancellation | artifactInvalidated
  deriving DecidableEq

structure ApprovalResolvedData where
  approvalId : String
  requestId : String
  resolution : Option ApprovalResolution
  reviewDigest : Option String := none
  decision : Option ApprovalDecision := none
  reason : Option RichApprovalResolutionReason := none
  required : Option Nat := none
  received : Option Nat := none
  requiredRoles : Option (List String) := none
  representedRoles : Option (List String) := none

def ApprovalResolvedData.basic (approvalId requestId : String) (resolution : ApprovalResolution) :
    ApprovalResolvedData :=
  { approvalId, requestId, resolution := some resolution }

def ApprovalResolvedData.isRich (d : ApprovalResolvedData) : Bool := d.reviewDigest.isSome

structure ApprovalReviewRequestedData where
  approvalId : String
  requestId : String
  reviewDigest : String
  directoryVersion : String
  required : Nat
  requiredRoles : List String

structure ApprovalReviewerDecisionRecordedData where
  approvalId : String
  requestId : String
  reviewDigest : String
  principalId : String
  decision : ApprovalDecision

structure ApprovalQuorumProgressedData where
  approvalId : String
  requestId : String
  reviewDigest : String
  required : Nat
  received : Nat
  requiredRoles : List String
  representedRoles : List String

structure ApprovalInvalidatedData where
  approvalId : String
  requestId : String
  reviewDigest : String
  reason : RichApprovalResolutionReason

structure NotificationDeliveryRequestedData where
  approvalId : String
  requestId : String
  deliveryId : String
  provider : String
  destination : String

structure NotificationDeliveryAttemptStartedData where
  approvalId : String
  requestId : String
  deliveryId : String
  attempt : Nat
  attemptId : String
  idempotencyKey : String

inductive ProviderMessageIdentity
  | slack (workspaceId channelId messageId : String)
  | communication (provider accountId conversationId messageId : String)
      (threadId : Option String)

structure NotificationDeliverySucceededData where
  approvalId : String
  requestId : String
  deliveryId : String
  attempt : Nat
  attemptId : String
  providerMessage : ProviderMessageIdentity

structure NotificationSafeFailure where
  kind : String
  code : String
  message : String
  retryable : Bool
  retryAfterMs : Option Nat

structure NotificationDeliveryFailedData where
  approvalId : String
  requestId : String
  deliveryId : String
  attempt : Nat
  attemptId : String
  final : Bool
  failure : NotificationSafeFailure

structure NotificationDecisionAcceptedData where
  approvalId : String
  requestId : String
  deliveryId : String
  provider : String
  providerActorId : String
  decision : ApprovalDecision

inductive NotificationResolution
  | approved
  | rejected
  | timeoutFailed
  deriving DecidableEq

structure NotificationMessageUpdateRequestedData where
  approvalId : String
  requestId : String
  deliveryId : String
  updateId : String
  resolution : NotificationResolution

/-- Also the payload of `notification_message_updated`. -/
structure NotificationMessageUpdateAttemptStartedData where
  approvalId : String
  requestId : String
  deliveryId : String
  updateId : String
  attempt : Nat
  attemptId : String

structure NotificationMessageUpdateFailedData where
  approvalId : String
  requestId : String
  deliveryId : String
  updateId : String
  attempt : Nat
  attemptId : String
  final : Bool
  failure : NotificationSafeFailure

/-! ## Operations, policy decisions and remote dispatch -/

inductive OperationExecutionMode
  | observed
  | managed
  deriving DecidableEq

/-- The correlation of an operation event with its attempt and its logical operation. -/
structure OperationStartedData where
  nodeId : String
  attemptNumber : Nat
  invocationId : String
  callId : String
  operationKey : String
  capability : String
  operation : String
  executionMode : OperationExecutionMode
  metadata : JsonMap

structure OperationSucceededData extends OperationStartedData where
  durationMs : F64
  resultBytes : Nat
  resultDigest : String

structure OperationFailedData extends OperationStartedData where
  durationMs : F64
  failure : CapabilityFailure

structure InfrastructurePolicyEmergencyDeny where
  policyId : String
  policyVersion : String
  policyDigest : String
  matchedRuleIds : List String

/-- The parts of a policy decision that the durable contract bounds. `requirements` is the number
of requirement results and `encodedBytes` the length of the JSON encoding of the whole record. -/
structure InfrastructurePolicyDecisionRecord where
  decisionId : String
  policyDigest : String
  descriptorDigest : String
  matchedRuleIds : List String
  requirements : Nat
  explanation : String
  emergencyDeny : Option InfrastructurePolicyEmergencyDeny
  encodedBytes : Nat

structure InfrastructurePolicyDecisionRecordedData where
  invocationId : String
  callId : String
  operationKey : String
  decision : InfrastructurePolicyDecisionRecord

inductive RemoteDispatchState
  | requested | offered | accepted | started | cancelRequested | succeeded | failed | cancelled
  | ambiguous | abandoned
  deriving DecidableEq

structure RemoteDispatchTransitionedData where
  dispatchId : String
  nodeId : String
  attempt : Nat
  invocationId : String
  target : String
  state : RemoteDispatchState
  workerId : Option String
  terminalDigest : Option String

/-! ## Lifecycle hooks and the end of a run -/

inductive LifecycleEventName
  | runStart | stepStart | stepSuccess | stepFailure | stepComplete | runSuccess | runFailure
  | runCancel | runComplete
  deriving DecidableEq

def LifecycleEventName.isStep : LifecycleEventName → Bool
  | .stepStart | .stepSuccess | .stepFailure | .stepComplete => true
  | _ => false

inductive LifecycleSubjectKind
  | workflow
  | step
  deriving DecidableEq

structure LifecycleSubject where
  kind : LifecycleSubjectKind
  id : String
  deriving DecidableEq

structure LifecycleHookRequestedData where
  hookInvocationId : String
  hookId : String
  event : LifecycleEventName
  subject : LifecycleSubject

/-- Payload of `lifecycle_action_attempt_started` and `lifecycle_action_succeeded`. -/
structure LifecycleActionIdentityData where
  hookInvocationId : String
  actionId : String
  attempt : Nat

inductive LifecycleFailureKind
  | scriptThrew | timedOut | nonJson | workerCrashed | hostCrashed | interrupted
  | sizeLimitExceeded | cancelled | providerFailed
  deriving DecidableEq

structure LifecycleFailure where
  kind : LifecycleFailureKind
  code : String
  message : String
  deriving DecidableEq

structure LifecycleActionFailedData where
  hookInvocationId : String
  actionId : String
  attempt : Nat
  failure : LifecycleFailure

inductive LifecycleHookCompletionStatus
  | completed
  | completedWithWarnings
  deriving DecidableEq

structure LifecycleHookCompletedData where
  hookInvocationId : String
  status : LifecycleHookCompletionStatus
  failedActions : Nat

inductive ReusableLifecycleHook
  | onSuccess
  | onError
  | onComplete
  deriving DecidableEq

inductive ReusableLifecycleOutcome
  | succeeded
  | failed
  | completedWithWarnings
  deriving DecidableEq

structure ReusableLifecycleRequestedData where
  invocationId : String
  definitionDigest : String
  hook : ReusableLifecycleHook

structure ReusableLifecycleActionStartedData extends ReusableLifecycleRequestedData where
  actionId : String

structure ReusableLifecycleActionSucceededData extends ReusableLifecycleActionStartedData where
  outcome : ReusableLifecycleOutcome

structure ReusableLifecycleActionFailedData extends ReusableLifecycleActionStartedData where
  outcome : ReusableLifecycleOutcome
  warningCode : String

structure ReusableLifecycleCompletedData extends ReusableLifecycleRequestedData where
  outcome : ReusableLifecycleOutcome

inductive BusinessOutcome
  | succeeded
  | failed
  | cancelled
  deriving DecidableEq

inductive RunOutcomeDecidedData
  | succeeded (result : Value)
  | failed (failure : LifecycleFailure)
  | cancelled (cancellationRequestId : String)

def RunOutcomeDecidedData.outcome : RunOutcomeDecidedData → BusinessOutcome
  | .succeeded _ => .succeeded
  | .failed _ => .failed
  | .cancelled _ => .cancelled

inductive FinalLifecycleStatus
  | completed
  | completedWithWarnings
  deriving DecidableEq

structure LifecycleWarning where
  hookId : String
  actionId : String
  stepId : Option String
  provider : Option String
  destination : Option String
  code : String
  deriving DecidableEq

structure RunFinalizedData where
  outcome : BusinessOutcome
  lifecycleStatus : FinalLifecycleStatus
  warnings : List LifecycleWarning

/-! ## Durable waits and locks -/

inductive DurableWaitKind
  | duration
  | until
  | signal
  deriving DecidableEq

structure WaitRegisteredData where
  waitId : String
  nodeId : String
  kind : DurableWaitKind
  registeredAt : DateTime
  deadline : Option DateTime
  signals : Option (List String)
  correlationDigest : Option String

structure ExternalSignalReceivedData where
  signalId : String
  waitId : String
  signal : String
  receivedAt : DateTime
  idempotencyDigest : String
  payload : Value
  correlation : Option String
  authenticationClass : Option String

inductive DurableWaitWinner
  | timer
  | signal
  deriving DecidableEq

structure WaitSatisfiedData where
  waitId : String
  winner : DurableWaitWinner
  result : Value
  resolvedAt : DateTime

inductive DurableWaitTimeoutBehavior
  | fail
  | continue
  deriving DecidableEq

structure WaitTimedOutData where
  waitId : String
  deadline : DateTime
  resolvedAt : DateTime
  behavior : DurableWaitTimeoutBehavior

structure WaitCancelledData where
  waitId : String
  cancelledAt : DateTime
  cancellationId : String

structure LockWaitRegisteredData where
  lockId : String
  key : String
  waiterSequence : Nat
  registeredAt : DateTime
  deadline : DateTime
  executionIdentity : String

structure LockAcquiredData where
  lockId : String
  key : String
  leaseId : String
  fencingToken : String
  acquiredAt : DateTime
  expiresAt : DateTime
  executionIdentity : String

structure LockReleasedData where
  lockId : String
  key : String
  leaseId : String
  fencingToken : String
  releasedAt : DateTime
  result : Value

structure LockAcquireTimedOutData where
  lockId : String
  key : String
  deadline : DateTime
  resolvedAt : DateTime

structure LockAcquisitionCancelledData where
  lockId : String
  key : String
  cancelledAt : DateTime
  cancellationId : String

structure LockLeaseLostData where
  lockId : String
  key : String
  leaseId : String
  fencingToken : String
  expiredAt : DateTime
  detectedAt : DateTime
  ambiguous : Bool

/-! ## Sagas -/

inductive CorrectiveActionKind
  | compensation
  | cleanup
  deriving DecidableEq

inductive SagaCorrectionReason
  | failure
  | cancel
  | success
  deriving DecidableEq

/-- Payload of `saga_started`, `saga_forward_succeeded` and `saga_correction_completed`. -/
structure SagaIdentityData where
  sagaId : String

structure CompensationRegisteredData where
  sagaId : String
  actionId : String
  forStepId : String
  completionSequence : Nat

structure SagaCorrectionStartedData where
  sagaId : String
  reason : SagaCorrectionReason

/-- Payload of `correction_attempt_started` and `correction_attempt_succeeded`. -/
structure CorrectionAttemptIdentityData where
  sagaId : String
  actionId : String
  actionKind : CorrectiveActionKind
  attempt : Nat

structure CorrectionAttemptFailedData extends CorrectionAttemptIdentityData where
  code : String
  retryable : Bool
  ambiguous : Bool

structure CorrectionRetryScheduledData extends CorrectionAttemptIdentityData where
  retryAt : DateTime

structure CorrectionInterruptedData extends CorrectionAttemptIdentityData where
  ambiguous : Bool

structure ManualRecoveryRequiredData where
  sagaId : String
  actionId : String
  actionKind : CorrectiveActionKind
  code : String

end Woml
