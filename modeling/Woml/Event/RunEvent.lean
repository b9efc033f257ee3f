import Woml.Event.Data

/-!
# Run events

A run's history is a list of `RunEvent`s. The payload names which of the engine's transitions the
event records; `iteration` is present when the event belongs to one iteration of a for-each loop.
-/

namespace Woml

inductive RunEventPayload
  | runAdmitted (data : RunAdmittedData)
  | runExecutionStarted (data : RunExecutionStartedData)
  | runTimeoutReached (data : RunTimeoutReachedData)
  | runStarted (data : RunStartedData)
  | stepAttemptStarted (data : StepAttemptStartedData)
  | stepAttemptSucceeded (data : StepAttemptSucceededData)
  | stepAttemptFailed (data : StepAttemptFailedData)
  | stepRetryScheduled (data : StepRetryScheduledData)
  | branchSelected (data : BranchSelectedData)
  | choiceSelected (data : ChoiceSelectedData)
  | parallelGroupStarted (data : ParallelGroupStartedData)
  | parallelGroupCompleted (data : ParallelGroupCompletedData)
  | approvalRequested (data : ApprovalRequestedData)
  | approvalReviewRequested (data : ApprovalReviewRequestedData)
  | approvalReviewerDecisionRecorded (data : ApprovalReviewerDecisionRecordedData)
  | approvalQuorumProgressed (data : ApprovalQuorumProgressedData)
  | approvalResolved (data : ApprovalResolvedData)
  | approvalInvalidated (data : ApprovalInvalidatedData)
  | notificationDeliveryRequested (data : NotificationDeliveryRequestedData)
  | notificationDeliveryAttemptStarted (data : NotificationDeliveryAttemptStartedData)
  | notificationDeliverySucceeded (data : NotificationDeliverySucceededData)
  | notificationDeliveryFailed (data : NotificationDeliveryFailedData)
  | notificationDecisionAccepted (data : NotificationDecisionAcceptedData)
  | notificationMessageUpdateRequested (data : NotificationMessageUpdateRequestedData)
  | notificationMessageUpdateAttemptStarted (data : NotificationMessageUpdateAttemptStartedData)
  | notificationMessageUpdated (data : NotificationMessageUpdateAttemptStartedData)
  | notificationMessageUpdateFailed (data : NotificationMessageUpdateFailedData)
  | infrastructurePolicyDecisionRecorded (data : InfrastructurePolicyDecisionRecordedData)
  | remoteDispatchTransitioned (data : RemoteDispatchTransitionedData)
  | operationStarted (data : OperationStartedData)
  | operationSucceeded (data : OperationSucceededData)
  | operationFailed (data : OperationFailedData)
  | forkOpened (data : ForkOpenedData)
  | forkBranchSettled (data : ForkBranchSettledData)
  | forkJoinSettled (data : ForkJoinSettledData)
  | runCancellationRequested (data : RunCancellationRequestedData)
  | lifecycleHookRequested (data : LifecycleHookRequestedData)
  | lifecycleActionAttemptStarted (data : LifecycleActionIdentityData)
  | lifecycleActionSucceeded (data : LifecycleActionIdentityData)
  | lifecycleActionFailed (data : LifecycleActionFailedData)
  | lifecycleHookCompleted (data : LifecycleHookCompletedData)
  | reusableLifecycleRequested (data : ReusableLifecycleRequestedData)
  | reusableLifecycleActionStarted (data : ReusableLifecycleActionStartedData)
  | reusableLifecycleActionSucceeded (data : ReusableLifecycleActionSucceededData)
  | reusableLifecycleActionFailed (data : ReusableLifecycleActionFailedData)
  | reusableLifecycleCompleted (data : ReusableLifecycleCompletedData)
  | forEachOpened (data : ForEachOpenedData)
  | forEachIterationStarted (data : ForEachIterationIdentityData)
  | forEachIterationSucceeded (data : ForEachIterationSucceededData)
  | forEachIterationFailed (data : ForEachIterationFailedData)
  | forEachIterationSkipped (data : ForEachIterationSkippedData)
  | forEachSucceeded (data : ForEachSettledData)
  | forEachFailed (data : ForEachSettledData)
  | forEachCancelled (data : ForEachSettledData)
  | waitRegistered (data : WaitRegisteredData)
  | externalSignalReceived (data : ExternalSignalReceivedData)
  | waitSatisfied (data : WaitSatisfiedData)
  | waitTimedOut (data : WaitTimedOutData)
  | waitCancelled (data : WaitCancelledData)
  | lockWaitRegistered (data : LockWaitRegisteredData)
  | lockAcquired (data : LockAcquiredData)
  | lockReleased (data : LockReleasedData)
  | lockAcquireTimedOut (data : LockAcquireTimedOutData)
  | lockAcquisitionCancelled (data : LockAcquisitionCancelledData)
  | lockLeaseLost (data : LockLeaseLostData)
  | sagaStarted (data : SagaIdentityData)
  | compensationRegistered (data : CompensationRegisteredData)
  | sagaForwardSucceeded (data : SagaIdentityData)
  | sagaCorrectionStarted (data : SagaCorrectionStartedData)
  | correctionAttemptStarted (data : CorrectionAttemptIdentityData)
  | correctionAttemptSucceeded (data : CorrectionAttemptIdentityData)
  | correctionAttemptFailed (data : CorrectionAttemptFailedData)
  | correctionRetryScheduled (data : CorrectionRetryScheduledData)
  | correctionInterrupted (data : CorrectionInterruptedData)
  | sagaCorrectionCompleted (data : SagaIdentityData)
  | manualRecoveryRequired (data : ManualRecoveryRequiredData)
  | runOutcomeDecided (data : RunOutcomeDecidedData)
  | runFinalized (data : RunFinalizedData)
  | runSucceeded (data : RunSucceededData)
  | runFailed (data : RunFailedData)

structure RunEvent where
  eventSchemaVersion : Nat
  eventId : String
  runId : String
  sequence : Nat
  occurredAt : DateTime
  iteration : Option ForEachIterationScope := none
  payload : RunEventPayload

end Woml
