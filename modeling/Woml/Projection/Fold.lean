import Woml.Event.Validation
import Woml.Projection.FoldIteration

/-!
# The fold of a history

`ProjectionFoldState.apply` is the gate that every event passes: the event is valid on its own,
continues the history, and its handler accepts it. `foldEvents` runs it over a whole history.

The source mutates a candidate state and may fail halfway; here a failed `apply` returns no state,
so that only the published states exist.
-/

namespace Woml

open Checked

/-- `event_ids` is a hash set in the source and a list here, newest first. -/
structure ProjectionFoldState where
  projection : RunProjection := .initial
  eventIds : List String := []
  attemptIndexes : AttemptIndexes := []
  previousEvent : Option RunEvent := none

namespace ProjectionFoldState

def lastEventId (s : ProjectionFoldState) : Option String := s.previousEvent.map (·.eventId)

/-- Events of an iteration that act on the run as a whole. -/
def isTopLevelScopedEvent : RunEventPayload → Bool
  | .forEachIterationStarted _ | .forEachIterationSucceeded _ | .forEachIterationFailed _
  | .forEachIterationSkipped _ | .compensationRegistered _ => true
  | _ => false

def isIterationScoped (event : RunEvent) : Bool :=
  event.iteration.isSome && !isTopLevelScopedEvent event.payload

/-- The handler of each payload. A remote dispatch transition leaves the projection alone: the
dispatch table of the store is its authority. -/
def applyPayload [Host] (p : RunProjection) (event : RunEvent) (indexes : AttemptIndexes)
    (previousEvent : Option RunEvent) : Except FoldError RunProjection :=
  match event.payload with
  | .runAdmitted data => applyRunAdmitted p event data
  | .runExecutionStarted data => applyRunExecutionStarted p data
  | .runTimeoutReached data => applyRunTimeoutReached p data
  | .runStarted data => applyRunStarted p event data
  | .stepAttemptStarted data => applyStepAttemptStarted p event data indexes
  | .stepAttemptSucceeded data => applyStepAttemptSucceeded p data indexes
  | .stepAttemptFailed data => applyStepAttemptFailed p data indexes
  | .stepRetryScheduled data => applyStepRetryScheduled p data previousEvent
  | .branchSelected data => applyBranchSelected p data
  | .choiceSelected data => applyChoiceSelected p data
  | .forkOpened data => applyForkOpened p data
  | .forkBranchSettled data => applyForkBranchSettled p data
  | .forkJoinSettled data => applyForkJoinSettled p data
  | .forEachOpened data => applyForEachOpened p data
  | .forEachIterationStarted data => applyForEachIterationStarted p event data
  | .forEachIterationSucceeded data => applyForEachIterationSucceeded p event data
  | .forEachIterationFailed data => applyForEachIterationFailed p event data
  | .forEachIterationSkipped data => applyForEachIterationSkipped p event data
  | .forEachSucceeded data => applyForEachSettled p .succeeded data
  | .forEachFailed data => applyForEachSettled p .failed data
  | .forEachCancelled data => applyForEachSettled p .cancelled data
  | .parallelGroupStarted data => applyParallelGroupStarted p data
  | .parallelGroupCompleted data => applyParallelGroupCompleted p data
  | .waitRegistered data => applyWaitRegistered p data
  | .lockWaitRegistered data => applyLockWaitRegistered p data
  | .lockAcquired data => applyLockAcquired p data
  | .lockReleased data => applyLockReleased p data
  | .lockAcquireTimedOut data => applyLockAcquireTimedOut p data
  | .lockAcquisitionCancelled data => applyLockAcquisitionCancelled p data
  | .lockLeaseLost data => applyLockLeaseLost p data
  | .sagaStarted data => applySagaStarted p event data
  | .compensationRegistered data => applyCompensationRegistered p event data previousEvent
  | .sagaForwardSucceeded data => applySagaForwardSucceeded p event data
  | .sagaCorrectionStarted data => applySagaCorrectionStarted p data
  | .correctionAttemptStarted data => applyCorrectionAttemptStarted p event data
  | .correctionAttemptSucceeded data => applyCorrectionAttemptSucceeded p data
  | .correctionAttemptFailed data => applyCorrectionAttemptFailed p data
  | .correctionRetryScheduled data => applyCorrectionRetryScheduled p data
  | .correctionInterrupted data => applyCorrectionInterrupted p data
  | .manualRecoveryRequired data => applyManualRecoveryRequired p data
  | .sagaCorrectionCompleted data => applySagaCorrectionCompleted p event data
  | .externalSignalReceived data => applyExternalSignalReceived p data
  | .waitSatisfied data => applyWaitSatisfied p data
  | .waitTimedOut data => applyWaitTimedOut p data
  | .waitCancelled data => applyWaitCancelled p data
  | .approvalRequested data => applyApprovalRequested p event data
  | .approvalReviewRequested data => applyApprovalReviewRequested p event data
  | .approvalReviewerDecisionRecorded data => applyApprovalReviewerDecisionRecorded p event data
  | .approvalQuorumProgressed data => applyApprovalQuorumProgressed p data
  | .notificationDeliveryRequested data => applyNotificationDeliveryRequested p data
  | .notificationDeliveryAttemptStarted data => applyNotificationDeliveryAttemptStarted p data
  | .notificationDeliverySucceeded data => applyNotificationDeliverySucceeded p data
  | .notificationDeliveryFailed data => applyNotificationDeliveryFailed p event data
  | .notificationDecisionAccepted data => applyNotificationDecisionAccepted p data
  | .approvalResolved data => applyApprovalResolved p event data
  | .approvalInvalidated data => applyApprovalInvalidated p data
  | .notificationMessageUpdateRequested data => applyNotificationMessageUpdateRequested p data
  | .notificationMessageUpdateAttemptStarted data =>
    applyNotificationMessageUpdateAttemptStarted p data
  | .notificationMessageUpdated data => applyNotificationMessageUpdated p data
  | .notificationMessageUpdateFailed data => applyNotificationMessageUpdateFailed p event data
  | .infrastructurePolicyDecisionRecorded data => applyInfrastructurePolicyDecisionRecorded p data
  | .operationStarted data => applyOperationStarted p data
  | .operationSucceeded data => applyOperationSucceeded p data
  | .operationFailed data => applyOperationFailed p data
  | .runCancellationRequested data => applyRunCancellationRequested p data
  | .lifecycleHookRequested data => applyLifecycleHookRequested p data
  | .lifecycleActionAttemptStarted data => applyLifecycleActionAttemptStarted p data
  | .lifecycleActionSucceeded data => applyLifecycleActionSucceeded p data
  | .lifecycleActionFailed data => applyLifecycleActionFailed p data
  | .lifecycleHookCompleted data => applyLifecycleHookCompleted p data
  | .reusableLifecycleRequested data => applyReusableLifecycleRequested p data
  | .reusableLifecycleActionStarted data => applyReusableLifecycleActionStarted p data
  | .reusableLifecycleActionSucceeded data => applyReusableLifecycleActionSucceeded p data
  | .reusableLifecycleActionFailed data => applyReusableLifecycleActionFailed p data
  | .reusableLifecycleCompleted data => applyReusableLifecycleCompleted p data
  | .runOutcomeDecided data => applyRunOutcomeDecided p data
  | .runFinalized data => applyRunFinalized p data
  | .runSucceeded data => applyRunSucceeded p data
  | .remoteDispatchTransitioned _ => .ok p
  | .runFailed data => applyRunFailed p data indexes

variable [Host]

/-- What the gate asks of an event before its handler runs. -/
def gate (s : ProjectionFoldState) (event : RunEvent) : Except FoldError Unit := do
  event.validate.mapError .invalidEvent
  failIf (event.sequence ≠ s.projection.lastSequence + 1)
    (.invalidHistory (s!"Expected sequence {s.projection.lastSequence + 1}, received " ++
      s!"{event.sequence}."))
  failIf (event.eventId ∈ s.eventIds)
    (.invalidHistory s!"Event ID {Text.quote event.eventId} appears more than once.")
  let runId := s.projection.runId.getD event.runId
  failIf (runId ≠ event.runId)
    (.invalidHistory (s!"Run history mixes run IDs {Text.quote runId} and " ++
      s!"{Text.quote event.runId}."))
  let version := s.projection.eventSchemaVersion.getD event.eventSchemaVersion
  failIf (version ≠ event.eventSchemaVersion)
    (.invalidHistory (s!"Run history mixes event schema versions {version} and " ++
      s!"{event.eventSchemaVersion}."))
  failIf s.projection.status.isTerminal
    (.invalidHistory "A terminal run event must be the final event.")

/-- The handler's part of `apply`: iteration-scoped work goes to its iteration. -/
def handle (s : ProjectionFoldState) (event : RunEvent) : Except FoldError RunProjection :=
  if isIterationScoped event then
    applyIterationScopedEvent s.projection event s.previousEvent
  else applyPayload s.projection event s.attemptIndexes s.previousEvent

def apply (s : ProjectionFoldState) (event : RunEvent) : Except FoldError ProjectionFoldState := do
  s.gate event
  let projection ← s.handle event
  .ok {
    projection := { projection with lastSequence := event.sequence }
    eventIds := event.eventId :: s.eventIds
    attemptIndexes :=
      if isIterationScoped event then s.attemptIndexes
      else indexAttempt s.projection s.attemptIndexes event.payload
    previousEvent := some event }

def fromEvents (events : List RunEvent) : Except FoldError ProjectionFoldState :=
  events.foldlM apply {}

end ProjectionFoldState

def foldEvents [Host] (events : List RunEvent) : Except FoldError RunProjection :=
  (·.projection) <$> ProjectionFoldState.fromEvents events

end Woml
