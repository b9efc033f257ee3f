import Woml.Projection.Fold

/-!
# What an event can change

The projection is cut into slices; `footprint` lists the slices that the handler of a payload may
change. `applyPayload_keeps` says once that every handler keeps all the others, and
`apply_keeps` says the same of the whole fold step, where iteration-scoped work only touches its
loop. Invariants about a slice then only look at the handlers that touch it.
-/

namespace Woml

open Checked ProjectionFoldState

inductive Slice
  | identity | timing | status | outcome | cancellation | lifecycle | context | attempts | decisions
  | operations | retries | selections | parallelGroups | forks | loops | approvals
  | notifications | waits | locks | sagas
  deriving DecidableEq

/-- The two projections have the same slice. -/
def Slice.Same (p q : RunProjection) : Slice → Prop
  | identity =>
    (q.eventSchemaVersion, q.runId, q.workflowId, q.definitionHash, q.policyHash, q.queue,
      q.occurrenceSequence, q.admittedAt, q.triggerId, q.triggerHandler, q.triggerOccurrenceId,
      q.ingress) =
    (p.eventSchemaVersion, p.runId, p.workflowId, p.definitionHash, p.policyHash, p.queue,
      p.occurrenceSequence, p.admittedAt, p.triggerId, p.triggerHandler, p.triggerOccurrenceId,
      p.ingress)
  | timing =>
    (q.startedAt, q.timeoutAt, q.timeoutReachedAt) = (p.startedAt, p.timeoutAt, p.timeoutReachedAt)
  | status => q.status = p.status
  | outcome =>
    (q.businessOutcome, q.terminalNodeId, q.result, q.failure) =
    (p.businessOutcome, p.terminalNodeId, p.result, p.failure)
  | cancellation => q.cancellationRequestId = p.cancellationRequestId
  | lifecycle =>
    (q.lifecycleStatus, q.lifecycleHooks, q.reusableLifecycleHooks, q.lifecycleWarnings,
      q.lifecycleFailure) =
    (p.lifecycleStatus, p.lifecycleHooks, p.reusableLifecycleHooks, p.lifecycleWarnings,
      p.lifecycleFailure)
  | context => q.context = p.context
  | attempts => q.attempts = p.attempts
  | decisions => q.infrastructurePolicyDecisions = p.infrastructurePolicyDecisions
  | operations => q.operations = p.operations
  | retries => q.pendingRetries = p.pendingRetries
  | selections =>
    (q.branchSelections, q.choiceSelections) = (p.branchSelections, p.choiceSelections)
  | parallelGroups => q.parallelGroups = p.parallelGroups
  | forks => q.forks = p.forks
  | loops => q.forEach = p.forEach
  | approvals =>
    (q.approvalRequests, q.richApprovalRequests) = (p.approvalRequests, p.richApprovalRequests)
  | notifications =>
    (q.notificationDeliveries, q.notificationUpdates, q.notificationDecisions) =
    (p.notificationDeliveries, p.notificationUpdates, p.notificationDecisions)
  | waits => (q.durableWaits, q.externalSignals) = (p.durableWaits, p.externalSignals)
  | locks => q.locks = p.locks
  | sagas => q.sagas = p.sagas

/-- Nothing changed but the slices of the list. -/
def Keeps (touched : List Slice) (p q : RunProjection) : Prop := ∀ s, s ∉ touched → s.Same p q

/-- The slices that the handler of a payload may change. -/
def footprint : RunEventPayload → List Slice
  | .runAdmitted _ => [.identity, .status, .context]
  | .runExecutionStarted _ => [.status, .timing]
  | .runTimeoutReached _ => [.timing]
  | .runStarted _ => [.identity, .status, .timing, .context]
  | .stepAttemptStarted _ => [.attempts, .retries]
  | .stepAttemptSucceeded _ => [.attempts, .context]
  | .stepAttemptFailed _ => [.attempts]
  | .stepRetryScheduled _ => [.retries]
  | .branchSelected _ | .choiceSelected _ => [.selections]
  | .parallelGroupStarted _ | .parallelGroupCompleted _ => [.parallelGroups]
  | .approvalRequested _ | .approvalReviewRequested _ => [.approvals, .status]
  | .approvalReviewerDecisionRecorded _ | .approvalQuorumProgressed _ => [.approvals]
  | .approvalResolved _ => [.approvals, .status, .context]
  | .approvalInvalidated _ => [.approvals, .status]
  | .notificationDeliveryRequested _ | .notificationDeliveryAttemptStarted _
  | .notificationDeliverySucceeded _ | .notificationDeliveryFailed _
  | .notificationDecisionAccepted _ | .notificationMessageUpdateRequested _
  | .notificationMessageUpdateAttemptStarted _ | .notificationMessageUpdated _
  | .notificationMessageUpdateFailed _ => [.notifications]
  | .infrastructurePolicyDecisionRecorded _ => [.decisions]
  | .remoteDispatchTransitioned _ => []
  | .operationStarted _ | .operationSucceeded _ | .operationFailed _ => [.operations]
  | .forkOpened _ | .forkBranchSettled _ | .forkJoinSettled _ => [.forks]
  | .runCancellationRequested _ => [.status, .cancellation]
  | .lifecycleHookRequested _ | .lifecycleActionAttemptStarted _ | .lifecycleActionSucceeded _
  | .lifecycleActionFailed _ | .lifecycleHookCompleted _ | .reusableLifecycleRequested _
  | .reusableLifecycleActionStarted _ | .reusableLifecycleActionSucceeded _
  | .reusableLifecycleActionFailed _ | .reusableLifecycleCompleted _ => [.lifecycle]
  | .forEachOpened _ | .forEachIterationStarted _ | .forEachIterationSucceeded _
  | .forEachIterationFailed _ | .forEachIterationSkipped _ => [.loops]
  | .forEachSucceeded _ | .forEachFailed _ | .forEachCancelled _ => [.loops, .context]
  | .waitRegistered _ => [.waits, .status]
  | .externalSignalReceived _ => [.waits]
  | .waitSatisfied _ | .waitTimedOut _ => [.waits, .status, .context]
  | .waitCancelled _ => [.waits, .status]
  | .lockWaitRegistered _ | .lockAcquired _ | .lockAcquireTimedOut _
  | .lockAcquisitionCancelled _ | .lockLeaseLost _ => [.locks, .status]
  | .lockReleased _ => [.locks, .status, .context]
  | .sagaStarted _ | .compensationRegistered _ | .sagaForwardSucceeded _
  | .sagaCorrectionStarted _ | .correctionAttemptStarted _ | .correctionAttemptSucceeded _
  | .correctionAttemptFailed _ | .correctionRetryScheduled _ | .correctionInterrupted _
  | .sagaCorrectionCompleted _ | .manualRecoveryRequired _ => [.sagas]
  | .runOutcomeDecided _ => [.status, .outcome, .lifecycle]
  | .runFinalized _ => [.status, .lifecycle]
  | .runSucceeded _ => [.status, .outcome, .lifecycle]
  | .runFailed _ => [.status, .outcome, .lifecycle, .retries]

variable {p q : RunProjection}

theorem applyPayload_keeps [Host] (e : RunEvent) (ins : AttemptIndexes) (pe : Option RunEvent) :
    Ensures (Keeps (footprint e.payload) p) (applyPayload p e ins pe) := by
  unfold applyPayload
  cases e.payload
  all_goals
    simp only [footprint, applyApprovalResolved]
    -- guards and lookups bind nothing that the result depends on; a step that returns a changed
    -- projection is replaced by it
    repeat' first
      | refine Ensures.bind fun _ h => ?_; try cases h
      | exact Ensures.error
      | split
      | refine Ensures.ok fun s hs => ?_
    all_goals cases s <;> first | rfl | simp at hs

/-- Work inside an iteration only changes its loop. -/
theorem applyIterationScopedEvent_keeps (e : RunEvent) (pe : Option RunEvent) :
    Ensures (Keeps [.loops] p) (applyIterationScopedEvent p e pe) := by
  iterate 6 refine Ensures.bind fun _ _ => ?_
  refine Ensures.ok fun s hs => ?_
  cases s <;> first | rfl | simp at hs

namespace ProjectionFoldState

/-- The slices that an accepted event may change. -/
def touched (event : RunEvent) : List Slice :=
  if isIterationScoped event then [.loops] else footprint event.payload

theorem handle_keeps [Host] (s : ProjectionFoldState) (e : RunEvent) :
    Ensures (Keeps (touched e) s.projection) (s.handle e) := by
  unfold handle touched
  split
  · exact applyIterationScopedEvent_keeps e s.previousEvent
  · exact applyPayload_keeps e s.attemptIndexes s.previousEvent

end ProjectionFoldState

end Woml
