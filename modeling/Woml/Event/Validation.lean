import Woml.Host
import Woml.Event.Identities

/-!
# Event validation

`RunEvent.validate`: an event is checked against the schema version it declares. A payload that a
version did not introduce is checked as an event of the version before (`inherit`), down to the
version whose contract describes it; `validatePayload` is that contract.
-/

namespace Woml

open Checked

variable [Host]

/-! ## Payload classes -/

namespace RunEventPayload

def isLoop : RunEventPayload → Bool
  | forEachOpened _ | forEachIterationStarted _ | forEachIterationSucceeded _
  | forEachIterationFailed _ | forEachIterationSkipped _ | forEachSucceeded _ | forEachFailed _
  | forEachCancelled _ => true
  | _ => false

def isWait : RunEventPayload → Bool
  | waitRegistered _ | externalSignalReceived _ | waitSatisfied _ | waitTimedOut _
  | waitCancelled _ => true
  | _ => false

def isLock : RunEventPayload → Bool
  | lockWaitRegistered _ | lockAcquired _ | lockReleased _ | lockAcquireTimedOut _
  | lockAcquisitionCancelled _ | lockLeaseLost _ => true
  | _ => false

def isCorrection : RunEventPayload → Bool
  | sagaStarted _ | compensationRegistered _ | sagaForwardSucceeded _ | sagaCorrectionStarted _
  | correctionAttemptStarted _ | correctionAttemptSucceeded _ | correctionAttemptFailed _
  | correctionRetryScheduled _ | correctionInterrupted _ | sagaCorrectionCompleted _
  | manualRecoveryRequired _ => true
  | _ => false

def isRichApproval : RunEventPayload → Bool
  | approvalReviewRequested _ | approvalReviewerDecisionRecorded _ | approvalQuorumProgressed _
  | approvalInvalidated _ => true
  | approvalResolved data => data.isRich
  | _ => false

def isRemoteDispatch : RunEventPayload → Bool
  | remoteDispatchTransitioned _ => true
  | _ => false

def isReusableLifecycle : RunEventPayload → Bool
  | reusableLifecycleRequested _ | reusableLifecycleActionStarted _
  | reusableLifecycleActionSucceeded _ | reusableLifecycleActionFailed _
  | reusableLifecycleCompleted _ => true
  | _ => false

def isChoiceOrFork : RunEventPayload → Bool
  | choiceSelected _ | forkOpened _ | forkBranchSettled _ | forkJoinSettled _ => true
  | _ => false

/-- Work that an iteration of a for-each loop may record in its own scope. -/
def isScopedWork : RunEventPayload → Bool
  | stepAttemptStarted _ | stepAttemptSucceeded _ | stepAttemptFailed _ | stepRetryScheduled _
  | branchSelected _ | choiceSelected _ | parallelGroupStarted _ | parallelGroupCompleted _
  | operationStarted _ | operationSucceeded _ | operationFailed _ | lifecycleHookRequested _
  | lifecycleActionAttemptStarted _ | lifecycleActionSucceeded _ | lifecycleActionFailed _
  | lifecycleHookCompleted _ => true
  | p => p.isReusableLifecycle

def isCompensationRegistered : RunEventPayload → Bool
  | compensationRegistered _ => true
  | _ => false

end RunEventPayload

def invalidScope (scope : ForEachIterationScope) : Bool :=
  !validPublicStructuralId scope.forEachId || 10000 ≤ scope.index

/-! ## Payload contracts

In each contract `v` is the schema version under which the payload is checked. -/

def validateRunStarted (v : Nat) (data : RunStartedData) : Except EventValidationError Unit := do
  failIf (v = 11) (.invalid "Event v11 starts with run_admitted, not run_started.")
  failIf (!validId data.workflowId || !isDefinitionHash data.definitionHash)
    (.invalid "run_started requires a valid workflowId and definitionHash.")
  let noTrigger :=
    data.triggerId.isNone && data.triggerHandler.isNone && data.triggerOccurrenceId.isNone
  let validWorkflowCall := noTrigger &&
    match data.ingress with
    | some (.workflowCall callKey) => isDefinitionHash callKey
    | none => false
  let validTrigger :=
    match data.triggerId, data.triggerHandler, data.triggerOccurrenceId with
    | some triggerId, some handler, some occurrenceId =>
      validId triggerId && validTriggerHandler handler && validId occurrenceId
    | _, _, _ => false
  if v = 9 then
    failIf (!validWorkflowCall)
      (.invalid ("run_started v9 requires one workflow_call ingress identity and no trigger " ++
        "identity."))
  else if v = 10 then
    failIf (!validWorkflowCall ∧ !(validTrigger && data.ingress.isNone))
      (.invalid ("run_started v10 requires either a source-trigger identity or workflow_call " ++
        "ingress."))
  else if 7 ≤ v then do
    failIf (!validTrigger)
      (.invalid "run_started v7 requires triggerId, triggerHandler, and triggerOccurrenceId.")
    failIf data.ingress.isSome
      (.invalid "run_started ingress identity is available only in event schema v9.")
  else
    failIf (!noTrigger || data.ingress.isSome)
      (.invalid "run_started trigger occurrence identity is available only in event schema v7.")

def validateRemoteDispatch (v : Nat) (data : RemoteDispatchTransitionedData) :
    Except EventValidationError Unit := do
  validateIdentity data.nodeId data.attempt data.invocationId
  let bound := data.state ≠ .requested
  let terminal := data.state = .succeeded || data.state = .failed || data.state = .cancelled
  failIf (v ≠ 20 || !Text.startsWith "dispatch_" data.dispatchId || data.state = .offered ||
      data.dispatchId.utf8ByteSize ≠ 73 ||
      !((Text.bytes data.dispatchId).drop 9).all Text.isLowerHex ||
      !validRemotePublicId data.target || 10 < data.attempt || bound != data.workerId.isSome ||
      data.workerId.any (!validRemotePublicId ·) || terminal != data.terminalDigest.isSome ||
      data.terminalDigest.any (!validSha256 ·))
    (.invalid "remote_dispatch_transitioned does not match the Event v20 contract.")

/-- The outcome of a rich approval agrees with its quorum. -/
def richOutcomeValid (data : ApprovalResolvedData) : Bool :=
  match data.decision, data.reason, data.required, data.received with
  | some .approved, some .quorum, some required, some received =>
    required ≤ received &&
      match data.requiredRoles, data.representedRoles with
      | some required, some represented => required.all represented.contains
      | _, _ => false
  | some .rejected, some reason, some _, some _ => reason ≠ .quorum
  | _, _, _, _ => false

def validateApprovalResolved (v : Nat) (data : ApprovalResolvedData) :
    Except EventValidationError Unit := do
  if data.isRich then
    let valid := data.resolution.isNone && data.reviewDigest.any validSha256 &&
      data.decision.isSome && data.reason.isSome &&
      data.required.any (fun n => 1 ≤ n && n ≤ 20) && data.received.any (· ≤ 20) &&
      data.requiredRoles.any validRichApprovalRoles &&
      data.representedRoles.any validRichApprovalRoles && richOutcomeValid data
    failIf (v ≠ 19 || !validPublicStructuralId data.approvalId ||
        !isApprovalRequestId data.requestId || !valid)
      (.invalid "approval_resolved does not match the frozen rich Event v19 contract.")
  else
    failIf (!(4 ≤ v && v ≤ 11) || !validPublicStructuralId data.approvalId ||
        !isApprovalRequestId data.requestId)
      (.invalid "approval_resolved requires event schema v4 and valid approval/request identities.")
    failIf (data.decision.isSome || data.reason.isSome || data.required.isSome ||
        data.received.isSome || data.requiredRoles.isSome || data.representedRoles.isSome)
      (.invalid "Basic approval resolution cannot contain rich approval fields.")
    let resolution ← orFail data.resolution
      (.invalid "Basic approval resolution requires a resolution.")
    resolution.validate

/-- The provider's name for the person who decided, by provider. -/
def validProviderActor (provider actor : String) : Bool :=
  let digits (start : String) (low high : Nat) :=
    (Text.stripPrefix start actor).any fun value =>
      low ≤ value.utf8ByteSize && value.utf8ByteSize ≤ high && Text.all Char.isDigit value
  (provider = "slack" && validPrefixedId actor "U" 9) ||
    (provider = "telegram" && digits "telegram:" 1 32) ||
    (provider = "discord" && digits "discord:" 17 20) ||
    (provider = "whatsapp" && digits "whatsapp:" 8 16) ||
    (provider = "custom" && actor = "custom-provider")

def validatePolicyDecision (data : InfrastructurePolicyDecisionRecordedData) :
    Except EventValidationError Unit :=
  failIf (!validId data.invocationId || !validId data.callId || !validSha256 data.operationKey ||
      !Text.startsWith "decision_" data.decision.decisionId ||
      data.decision.decisionId.utf8ByteSize ≠ 73 || !validSha256 data.decision.policyDigest ||
      !validSha256 data.decision.descriptorDigest || 1024 < data.decision.matchedRuleIds.length ||
      4096 < data.decision.requirements || 1024 < data.decision.explanation.utf8ByteSize ||
      data.decision.emergencyDeny.any (fun overlay =>
        overlay.policyId = "" || overlay.policyVersion = "" ||
          !validSha256 overlay.policyDigest || overlay.matchedRuleIds.isEmpty ||
          1024 < overlay.matchedRuleIds.length) ||
      262144 < data.decision.encodedBytes)
    (.invalid "infrastructure_policy_decision_recorded exceeds its safe durable contract.")

def validateOperationBase (v : Nat) (data : OperationStartedData) :
    Except EventValidationError Unit := do
  failIf (!(8 ≤ v && v ≤ 11))
    (.invalid "Operation events are available only in run-event schema v8 or later.")
  validateIdentity data.nodeId data.attemptNumber data.invocationId
  failIf (10 < data.attemptNumber || !validId data.callId || !validSha256 data.operationKey ||
      !validCapabilityName data.capability || !validCapabilityName data.operation)
    (.invalid "Operation event contains an invalid correlation or logical operation identity.")
  (validateSafeMetadata data.metadata).mapError .invalid

def validateWaitRegistered (v : Nat) (occurredAt : DateTime) (data : WaitRegisteredData) :
    Except EventValidationError Unit :=
  let deadlineValid :=
    match data.kind with
    | .duration => data.deadline.any (data.registeredAt ≤ ·)
    -- the target of a wait-until may lie in the past
    | .until => data.deadline.isSome
    | .signal => data.deadline.all (data.registeredAt ≤ ·)
  let shapeValid :=
    match data.kind with
    | .duration | .until =>
      data.deadline.isSome && data.signals.isNone && data.correlationDigest.isNone
    | .signal =>
      data.signals.any (fun signals =>
        1 ≤ signals.length && signals.length ≤ 16 && signals.all validSignalName &&
          decide signals.Nodup) && data.correlationDigest.any validSha256
  failIf (v ≠ 16 || !validPublicStructuralId data.waitId || data.nodeId ≠ data.waitId ||
      data.registeredAt ≠ occurredAt || !deadlineValid || !shapeValid)
    (.invalid "wait_registered does not match the frozen Event v16 contract.")

def validCorrectionAction (v : Nat) (sagaId actionId : String) : Bool :=
  v = 18 && validPublicStructuralId sagaId && actionId ≠ "" && actionId.utf8ByteSize ≤ 768

def validCorrectionAttempt (v : Nat) (data : CorrectionAttemptIdentityData) : Bool :=
  validCorrectionAction v data.sagaId data.actionId && 1 ≤ data.attempt && data.attempt ≤ 10

def validWarning (warning : LifecycleWarning) : Bool :=
  validId warning.hookId && validId warning.actionId && warning.stepId.all validId &&
    warning.provider.all (·.utf8ByteSize ≤ 64) && warning.destination.all (·.utf8ByteSize ≤ 256) &&
    Text.startsWith "WOML_" warning.code

def validateRunFailed (v : Nat) (data : RunFailedData) : Except EventValidationError Unit :=
  let foreign : Except EventValidationError Unit :=
    .error (.invalid ("run_failed payload does not belong to event schema v" ++ toString v ++ "."))
  match data with
  | .v1 nodeId attempt invocationId failure =>
    if v = 1 then do
      failIf ((nodeId.isSome || attempt.isSome || invocationId.isSome) &&
          !(nodeId.isSome && attempt.isSome && invocationId.isSome))
        (.invalid ("run_failed attempt identity must provide nodeId, attempt, and invocationId " ++
          "together."))
      match nodeId, attempt, invocationId with
      | some nodeId, some attempt, some invocationId =>
        validateIdentity nodeId attempt invocationId
      | _, _, _ => .ok ()
      failure.validate
    else foreign
  | .v2Attempt nodeId attempt invocationId failure =>
    if 2 ≤ v ∧ v ≤ 9 then do
      validateIdentity nodeId attempt invocationId
      failure.validate
    else foreign
  | .v2Branch branchId armId path failure =>
    if 2 ≤ v ∧ v ≤ 9 then do
      failIf (!validPublicStructuralId branchId || armId.any (!validBranchArmId branchId ·) ||
          path.any fun path => path.isEmpty || path.any (· = ""))
        (.invalid "Branch-scoped run_failed contains an invalid branchId, armId, or path.")
      match failure with
      | .branchTestNotBoolean .. =>
        failIf (armId.isNone || path.isNone)
          (.invalid "branch_test_not_boolean requires armId and path.")
      | .referenceNotAvailable .. =>
        failIf path.isNone (.invalid "reference_not_available requires path.")
      | .branchSelectionInvalid .. => .ok ()
      failure.validate
    else foreign
  | .v3Parallel parallelId _ primaryNodeId failedNodeIds cancelledNodeIds failure =>
    if 3 ≤ v ∧ v ≤ 9 then do
      failIf (!validPublicStructuralId parallelId || !validPublicStructuralId primaryNodeId ||
          !validOrderedIdLists failedNodeIds cancelledNodeIds || failedNodeIds.isEmpty ||
          !failedNodeIds.contains primaryNodeId)
        (.invalid "Parallel-scoped run_failed contains an invalid group or child identity list.")
      failure.validate
    else foreign
  | .v4Approval approvalId requestId failure =>
    if 4 ≤ v ∧ v ≤ 9 then do
      failIf (!validPublicStructuralId approvalId || !isApprovalRequestId requestId)
        (.invalid "Approval-scoped run_failed contains an invalid approvalId or requestId.")
      failure.validate
    else foreign
  | .v5Notification approvalId requestId failedDeliveryIds failure =>
    if 5 ≤ v ∧ v ≤ 9 then
      failIf (!validPublicStructuralId approvalId || !isApprovalRequestId requestId ||
          failedDeliveryIds.isEmpty ||
          !failedDeliveryIds.all (isNotificationDeliveryId · approvalId) ||
          !decide failedDeliveryIds.Nodup || failure.kind ≠ "all_deliveries_failed" ||
          failure.code ≠ "WOML_NOTIFICATION_DELIVERY_FAILED" || failure.message = "")
        (.invalid "Notification-scoped run_failed has an invalid delivery failure contract.")
    else foreign

/-- The contract of a payload under the schema version of its event. -/
def RunEvent.validatePayload (event : RunEvent) : Except EventValidationError Unit :=
  let v := event.eventSchemaVersion
  let now := event.occurredAt
  match event.payload with
  | .remoteDispatchTransitioned data => validateRemoteDispatch v data
  | .runAdmitted data =>
    failIf (v ≠ 11 || !isDefinitionHash data.definitionHash || !isDefinitionHash data.policyHash ||
        !validId data.trigger.id || !validTriggerHandler data.trigger.handler ||
        data.queue.name = "" || 128 < data.queue.name.utf8ByteSize || data.admittedAt ≠ now)
      (.invalid "run_admitted does not match the Event v11 admission contract.")
  | .runExecutionStarted data =>
    failIf (v ≠ 11 || data.startedAt ≠ now || data.timeoutAt.any (· ≤ data.startedAt))
      (.invalid "run_execution_started does not match the Event v11 start contract.")
  | .runTimeoutReached data =>
    failIf (v ≠ 11 || data.deadlineAt ≠ now || data.code ≠ "WOML_WORKFLOW_TIMED_OUT")
      (.invalid "run_timeout_reached does not match the Event v11 timeout contract.")
  | .runStarted data => validateRunStarted v data
  | .stepAttemptStarted data => do
    validateIdentity data.nodeId data.attempt data.invocationId
    let validV6Contract :=
      if 6 ≤ v then data.attempt ≤ 10 && data.idempotencyKey.any validSha256
      else data.idempotencyKey.isNone
    failIf (data.handler = "" || 256 < data.handler.length || !validV6Contract)
      (.invalid "step_attempt_started requires a valid handler.")
  | .stepAttemptSucceeded data => do
    validateIdentity data.nodeId data.attempt data.invocationId
    failIf (6 ≤ v && 10 < data.attempt) (.invalid "Model v6 attempts must not exceed 10.")
  | .stepAttemptFailed data => do
    validateIdentity data.nodeId data.attempt data.invocationId
    data.failure.validate
    failIf (6 ≤ v && 10 < data.attempt) (.invalid "Model v6 attempts must not exceed 10.")
    failIf (data.failure.kind = .invocationCancelled && !(3 ≤ v && v ≤ 11))
      (.invalid "invocation_cancelled is available only in run-event schema v3 or later.")
  | .stepRetryScheduled data =>
    failIf (v < 6 || !validId data.nodeId || !(1 ≤ data.failedAttempt && data.failedAttempt ≤ 9) ||
        data.nextAttempt ≠ data.failedAttempt + 1 || 10 < data.nextAttempt ||
        data.scheduledAt < now)
      (.invalid "step_retry_scheduled has an invalid v6 retry identity or schedule.")
  | .branchSelected data => do
    failIf (!(2 ≤ v && v ≤ 11))
      (.invalid "branch_selected is available only in run-event schema v2 or later.")
    failIf (!validPublicStructuralId data.branchId || !validBranchArmId data.branchId data.armId)
      (.invalid "branch_selected requires a valid branchId and matching canonical armId.")
  | .choiceSelected data =>
    failIf (v ≠ 12 || !validId data.choiceId ||
        !Text.startsWith (data.choiceId ++ ":") data.armId || !validId data.armId)
      (.invalid "choice_selected requires Event v12 and one canonical choice arm identity.")
  | .forkOpened data =>
    failIf (v ≠ 12 || !validPublicStructuralId data.forkId)
      (.invalid "fork_opened requires Event v12 and a valid forkId.")
  | .forkBranchSettled data =>
    failIf (v ≠ 12 || !validPublicStructuralId data.forkId ||
        !validPublicStructuralId data.branchId || !validId data.terminalNodeId)
      (.invalid ("fork_branch_settled requires valid Event v12 fork, branch, terminal, and " ++
        "outcome fields."))
  | .forkJoinSettled data =>
    let blockingValid :=
      match data.outcome, data.blockingBranchId with
      | .succeeded, none => true
      | .failed, some branchId | .cancelled, some branchId => validPublicStructuralId branchId
      | _, _ => false
    failIf (v ≠ 12 || !validPublicStructuralId data.forkId || !blockingValid)
      (.invalid "fork_join_settled requires one closed Event v12 outcome shape.")
  | .parallelGroupStarted data =>
    failIf (!(3 ≤ v && v ≤ 11) || !validPublicStructuralId data.parallelId)
      (.invalid "parallel_group_started requires event schema v3 and a valid parallelId.")
  | .parallelGroupCompleted data =>
    failIf (!(3 ≤ v && v ≤ 11) || !validPublicStructuralId data.parallelId ||
        !validOrderedIdLists data.failedNodeIds data.cancelledNodeIds ||
        (data.outcome = .succeeded &&
          (!data.failedNodeIds.isEmpty || !data.cancelledNodeIds.isEmpty)) ||
        (data.outcome = .failed && data.failedNodeIds.isEmpty && data.cancelledNodeIds.isEmpty))
      (.invalid "parallel_group_completed contains an invalid outcome or node list.")
  | .approvalRequested data =>
    failIf (!(4 ≤ v && v ≤ 11) || !validPublicStructuralId data.approvalId ||
        !isApprovalRequestId data.requestId || data.expiresAt.any (· ≤ now))
      (.invalid ("approval_requested requires event schema v4, valid identities, and a future " ++
        "expiresAt."))
  | .approvalResolved data => validateApprovalResolved v data
  | .approvalReviewRequested data =>
    failIf (v ≠ 19 || !validRichApprovalIdentity data.approvalId data.requestId data.reviewDigest ||
        data.directoryVersion = "" || 128 < data.directoryVersion.utf8ByteSize ||
        !(1 ≤ data.required && data.required ≤ 20) || !validRichApprovalRoles data.requiredRoles)
      (.invalid "approval_review_requested does not match the frozen Event v19 contract.")
  | .approvalReviewerDecisionRecorded data =>
    failIf (v ≠ 19 || !validRichApprovalIdentity data.approvalId data.requestId data.reviewDigest ||
        data.principalId = "" || 128 < data.principalId.utf8ByteSize)
      (.invalid
        "approval_reviewer_decision_recorded does not match the frozen Event v19 contract.")
  | .approvalQuorumProgressed data =>
    failIf (v ≠ 19 || !validRichApprovalIdentity data.approvalId data.requestId data.reviewDigest ||
        !(1 ≤ data.required && data.required ≤ 20) || data.required < data.received ||
        !validRichApprovalRoles data.requiredRoles ||
        !validRichApprovalRoles data.representedRoles ||
        data.representedRoles.any (!data.requiredRoles.contains ·))
      (.invalid "approval_quorum_progressed does not match the frozen Event v19 contract.")
  | .approvalInvalidated data =>
    failIf (v ≠ 19 || !validRichApprovalIdentity data.approvalId data.requestId data.reviewDigest ||
        data.reason ≠ .artifactInvalidated)
      (.invalid "approval_invalidated does not match the frozen Event v19 contract.")
  | .notificationDeliveryRequested data => do
    validateNotificationIdentity data.approvalId data.requestId data.deliveryId
    failIf (!(5 ≤ v && v ≤ 11) ||
        !(["slack", "telegram", "discord", "whatsapp", "custom"].contains data.provider) ||
        data.destination = "")
      (.invalid "notification_delivery_requested requires event schema v5 and a provider destination.")
  | .notificationDeliveryAttemptStarted data => do
    validateNotificationIdentity data.approvalId data.requestId data.deliveryId
    failIf (!(5 ≤ v && v ≤ 11) || !(1 ≤ data.attempt && data.attempt ≤ 3) ||
        !validPrefixedId data.attemptId "nattempt_" 12 || !validSha256 data.idempotencyKey)
      (.invalid "notification_delivery_attempt_started has an invalid attempt contract.")
  | .notificationDeliverySucceeded data => do
    validateNotificationIdentity data.approvalId data.requestId data.deliveryId
    failIf (!(5 ≤ v && v ≤ 11) || !(1 ≤ data.attempt && data.attempt ≤ 3) ||
        !validPrefixedId data.attemptId "nattempt_" 12 ||
        !validProviderMessage data.providerMessage)
      (.invalid "notification_delivery_succeeded has an invalid result contract.")
  | .notificationDeliveryFailed data => do
    validateNotificationIdentity data.approvalId data.requestId data.deliveryId
    data.failure.validate
    failIf (!(5 ≤ v && v ≤ 11) || !(1 ≤ data.attempt && data.attempt ≤ 3) ||
        !validPrefixedId data.attemptId "nattempt_" 12 ||
        (!data.final && (!data.failure.retryable || data.attempt = 3)) ||
        (data.failure.kind = "delivery_ambiguous" || data.failure.kind = "host_crashed") &&
          !data.final)
      (.invalid "notification_delivery_failed has an invalid retry/finality contract.")
  | .notificationDecisionAccepted data => do
    validateNotificationIdentity data.approvalId data.requestId data.deliveryId
    failIf (!(5 ≤ v && v ≤ 11) || !validProviderActor data.provider data.providerActorId)
      (.invalid "notification_decision_accepted has an invalid provider audit identity.")
  | .notificationMessageUpdateRequested data => do
    validateNotificationIdentity data.approvalId data.requestId data.deliveryId
    failIf (!(5 ≤ v && v ≤ 11) || !validPrefixedId data.updateId "nupdate_" 11)
      (.invalid "notification_message_update_requested has an invalid update identity.")
  | .notificationMessageUpdateAttemptStarted data | .notificationMessageUpdated data => do
    validateNotificationIdentity data.approvalId data.requestId data.deliveryId
    failIf (!(5 ≤ v && v ≤ 11) || !validPrefixedId data.updateId "nupdate_" 11 ||
        !(1 ≤ data.attempt && data.attempt ≤ 3) || !validPrefixedId data.attemptId "nattempt_" 12)
      (.invalid "Notification message-update attempt has an invalid identity.")
  | .notificationMessageUpdateFailed data => do
    validateNotificationIdentity data.approvalId data.requestId data.deliveryId
    data.failure.validate
    failIf (!(5 ≤ v && v ≤ 11) || !validPrefixedId data.updateId "nupdate_" 11 ||
        !(1 ≤ data.attempt && data.attempt ≤ 3) ||
        !validPrefixedId data.attemptId "nattempt_" 12 ||
        (!data.final && (!data.failure.retryable || data.attempt = 3)))
      (.invalid "notification_message_update_failed has an invalid retry/finality contract.")
  | .infrastructurePolicyDecisionRecorded data => validatePolicyDecision data
  | .operationStarted data => validateOperationBase v data
  | .operationSucceeded data => do
    validateOperationBase v data.toOperationStartedData
    failIf (!data.durationMs.isFinite || data.durationMs.isNegative ||
        8388608 < data.resultBytes || !validSha256 data.resultDigest)
      (.invalid "operation_succeeded has invalid duration, size, or digest fields.")
  | .operationFailed data => do
    validateOperationBase v data.toOperationStartedData
    failIf (!data.durationMs.isFinite || data.durationMs.isNegative)
      (.invalid "operation_failed requires a non-negative finite durationMs.")
    data.failure.validate.mapError .invalid
  | .runCancellationRequested data =>
    failIf (!(v = 10 || v = 11) || !validId data.requestId)
      (.invalid "run_cancellation_requested requires Event v10 and a valid requestId.")
  | .lifecycleHookRequested data =>
    failIf (!(v = 10 || v = 11) || !validSha256 data.hookInvocationId || !validId data.hookId ||
        !validId data.subject.id || data.event.isStep != (data.subject.kind = .step))
      (.invalid "lifecycle_hook_requested has an invalid Event v10 hook or subject identity.")
  | .lifecycleActionAttemptStarted data | .lifecycleActionSucceeded data =>
    failIf (!(v = 10 || v = 11) ||
        !validLifecycleActionIdentity data.hookInvocationId data.actionId data.attempt)
      (.invalid "Lifecycle action events require Event v10 and a valid attempt-1 identity.")
  | .lifecycleActionFailed data =>
    failIf (!(v = 10 || v = 11) ||
        !validLifecycleActionIdentity data.hookInvocationId data.actionId data.attempt ||
        !validLifecycleFailure data.failure)
      (.invalid "lifecycle_action_failed has an invalid Event v10 identity or safe failure.")
  | .lifecycleHookCompleted data =>
    failIf (!(v = 10 || v = 11) || !validSha256 data.hookInvocationId || 64 < data.failedActions ||
        (data.status = .completed && data.failedActions ≠ 0) ||
        (data.status = .completedWithWarnings && data.failedActions = 0))
      (.invalid "lifecycle_hook_completed has an invalid Event v10 completion summary.")
  | .reusableLifecycleRequested data =>
    failIf (v ≠ 13 || !validId data.invocationId || !validSha256 data.definitionDigest)
      (.invalid "reusable_lifecycle_requested has an invalid Event v13 identity.")
  | .reusableLifecycleActionStarted data =>
    failIf (v ≠ 13 || !validId data.invocationId || !validSha256 data.definitionDigest ||
        !validId data.actionId)
      (.invalid "reusable_lifecycle_action_started has an invalid Event v13 identity.")
  | .reusableLifecycleActionSucceeded data =>
    failIf (v ≠ 13 || !validId data.invocationId || !validSha256 data.definitionDigest ||
        !validId data.actionId || data.outcome ≠ .succeeded)
      (.invalid "reusable_lifecycle_action_succeeded has an invalid Event v13 outcome.")
  | .reusableLifecycleActionFailed data =>
    failIf (v ≠ 13 || !validId data.invocationId || !validSha256 data.definitionDigest ||
        !validId data.actionId || data.outcome ≠ .failed ||
        !Text.startsWith "WOML_" data.warningCode || 128 < data.warningCode.utf8ByteSize)
      (.invalid "reusable_lifecycle_action_failed has an invalid Event v13 warning.")
  | .reusableLifecycleCompleted data =>
    failIf (v ≠ 13 || !validId data.invocationId || !validSha256 data.definitionDigest ||
        data.outcome = .failed)
      (.invalid "reusable_lifecycle_completed has an invalid Event v13 outcome.")
  | .forEachOpened data =>
    failIf (!(v = 15 || v = 16) || event.iteration.isSome ||
        !validPublicStructuralId data.forEachId || 10000 < data.total ||
        !(1 ≤ data.concurrency && data.concurrency ≤ 64) || !validSha256 data.itemsDigest)
      (.invalid "for_each_opened has an invalid Event v15 identity or bounded input.")
  | .forEachIterationStarted data => validateForEachIterationEvent event data.forEachId
  | .forEachIterationSucceeded data => do
    validateForEachIterationEvent event data.forEachId
    failIf (data.result.isSome != data.resultDigest.isSome ||
        data.resultDigest.any (!validSha256 ·))
      (.invalid "for_each_iteration_succeeded requires a result and digest pair.")
  | .forEachIterationFailed data => do
    validateForEachIterationEvent event data.forEachId
    failIf (!validId data.failedNodeId)
      (.invalid "for_each_iteration_failed requires a valid failedNodeId.")
  | .forEachIterationSkipped data => validateForEachIterationEvent event data.forEachId
  | .forEachSucceeded data | .forEachFailed data | .forEachCancelled data =>
    failIf (!(v = 15 || v = 16) || event.iteration.isSome ||
        !validPublicStructuralId data.forEachId || 10000 < data.total ||
        (data.succeeded + data.failed + data.skipped) % 2 ^ 32 ≠ data.total ||
        !validSha256 data.aggregateDigest)
      (.invalid "for_each settlement does not match the bounded Event v15 contract.")
  | .waitRegistered data => validateWaitRegistered v now data
  | .externalSignalReceived data =>
    failIf (v ≠ 16 || !validId data.signalId || !validPublicStructuralId data.waitId ||
        !validSignalName data.signal || data.receivedAt ≠ now ||
        !validSha256 data.idempotencyDigest ||
        data.correlation.any (fun value =>
          value = "" || 256 < value.utf8ByteSize || !Text.isTrimmed value) ||
        data.authenticationClass.any (fun value => value = "" || 64 < value.utf8ByteSize) ||
        1048576 < Host.jsonBytes data.payload)
      (.invalid "external_signal_received does not match the bounded Event v16 contract.")
  | .waitSatisfied data =>
    failIf (v ≠ 16 || !validPublicStructuralId data.waitId || data.resolvedAt ≠ now ||
        !data.result.isObject || 1048576 < Host.jsonBytes data.result)
      (.invalid "wait_satisfied does not match the frozen Event v16 result contract.")
  | .waitTimedOut data =>
    failIf (v ≠ 16 || !validPublicStructuralId data.waitId || data.resolvedAt ≠ now ||
        data.resolvedAt < data.deadline)
      (.invalid "wait_timed_out does not match the frozen Event v16 timeout contract.")
  | .waitCancelled data =>
    failIf (v ≠ 16 || !validPublicStructuralId data.waitId || !validId data.cancellationId ||
        data.cancelledAt ≠ now)
      (.invalid "wait_cancelled does not match the frozen Event v16 cancellation contract.")
  | .lockWaitRegistered data =>
    failIf (v ≠ 17 || !validPublicStructuralId data.lockId || !validLockKey data.key ||
        data.waiterSequence = 0 || data.registeredAt ≠ now || data.deadline < data.registeredAt ||
        !validId data.executionIdentity)
      (.invalid "lock_wait_registered does not match the frozen Event v17 contract.")
  | .lockAcquired data =>
    failIf (v ≠ 17 || !validPublicStructuralId data.lockId || !validLockKey data.key ||
        !validPrefixedId data.leaseId "lease_" 7 || !validFencingToken data.fencingToken ||
        data.acquiredAt ≠ now || data.expiresAt ≤ data.acquiredAt ||
        !validId data.executionIdentity)
      (.invalid "lock_acquired does not match the frozen Event v17 contract.")
  | .lockReleased data =>
    failIf (v ≠ 17 || !validPublicStructuralId data.lockId || !validLockKey data.key ||
        !validPrefixedId data.leaseId "lease_" 7 || !validFencingToken data.fencingToken ||
        data.releasedAt ≠ now || !data.result.isObject || 1048576 < Host.jsonBytes data.result)
      (.invalid "lock_released does not match the frozen Event v17 contract.")
  | .lockAcquireTimedOut data =>
    failIf (v ≠ 17 || !validPublicStructuralId data.lockId || !validLockKey data.key ||
        data.resolvedAt ≠ now || data.resolvedAt < data.deadline)
      (.invalid "lock_acquire_timed_out does not match the frozen Event v17 contract.")
  | .lockAcquisitionCancelled data =>
    failIf (v ≠ 17 || !validPublicStructuralId data.lockId || !validLockKey data.key ||
        data.cancelledAt ≠ now || !validId data.cancellationId)
      (.invalid "lock_acquisition_cancelled does not match the frozen Event v17 contract.")
  | .lockLeaseLost data =>
    failIf (v ≠ 17 || !validPublicStructuralId data.lockId || !validLockKey data.key ||
        !validPrefixedId data.leaseId "lease_" 7 || !validFencingToken data.fencingToken ||
        data.detectedAt ≠ now || data.detectedAt < data.expiredAt)
      (.invalid "lock_lease_lost does not match the frozen Event v17 contract.")
  | .sagaStarted data | .sagaForwardSucceeded data | .sagaCorrectionCompleted data =>
    failIf (v ≠ 18 || !validPublicStructuralId data.sagaId)
      (.invalid "Saga lifecycle event does not match the frozen Event v18 contract.")
  | .compensationRegistered data =>
    failIf (!validCorrectionAction v data.sagaId data.actionId ||
        !validPublicStructuralId data.forStepId || data.completionSequence = 0)
      (.invalid "compensation_registered does not match the frozen Event v18 contract.")
  | .sagaCorrectionStarted data =>
    failIf (v ≠ 18 || !validPublicStructuralId data.sagaId)
      (.invalid "saga_correction_started does not match the frozen Event v18 contract.")
  | .correctionAttemptStarted data | .correctionAttemptSucceeded data =>
    failIf (!validCorrectionAttempt v data)
      (.invalid "Correction attempt identity does not match the frozen Event v18 contract.")
  | .correctionAttemptFailed data =>
    failIf (!validCorrectionAttempt v data.toCorrectionAttemptIdentityData ||
        !Text.startsWith "WOML_" data.code || 128 < data.code.utf8ByteSize)
      (.invalid "correction_attempt_failed does not match the frozen Event v18 contract.")
  | .correctionRetryScheduled data =>
    failIf (!validCorrectionAttempt v data.toCorrectionAttemptIdentityData || data.retryAt < now)
      (.invalid "correction_retry_scheduled does not match the frozen Event v18 contract.")
  | .correctionInterrupted data =>
    failIf (!validCorrectionAttempt v data.toCorrectionAttemptIdentityData)
      (.invalid "correction_interrupted does not match the frozen Event v18 contract.")
  | .manualRecoveryRequired data =>
    failIf (!validCorrectionAction v data.sagaId data.actionId ||
        !Text.startsWith "WOML_" data.code || 128 < data.code.utf8ByteSize)
      (.invalid "manual_recovery_required does not match the frozen Event v18 contract.")
  | .runOutcomeDecided data =>
    let valid :=
      match data with
      | .succeeded _ => true
      | .failed failure => validLifecycleFailure failure
      | .cancelled cancellationRequestId => validId cancellationRequestId
    failIf (!(v = 10 || v = 11) || !valid)
      (.invalid "run_outcome_decided has an invalid Event v10 outcome payload.")
  | .runFinalized data =>
    let warningsValid := data.warnings.length ≤ 128 && data.warnings.all validWarning
    failIf (!(v = 10 || v = 11) || !warningsValid ||
        (data.lifecycleStatus = .completed && !data.warnings.isEmpty) ||
        (data.lifecycleStatus = .completedWithWarnings && data.warnings.isEmpty))
      (.invalid "run_finalized has an invalid Event v10 lifecycle summary.")
  | .runSucceeded data =>
    failIf (v = 10 || v = 11 || !validId data.terminalNodeId)
      (.invalid "run_succeeded requires a valid terminalNodeId.")
  | .runFailed data => validateRunFailed v data

/-! ## Version inheritance -/

/-- What the checks on the schema version say about an event: its payload is checked here, or the
event is checked as one of an earlier version, or it is refused. -/
inductive Inheritance
  | here
  | as (event : RunEvent)
  | refused (error : EventValidationError)

def RunEvent.withVersion (event : RunEvent) (v : Nat) : RunEvent :=
  { event with eventSchemaVersion := v }

/-- The version steps of `validate`, in the source's order. -/
def RunEvent.inherit (event : RunEvent) : Inheritance :=
  let v := event.eventSchemaVersion
  let p := event.payload
  let badScope := event.iteration.any invalidScope
  if v = 20 ∧ !p.isRemoteDispatch then .as (event.withVersion 19)
  else if v = 20 ∧ badScope then
    .refused (.invalid "Event v20 remote dispatch iteration scope is invalid.")
  else if v = 19 ∧ !p.isRichApproval then .as (event.withVersion 18)
  else if v = 19 ∧ event.iteration.isSome then
    .refused (.invalid "Rich approval events cannot carry an iteration scope in Event v19.")
  else if v = 18 ∧ !p.isCorrection then .as (event.withVersion 17)
  else if v = 18 ∧ event.iteration.isSome ∧ !p.isCompensationRegistered then
    .refused (.invalid "Only compensation_registered may carry an iteration scope in Event v18.")
  else if v = 17 ∧ !p.isLock then .as (event.withVersion 16)
  else if v = 17 ∧ badScope then
    .refused (.invalid "Event v17 lock iteration scope is invalid.")
  else if v = 16 ∧ !p.isWait then .as (event.withVersion 15)
  else if v = 16 ∧ badScope then
    .refused (.invalid "Event v16 durable-wait iteration scope is invalid.")
  else if v = 15 ∧ !p.isLoop then
    if event.iteration.isSome ∧ (!p.isScopedWork || badScope) then
      .refused (.invalid "Event v15 iteration scope is invalid for this loop-owned payload.")
    else .as { event with eventSchemaVersion := 14, iteration := none }
  else if !(v = 15 || v = 16 || v = 17 || v = 18 || v = 20) ∧ event.iteration.isSome then
    .refused (.invalid
      "Iteration scope is available only in Event v15 or a compatible later schema.")
  else if v = 14 then .as (event.withVersion 13)
  else if v = 13 ∧ !p.isReusableLifecycle then .as (event.withVersion 12)
  else if v = 12 ∧ !p.isChoiceOrFork then .as (event.withVersion 11)
  else .here

/-- `validate` with a bound on the number of inherited versions. -/
def RunEvent.validateWith : Nat → RunEvent → Except EventValidationError Unit
  | fuel, event => do
    failIf (!(1 ≤ event.eventSchemaVersion && event.eventSchemaVersion ≤ 20))
      (.unsupportedSchemaVersion event.eventSchemaVersion)
    failIf (!validId event.eventId || !validId event.runId || event.sequence = 0)
      (.invalid "Run events require valid eventId, runId, and sequence >= 1.")
    match fuel, event.inherit with
    | _, .here => event.validatePayload
    | _, .refused error => .error error
    | 0, .as _ => .error (.unsupportedSchemaVersion event.eventSchemaVersion)
    | fuel + 1, .as inherited => validateWith fuel inherited

/-- Every inherited event is one version older and versions start at 1, so twenty steps are
enough. -/
def RunEvent.validate (event : RunEvent) : Except EventValidationError Unit := event.validateWith 20

end Woml
