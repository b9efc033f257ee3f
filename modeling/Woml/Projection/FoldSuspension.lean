import Woml.Projection.FoldRun

/-!
# Fold handlers: waits, locks, approvals and notifications

The events that suspend a run and resume it. A registered wait, a lock waiter and an approval
request each turn the run-level status to `waiting`; the handlers that settle them differ in the
status they require and in the one they leave.
-/

namespace Woml

open Checked

/-! ## Durable waits -/

def registeredWait (data : WaitRegisteredData) : DurableWaitProjection where
  waitId := data.waitId
  nodeId := data.nodeId
  kind := data.kind
  registeredAt := data.registeredAt
  deadline := data.deadline
  signals := data.signals.getD []
  correlationDigest := data.correlationDigest
  status := .registered
  resolvedAt := none

def applyWaitRegistered (p : RunProjection) (data : WaitRegisteredData) :
    Except FoldError RunProjection := do
  requireRunning p
  failIf (p.durableWaits.contains data.waitId)
    (.invalidHistory s!"Durable wait {Text.quote data.waitId} was registered more than once.")
  .ok { p with
    durableWaits := p.durableWaits.insert data.waitId (registeredWait data)
    status := .waiting }

def applyExternalSignalReceived (p : RunProjection) (data : ExternalSignalReceivedData) :
    Except FoldError RunProjection := do
  failIf (p.status ≠ .waiting)
    (.invalidHistory "external_signal_received requires a waiting run.")
  let wait ← orFail (p.durableWaits.get? data.waitId)
    (.invalidHistory "External signal references an unregistered durable wait.")
  failIf (wait.status ≠ .registered ∨ !wait.signals.contains data.signal ∨
      p.externalSignals.any fun signal =>
        signal.idempotencyDigest = data.idempotencyDigest || signal.signalId = data.signalId)
    (.invalidHistory "External signal does not match one unresolved durable wait.")
  .ok { p with externalSignals := p.externalSignals ++ [data] }

/-- The event may be the winner of the wait: a timer past its deadline, or a recorded signal. -/
def waitWinnerMatches (p : RunProjection) (wait : DurableWaitProjection)
    (data : WaitSatisfiedData) : Bool :=
  match data.winner with
  | .timer => wait.kind ≠ .signal && wait.deadline.any (· ≤ data.resolvedAt)
  | .signal => p.externalSignals.any fun signal =>
      signal.waitId = data.waitId && signal.receivedAt ≤ data.resolvedAt

def applyWaitSatisfied (p : RunProjection) (data : WaitSatisfiedData) :
    Except FoldError RunProjection := do
  failIf (p.status ≠ .waiting) (.invalidHistory "wait_satisfied requires a waiting run.")
  let wait ← orFail (p.durableWaits.get? data.waitId)
    (.invalidHistory "wait_satisfied has no registered wait.")
  failIf (wait.status ≠ .registered ∨ !waitWinnerMatches p wait data)
    (.invalidHistory "wait_satisfied does not resolve the active wait exactly once.")
  .ok { p with
    durableWaits := p.durableWaits.insert data.waitId
      { wait with status := .satisfied data.winner, resolvedAt := some data.resolvedAt }
    context := { p.context with steps := p.context.steps.insert data.waitId data.result }
    status := .running }

def applyWaitTimedOut [Host] (p : RunProjection) (data : WaitTimedOutData) :
    Except FoldError RunProjection := do
  failIf (p.status ≠ .waiting) (.invalidHistory "wait_timed_out requires a waiting run.")
  let wait ← orFail (p.durableWaits.get? data.waitId)
    (.invalidHistory "wait_timed_out has no registered wait.")
  failIf (wait.status ≠ .registered ∨ wait.kind ≠ .signal ∨ wait.deadline ≠ some data.deadline)
    (.invalidHistory "wait_timed_out does not close the active signal wait.")
  let steps :=
    if data.behavior = .continue then
      p.context.steps.insert data.waitId (.object
        [("status", .string "timed_out"),
          ("deadline", .string (Host.rfc3339Millis data.deadline)),
          ("resumedAt", .string (Host.rfc3339Millis data.resolvedAt))])
    else p.context.steps
  .ok { p with
    durableWaits := p.durableWaits.insert data.waitId
      { wait with status := .timedOut data.behavior, resolvedAt := some data.resolvedAt }
    context := { p.context with steps }
    status := .running }

def applyWaitCancelled (p : RunProjection) (data : WaitCancelledData) :
    Except FoldError RunProjection := do
  let wait ← orFail (p.durableWaits.get? data.waitId)
    (.invalidHistory "wait_cancelled has no registered wait.")
  failIf (wait.status ≠ .registered ∨ (p.status ≠ .waiting ∧ p.status ≠ .cancelling))
    (.invalidHistory "wait_cancelled does not close one active wait.")
  .ok { p with
    durableWaits := p.durableWaits.insert data.waitId
      { wait with status := .cancelled, resolvedAt := some data.cancelledAt } }

/-! ## Locks -/

def registeredLock (data : LockWaitRegisteredData) : LockProjection where
  lockId := data.lockId
  key := data.key
  waiterSequence := data.waiterSequence
  executionIdentity := data.executionIdentity
  registeredAt := data.registeredAt
  deadline := data.deadline
  status := .waiting
  leaseId := none
  fencingToken := none
  acquiredAt := none
  expiresAt := none
  resolvedAt := none

/-- The lock is held under the lease that an event names. -/
def LockProjection.isHeldAs (lock : LockProjection) (key leaseId fencingToken : String) : Bool :=
  lock.status = .held && lock.key = key && lock.leaseId = some leaseId &&
    lock.fencingToken = some fencingToken

def LockProjection.acquire (lock : LockProjection) (data : LockAcquiredData) : LockProjection :=
  { lock with
    status := .held
    leaseId := some data.leaseId
    fencingToken := some data.fencingToken
    acquiredAt := some data.acquiredAt
    expiresAt := some data.expiresAt }

def applyLockWaitRegistered (p : RunProjection) (data : LockWaitRegisteredData) :
    Except FoldError RunProjection := do
  requireRunning p
  failIf (p.locks.contains data.lockId)
    (.invalidHistory s!"Lock {Text.quote data.lockId} was registered more than once.")
  .ok { p with
    locks := p.locks.insert data.lockId (registeredLock data)
    status := .waiting }

def applyLockAcquired (p : RunProjection) (data : LockAcquiredData) :
    Except FoldError RunProjection := do
  failIf (p.status ≠ .waiting) (.invalidHistory "lock_acquired requires a waiting run.")
  let lock ← orFail (p.locks.get? data.lockId)
    (.invalidHistory "lock_acquired has no registered waiter.")
  failIf (lock.status ≠ .waiting ∨ lock.key ≠ data.key ∨
      lock.executionIdentity ≠ data.executionIdentity)
    (.invalidHistory "lock_acquired does not match the active waiter.")
  .ok { p with locks := p.locks.insert data.lockId (lock.acquire data), status := .running }

def applyLockReleased (p : RunProjection) (data : LockReleasedData) :
    Except FoldError RunProjection := do
  requireRunningOrCancelling p
  let lock ← orFail (p.locks.get? data.lockId)
    (.invalidHistory "lock_released has no acquired lease.")
  failIf (!lock.isHeldAs data.key data.leaseId data.fencingToken)
    (.invalidHistory "lock_released does not match the held lease.")
  .ok { p with
    locks := p.locks.insert data.lockId
      { lock with status := .released, resolvedAt := some data.releasedAt }
    context := { p.context with steps := p.context.steps.insert data.lockId data.result }
    status := .running }

def applyLockAcquireTimedOut (p : RunProjection) (data : LockAcquireTimedOutData) :
    Except FoldError RunProjection := do
  let lock ← orFail (p.locks.get? data.lockId)
    (.invalidHistory "lock_acquire_timed_out has no waiter.")
  failIf (lock.status ≠ .waiting ∨ lock.key ≠ data.key ∨ lock.deadline ≠ data.deadline)
    (.invalidHistory "lock_acquire_timed_out does not match the active waiter.")
  .ok { p with
    locks := p.locks.insert data.lockId
      { lock with status := .acquireTimedOut, resolvedAt := some data.resolvedAt }
    status := .running }

def applyLockAcquisitionCancelled (p : RunProjection) (data : LockAcquisitionCancelledData) :
    Except FoldError RunProjection := do
  let lock ← orFail (p.locks.get? data.lockId)
    (.invalidHistory "lock_acquisition_cancelled has no waiter.")
  failIf (lock.status ≠ .waiting ∨ lock.key ≠ data.key)
    (.invalidHistory "lock_acquisition_cancelled does not match the active waiter.")
  .ok { p with
    locks := p.locks.insert data.lockId
      { lock with status := .acquisitionCancelled, resolvedAt := some data.cancelledAt } }

def applyLockLeaseLost (p : RunProjection) (data : LockLeaseLostData) :
    Except FoldError RunProjection := do
  let lock ← orFail (p.locks.get? data.lockId)
    (.invalidHistory "lock_lease_lost has no acquired lease.")
  failIf (!lock.isHeldAs data.key data.leaseId data.fencingToken)
    (.invalidHistory "lock_lease_lost does not match the held lease.")
  .ok { p with
    locks := p.locks.insert data.lockId
      { lock with status := .leaseLost, resolvedAt := some data.detectedAt }
    status := .running }

/-! ## Approvals -/

def applyApprovalRequested (p : RunProjection) (event : RunEvent) (data : ApprovalRequestedData) :
    Except FoldError RunProjection := do
  requireRunning p
  failIf (p.approvalRequests.contains data.approvalId)
    (.invalidHistory s!"Approval {Text.quote data.approvalId} was requested more than once.")
  failIf (p.approvalRequests.values.any (·.requestId = data.requestId))
    (.invalidHistory s!"Approval request ID {Text.quote data.requestId} appears more than once.")
  let request : ApprovalRequestProjection :=
    { approvalId := data.approvalId
      requestId := data.requestId
      requestedAt := event.occurredAt
      expiresAt := data.expiresAt
      onTimeout := data.onTimeout
      status := .waiting }
  .ok { p with
    approvalRequests := p.approvalRequests.insert data.approvalId request
    status := .waiting }

def applyApprovalReviewRequested (p : RunProjection) (event : RunEvent)
    (data : ApprovalReviewRequestedData) : Except FoldError RunProjection := do
  requireRunning p
  failIf (p.richApprovalRequests.contains data.approvalId ∨
      p.richApprovalRequests.values.any (·.requestId = data.requestId))
    (.invalidHistory "A rich approval request identity appears more than once.")
  let request : RichApprovalRequestProjection :=
    { approvalId := data.approvalId
      requestId := data.requestId
      reviewDigest := data.reviewDigest
      directoryVersion := data.directoryVersion
      required := data.required
      requiredRoles := data.requiredRoles
      representedRoles := []
      requestedAt := event.occurredAt
      resolvedAt := none
      status := .waiting
      decisions := .empty }
  .ok { p with
    richApprovalRequests := p.richApprovalRequests.insert data.approvalId request
    status := .waiting }

/-- The request is pending and the event names its immutable review. -/
def RichApprovalRequestProjection.isPendingAs (request : RichApprovalRequestProjection)
    (requestId reviewDigest : String) : Bool :=
  request.status = .waiting && request.requestId = requestId && request.reviewDigest = reviewDigest

def applyApprovalReviewerDecisionRecorded (p : RunProjection) (event : RunEvent)
    (data : ApprovalReviewerDecisionRecordedData) : Except FoldError RunProjection := do
  let request ← orFail (p.richApprovalRequests.get? data.approvalId)
    (.invalidHistory "A reviewer decision references an unknown rich approval.")
  failIf (p.status ≠ .waiting ∨ !request.isPendingAs data.requestId data.reviewDigest ∨
      request.decisions.contains data.principalId)
    (.invalidHistory "A reviewer decision does not match one pending immutable review.")
  let decision : RichApprovalReviewerDecisionProjection :=
    ⟨data.principalId, data.decision, event.occurredAt⟩
  .ok { p with
    richApprovalRequests := p.richApprovalRequests.insert data.approvalId
      { request with decisions := request.decisions.insert data.principalId decision } }

def applyApprovalQuorumProgressed (p : RunProjection) (data : ApprovalQuorumProgressedData) :
    Except FoldError RunProjection := do
  let request ← orFail (p.richApprovalRequests.get? data.approvalId)
    (.invalidHistory "Quorum progress references an unknown rich approval.")
  let approved := (request.decisions.values.filter (·.decision = .approved)).length
  failIf (!request.isPendingAs data.requestId data.reviewDigest ∨
      request.required ≠ data.required ∨ request.requiredRoles ≠ data.requiredRoles ∨
      approved ≠ data.received)
    (.invalidHistory "Quorum progress is not derived from the durable rich approval history.")
  .ok { p with
    richApprovalRequests := p.richApprovalRequests.insert data.approvalId
      { request with representedRoles := data.representedRoles } }

def ApprovalDecision.text : ApprovalDecision → String
  | approved => "approved"
  | rejected => "rejected"

def ApprovalDecisionSource.text : ApprovalDecisionSource → String
  | human => "human"
  | timeout => "timeout"

def RichApprovalResolutionReason.status : RichApprovalResolutionReason → RichApprovalRequestStatus
  | quorum => .approved
  | rejection => .rejected
  | timeout => .expired
  | cancellation => .cancelled
  | artifactInvalidated => .invalidated

section
variable [Host]

/-- The step output of a resolved rich approval. -/
def richApprovalOutput (event : RunEvent) (request : RichApprovalRequestProjection)
    (decision : ApprovalDecision) (received : Nat) : Value :=
  .object
    [("decision", .string decision.text), ("source", .string "human"),
      ("decidedAt", .string (Host.rfc3339Millis event.occurredAt)),
      ("review", .object [("digest", .string request.reviewDigest)]),
      ("authority", .object
        [("required", .number (.posInt request.required)),
          ("received", .number (.posInt received)),
          ("requiredRoles", .array (request.requiredRoles.map .string))])]

def applyRichApprovalResolved (p : RunProjection) (event : RunEvent)
    (data : ApprovalResolvedData) : Except FoldError RunProjection := do
  let request ← orFail (p.richApprovalRequests.get? data.approvalId)
    (.invalidHistory "A rich approval resolved before its review was requested.")
  let decision ← orFail data.decision
    (.invalidHistory "A rich approval resolution has no decision.")
  let cancellationResolution := data.reason = some .cancellation ∧ p.status = .cancelling
  failIf ((p.status ≠ .waiting ∧ ¬cancellationResolution) ∨ request.status ≠ .waiting ∨
      request.requestId ≠ data.requestId ∨ data.reviewDigest ≠ some request.reviewDigest ∨
      data.required ≠ some request.required ∨ data.requiredRoles ≠ some request.requiredRoles)
    (.invalidHistory "A rich approval resolution does not match its pending immutable review.")
  let reason ← orFail data.reason
    (.invalidHistory "A rich approval resolution has no reason.")
  let output := richApprovalOutput event request decision (data.received.getD 0)
  .ok { p with
    richApprovalRequests := p.richApprovalRequests.insert data.approvalId
      { request with
        representedRoles := data.representedRoles.getD []
        status := reason.status
        resolvedAt := some event.occurredAt }
    context := { p.context with steps := p.context.steps.insert data.approvalId output }
    status := if cancellationResolution then .cancelling else .running }

/-- A basic resolution agrees with the request's deadline and timeout policy. -/
def requireResolutionInTime (request : ApprovalRequestProjection) (occurredAt : DateTime)
    (approvalId : String) (resolution : ApprovalResolution) : Except FoldError Unit :=
  let expired := request.expiresAt.any (· ≤ occurredAt)
  let mismatch : Except FoldError Unit :=
    .error (.invalidHistory (s!"Approval {Text.quote approvalId} resolution does not match its " ++
      "deadline and timeout policy."))
  match resolution with
  | .decision _ .human =>
    failIf expired
      (.invalidHistory (s!"Human decision for approval {Text.quote approvalId} occurred at or " ++
        "after its deadline."))
  | .decision .rejected .timeout =>
    if request.onTimeout = .reject ∧ expired then .ok () else mismatch
  | .timeoutFailure => if request.onTimeout = .fail ∧ expired then .ok () else mismatch
  | .decision .approved .timeout => mismatch

def applyBasicApprovalResolved (p : RunProjection) (event : RunEvent)
    (data : ApprovalResolvedData) : Except FoldError RunProjection := do
  failIf (p.status ≠ .waiting) (.invalidHistory "approval_resolved requires a waiting run.")
  let request ← orFail (p.approvalRequests.get? data.approvalId)
    (.invalidHistory s!"Approval {Text.quote data.approvalId} resolved before it was requested.")
  failIf (request.requestId ≠ data.requestId) (.invalidHistory
      s!"Approval {Text.quote data.approvalId} resolved with a mismatched request ID.")
  failIf (request.status ≠ .waiting)
    (.invalidHistory s!"Approval {Text.quote data.approvalId} was resolved more than once.")
  let resolution ← orFail data.resolution
    (.invalidHistory "A basic approval resolution is missing.")
  requireResolutionInTime request event.occurredAt data.approvalId resolution
  let steps :=
    match resolution with
    | .decision decision source =>
      p.context.steps.insert data.approvalId (.object
        [("decision", .string decision.text), ("source", .string source.text),
          ("decidedAt", .string (Host.rfc3339Millis event.occurredAt))])
    | .timeoutFailure => p.context.steps
  .ok { p with
    approvalRequests := p.approvalRequests.insert data.approvalId
      { request with status := .resolved resolution event.occurredAt }
    context := { p.context with steps }
    status := .running }

def applyApprovalResolved (p : RunProjection) (event : RunEvent) (data : ApprovalResolvedData) :
    Except FoldError RunProjection :=
  if data.isRich then applyRichApprovalResolved p event data
  else applyBasicApprovalResolved p event data

end

/-- The invalidation records why the review can no longer be authorized; the resolution that
follows closes the request. -/
def applyApprovalInvalidated (p : RunProjection) (data : ApprovalInvalidatedData) :
    Except FoldError RunProjection := do
  let request ← orFail (p.richApprovalRequests.get? data.approvalId)
    (.invalidHistory "An invalidation references an unknown rich approval.")
  failIf (p.status ≠ .waiting ∨ !request.isPendingAs data.requestId data.reviewDigest)
    (.invalidHistory "An invalidation does not match one pending immutable review.")
  .ok p

/-! ## Notification deliveries -/

/-- The attempt runs under the identity that an event names. -/
def NotificationDeliveryStatus.isAttempt (status : NotificationDeliveryStatus) (attempt : Nat)
    (attemptId : String) : Bool :=
  match status with
  | .attemptStarted n id _ => n = attempt && id = attemptId
  | _ => false

def NotificationDeliveryStatus.isSucceeded : NotificationDeliveryStatus → Bool
  | .succeeded .. => true
  | _ => false

/-- The number of the next attempt of a delivery, 0 when there is none. -/
def NotificationDeliveryStatus.nextAttempt : NotificationDeliveryStatus → Nat
  | .requested => 1
  | .failed attempt _ false failure _ => if failure.retryable then attempt + 1 else 0
  | _ => 0

def applyNotificationDeliveryRequested (p : RunProjection)
    (data : NotificationDeliveryRequestedData) : Except FoldError RunProjection := do
  failIf (p.status ≠ .waiting)
    (.invalidHistory "notification_delivery_requested requires a waiting approval.")
  let request ← orFail (p.approvalRequests.get? data.approvalId)
    (.invalidHistory "Notification delivery references an unknown approval.")
  failIf (request.requestId ≠ data.requestId ∨ request.status ≠ .waiting ∨
      p.notificationDeliveries.contains data.deliveryId)
    (.invalidHistory "Notification delivery intent does not match the active approval request.")
  let delivery : NotificationDeliveryProjection :=
    { approvalId := data.approvalId
      requestId := data.requestId
      deliveryId := data.deliveryId
      provider := data.provider
      destination := data.destination
      status := .requested }
  .ok { p with
    notificationDeliveries := p.notificationDeliveries.insert data.deliveryId delivery }

def applyNotificationDeliveryAttemptStarted (p : RunProjection)
    (data : NotificationDeliveryAttemptStartedData) : Except FoldError RunProjection := do
  failIf (p.status ≠ .waiting)
    (.invalidHistory "Notification delivery attempts require a waiting approval.")
  let delivery ← orFail (p.notificationDeliveries.get? data.deliveryId)
    (.invalidHistory "Notification attempt started before its durable intent.")
  failIf (delivery.approvalId ≠ data.approvalId ∨ delivery.requestId ≠ data.requestId)
    (.invalidHistory "Notification attempt identity does not match its intent.")
  failIf (data.attempt ≠ delivery.status.nextAttempt)
    (.invalidHistory "Notification attempt is duplicated or out of order.")
  .ok { p with
    notificationDeliveries := p.notificationDeliveries.insert data.deliveryId
      { delivery with
        status := .attemptStarted data.attempt data.attemptId data.idempotencyKey } }

def applyNotificationDeliverySucceeded (p : RunProjection)
    (data : NotificationDeliverySucceededData) : Except FoldError RunProjection := do
  let delivery ← orFail (p.notificationDeliveries.get? data.deliveryId)
    (.invalidHistory "Notification success has no durable intent.")
  failIf (!delivery.status.isAttempt data.attempt data.attemptId)
    (.invalidHistory "Notification success does not close its active attempt.")
  .ok { p with
    notificationDeliveries := p.notificationDeliveries.insert data.deliveryId
      { delivery with status := .succeeded data.attempt data.attemptId data.providerMessage } }

def applyNotificationDeliveryFailed (p : RunProjection) (event : RunEvent)
    (data : NotificationDeliveryFailedData) : Except FoldError RunProjection := do
  let delivery ← orFail (p.notificationDeliveries.get? data.deliveryId)
    (.invalidHistory "Notification failure has no durable intent.")
  failIf (!delivery.status.isAttempt data.attempt data.attemptId)
    (.invalidHistory "Notification failure does not close its active attempt.")
  .ok { p with
    notificationDeliveries := p.notificationDeliveries.insert data.deliveryId
      { delivery with
        status := .failed data.attempt data.attemptId data.final data.failure event.occurredAt } }

def applyNotificationDecisionAccepted (p : RunProjection)
    (data : NotificationDecisionAcceptedData) : Except FoldError RunProjection := do
  failIf (p.status ≠ .waiting ∨ !p.notificationDecisions.isEmpty)
    (.invalidHistory "Only one notification decision may be accepted while waiting.")
  let delivery ← orFail (p.notificationDeliveries.get? data.deliveryId)
    (.invalidHistory "Notification decision references an unknown delivery.")
  failIf (delivery.approvalId ≠ data.approvalId ∨ delivery.requestId ≠ data.requestId ∨
      !delivery.status.isSucceeded)
    (.invalidHistory
      "Notification decision requires a successful delivery for the active request.")
  .ok { p with notificationDecisions := p.notificationDecisions ++ [data] }

/-! ## Notification message updates -/

def NotificationMessageUpdateStatus.isAttempt (status : NotificationMessageUpdateStatus)
    (attempt : Nat) (attemptId : String) : Bool :=
  match status with
  | .attemptStarted n id => n = attempt && id = attemptId
  | _ => false

def NotificationMessageUpdateStatus.nextAttempt : NotificationMessageUpdateStatus → Nat
  | .requested => 1
  | .failed attempt _ false failure _ => if failure.retryable then attempt + 1 else 0
  | _ => 0

def applyNotificationMessageUpdateRequested (p : RunProjection)
    (data : NotificationMessageUpdateRequestedData) : Except FoldError RunProjection := do
  failIf (p.status ≠ .running)
    (.invalidHistory "Message update work requires a resolved approval.")
  let delivery ← orFail (p.notificationDeliveries.get? data.deliveryId)
    (.invalidHistory "Message update references an unknown delivery.")
  failIf (delivery.approvalId ≠ data.approvalId ∨ delivery.requestId ≠ data.requestId ∨
      !delivery.status.isSucceeded ∨ p.notificationUpdates.contains data.deliveryId)
    (.invalidHistory "Message update intent does not match a successful delivery.")
  let update : NotificationMessageUpdateProjection :=
    { approvalId := data.approvalId
      requestId := data.requestId
      deliveryId := data.deliveryId
      updateId := data.updateId
      resolution := data.resolution
      status := .requested }
  .ok { p with notificationUpdates := p.notificationUpdates.insert data.deliveryId update }

def applyNotificationMessageUpdateAttemptStarted (p : RunProjection)
    (data : NotificationMessageUpdateAttemptStartedData) : Except FoldError RunProjection := do
  let update ← orFail (p.notificationUpdates.get? data.deliveryId)
    (.invalidHistory "Message update attempt started before its intent.")
  failIf (update.updateId ≠ data.updateId ∨ data.attempt ≠ update.status.nextAttempt)
    (.invalidHistory "Message update attempt is duplicated or out of order.")
  .ok { p with
    notificationUpdates := p.notificationUpdates.insert data.deliveryId
      { update with status := .attemptStarted data.attempt data.attemptId } }

def applyNotificationMessageUpdated (p : RunProjection)
    (data : NotificationMessageUpdateAttemptStartedData) : Except FoldError RunProjection := do
  let update ← orFail (p.notificationUpdates.get? data.deliveryId)
    (.invalidHistory "Message update success has no intent.")
  failIf (!update.status.isAttempt data.attempt data.attemptId)
    (.invalidHistory "Message update success does not close its attempt.")
  .ok { p with
    notificationUpdates := p.notificationUpdates.insert data.deliveryId
      { update with status := .updated data.attempt data.attemptId } }

def applyNotificationMessageUpdateFailed (p : RunProjection) (event : RunEvent)
    (data : NotificationMessageUpdateFailedData) : Except FoldError RunProjection := do
  let update ← orFail (p.notificationUpdates.get? data.deliveryId)
    (.invalidHistory "Message update failure has no intent.")
  failIf (!update.status.isAttempt data.attempt data.attemptId)
    (.invalidHistory "Message update failure does not close its attempt.")
  .ok { p with
    notificationUpdates := p.notificationUpdates.insert data.deliveryId
      { update with
        status := .failed data.attempt data.attemptId data.final data.failure event.occurredAt } }

end Woml
