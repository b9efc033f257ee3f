import Woml.Host
import Woml.Projection.State

/-!
# Fold handlers: run, attempts and operations

What each event of the run's own life, of step attempts and of operations does to the projection.
A handler returns the new projection or the error of the first check that fails.
-/

namespace Woml

open Checked

/-- Attempts by identity: the position of the attempt in `RunProjection.attempts`. -/
abbrev AttemptIndexes := List (AttemptIdentity × Nat)

/-! ## Guards -/

def requireRunning (p : RunProjection) : Except FoldError Unit :=
  failIf (p.status ≠ .running)
    (.invalidHistory "A run must be started and nonterminal before attempt or terminal events.")

def requireRunningOrCancelling (p : RunProjection) : Except FoldError Unit :=
  failIf (p.status ≠ .running ∧ p.status ≠ .cancelling)
    (.invalidHistory "An attempt may only settle while its run is running or cancelling.")

def requireOperationSettlement (p : RunProjection) : Except FoldError Unit :=
  failIf (p.status ≠ .running ∧ p.status ≠ .cancelling ∧ p.status ≠ .finalizing)
    (.invalidHistory "An operation may only settle for an active or finalizing run.")

def validateOperationTerminalIdentity (started : OperationProjection)
    (data : OperationStartedData) : Except FoldError Unit := do
  failIf (!started.status.isStarted)
    (.invalidHistory "An operation may have at most one terminal event.")
  failIf (started.nodeId ≠ data.nodeId ∨ started.attemptNumber ≠ data.attemptNumber ∨
      started.operationKey ≠ data.operationKey ∨ started.capability ≠ data.capability ∨
      started.operation ≠ data.operation ∨ started.executionMode ≠ data.executionMode)
    (.invalidHistory "Terminal operation identity does not match operation_started.")

/-- The attempt a `run_failed` event blames has failed. -/
def requireFailedAttempt (p : RunProjection) (indexes : AttemptIndexes) (nodeId : String)
    (attempt : Nat) (invocationId : String) : Except FoldError Unit := do
  let index ← orFail (indexes.lookup ⟨nodeId, attempt, invocationId⟩)
    (.invalidHistory s!"run_failed references unknown attempt {Text.quote invocationId}.")
  failIf (!(p.attempts[index]?.any (·.status.isFailed))) (.invalidHistory
      s!"run_failed references attempt {Text.quote invocationId} before it failed.")

/-! ## Corrective attempts in flight -/

section
variable [Host]

/-- The stable identity of a corrective attempt. -/
def correctionInvocationId (runId sagaId actionId : String) (attempt : Nat) : String :=
  "corr_" ++ Host.sha256
    (utf8 "woml:correction-invocation:v1" ++ [0] ++ utf8 runId ++ [0] ++ utf8 sagaId ++ [0] ++
      utf8 actionId ++ [0] ++ u32BeBytes attempt)

/-- The corrective action of a saga that runs under the given attempt identity. -/
def activeCorrection (p : RunProjection) (nodeId : String) (attempt : Nat)
    (invocationId : String) : Option CorrectionActionProjection := do
  let runId ← p.runId
  p.sagas.values.findSome? fun saga => do
    let action ← saga.actions.get? nodeId
    if (saga.phase = .correcting ∨ saga.phase = .manualRecovery) ∧ action.status = .started ∧
        action.activeAttempt = some attempt ∧
        correctionInvocationId runId saga.sagaId nodeId attempt = invocationId then
      some action
    else none

def requireActiveOperationAttempt (p : RunProjection) (data : OperationStartedData) :
    Except FoldError Unit :=
  failIf (!(p.attempts.any (fun attempt =>
        attempt.identity = ⟨data.nodeId, data.attemptNumber, data.invocationId⟩ &&
          attempt.status.isStarted) ||
      p.lifecycleHooks.values.any (fun hook =>
        (hook.actions.get? data.nodeId).any fun action =>
          action.attempt = data.attemptNumber && action.status = .started) ||
      (activeCorrection p data.nodeId data.attemptNumber data.invocationId).isSome))
    (.invalidHistory ("An operation event requires its matching active step, lifecycle, or " ++
      "corrective attempt."))

def requireOperationRuntime (p : RunProjection) (data : OperationStartedData) :
    Except FoldError Unit :=
  failIf (p.status ≠ .running ∧ p.status ≠ .finalizing ∧ ¬(p.status = .cancelling ∧
        (activeCorrection p data.nodeId data.attemptNumber data.invocationId).isSome))
    (.invalidHistory "An operation requires a running or lifecycle-finalizing run.")

end

/-! ## The run -/

def applyRunAdmitted (p : RunProjection) (event : RunEvent) (data : RunAdmittedData) :
    Except FoldError RunProjection := do
  failIf (p.lastSequence ≠ 0 ∨ p.status ≠ .notStarted)
    (.invalidHistory "run_admitted must be the first and only admission event.")
  .ok { p with
    runId := some event.runId
    eventSchemaVersion := some event.eventSchemaVersion
    definitionHash := some data.definitionHash
    policyHash := some data.policyHash
    triggerId := some data.trigger.id
    triggerHandler := some data.trigger.handler
    context := { p.context with trigger := data.payload }
    queue := some data.queue.name
    occurrenceSequence := some data.occurrenceSequence
    admittedAt := some data.admittedAt
    status := .queued }

def applyRunExecutionStarted (p : RunProjection) (data : RunExecutionStartedData) :
    Except FoldError RunProjection := do
  failIf (p.status ≠ .queued ∨ p.startedAt.isSome)
    (.invalidHistory "run_execution_started requires one queued admission.")
  .ok { p with startedAt := some data.startedAt, timeoutAt := data.timeoutAt, status := .running }

def applyRunTimeoutReached (p : RunProjection) (data : RunTimeoutReachedData) :
    Except FoldError RunProjection := do
  failIf ((p.status ≠ .running ∧ p.status ≠ .waiting) ∨ p.timeoutAt ≠ some data.deadlineAt ∨
      p.timeoutReachedAt.isSome)
    (.invalidHistory "run_timeout_reached must match the active run deadline exactly once.")
  .ok { p with timeoutReachedAt := some data.deadlineAt }

def applyRunStarted (p : RunProjection) (event : RunEvent) (data : RunStartedData) :
    Except FoldError RunProjection := do
  failIf (p.lastSequence ≠ 0 ∨ p.status ≠ .notStarted)
    (.invalidHistory "run_started must be the first and only start event.")
  .ok { p with
    runId := some event.runId
    eventSchemaVersion := some event.eventSchemaVersion
    workflowId := some data.workflowId
    definitionHash := some data.definitionHash
    triggerId := data.triggerId
    triggerHandler := data.triggerHandler
    triggerOccurrenceId := data.triggerOccurrenceId
    ingress := data.ingress
    context := { p.context with trigger := data.trigger }
    startedAt := some event.occurredAt
    status := .running }

def applyRunCancellationRequested (p : RunProjection) (data : RunCancellationRequestedData) :
    Except FoldError RunProjection := do
  failIf (p.status ≠ .queued ∧ p.status ≠ .running ∧ p.status ≠ .waiting)
    (.invalidHistory "Cancellation may only be requested before business outcome is decided.")
  failIf p.cancellationRequestId.isSome
    (.invalidHistory "A run may contain only one durable cancellation request.")
  .ok { p with cancellationRequestId := some data.requestId, status := .cancelling }

def applyRunSucceeded (p : RunProjection) (data : RunSucceededData) :
    Except FoldError RunProjection := do
  requireRunning p
  failIf (p.operations.values.any (·.isActiveManaged))
    (.invalidHistory "A run cannot succeed while a managed operation remains active.")
  failIf (!p.pendingRetries.isEmpty)
    (.invalidHistory "A run cannot succeed while a retry remains pending.")
  let approvalOutput :=
    ((Text.stripPrefix "__woml_approval__" data.terminalNodeId).bind
      (Text.stripSuffix "__join")).any p.context.steps.containsKey
  failIf (!(p.context.steps.containsKey data.terminalNodeId || approvalOutput))
    (.invalidHistory (s!"Terminal node {Text.quote data.terminalNodeId} has not published a " ++
      "successful output."))
  .ok { p with
    status := .succeeded
    businessOutcome := some .succeeded
    lifecycleStatus := .completed
    terminalNodeId := some data.terminalNodeId
    result := some data.result }

/-- The failed deliveries of an approval request, in delivery order. -/
def finallyFailedDeliveries (p : RunProjection) (approvalId requestId : String) : List String :=
  (p.notificationDeliveries.values.filter fun delivery =>
    delivery.approvalId = approvalId && delivery.requestId = requestId &&
      match delivery.status with
      | .failed _ _ true _ _ => true
      | _ => false).map (·.deliveryId)

def anyDeliverySucceeded (p : RunProjection) (approvalId requestId : String) : Bool :=
  p.notificationDeliveries.values.any fun delivery =>
    delivery.approvalId = approvalId && delivery.requestId = requestId &&
      match delivery.status with
      | .succeeded .. => true
      | _ => false

/-- The failure a `run_failed` event records, once the projection agrees with it. -/
def runFailureOf (p : RunProjection) (indexes : AttemptIndexes) :
    RunFailedData → Except FoldError RunFailure
  | .v5Notification approvalId requestId failedDeliveryIds failure => do
    let request ← orFail (p.approvalRequests.get? approvalId)
      (.invalidHistory "Notification run failure references an unknown approval.")
    failIf (request.requestId ≠ requestId ∨ anyDeliverySucceeded p approvalId requestId ∨
        finallyFailedDeliveries p approvalId requestId ≠ failedDeliveryIds)
      (.invalidHistory "Notification run failure does not match final delivery outcomes.")
    .ok (.notification approvalId requestId failedDeliveryIds failure)
  | .v1 nodeId attempt invocationId failure => do
    match nodeId, attempt, invocationId with
    | some nodeId, some attempt, some invocationId =>
      requireFailedAttempt p indexes nodeId attempt invocationId
    | _, _, _ => .ok ()
    .ok (.attempt failure)
  | .v2Attempt nodeId attempt invocationId failure => do
    requireFailedAttempt p indexes nodeId attempt invocationId
    .ok (.attempt failure)
  | .v2Branch _ _ _ failure => .ok (.branch failure)
  | .v3Parallel parallelId policy primaryNodeId failedNodeIds cancelledNodeIds failure => do
    let group ← orFail (p.parallelGroups.get? parallelId)
      (.invalidHistory
        s!"run_failed references parallel group {Text.quote parallelId} before it started.")
    failIf (group.status ≠ .completed .failed failedNodeIds cancelledNodeIds)
      (.invalidHistory ("run_failed does not match the failed completion of parallel group " ++
        s!"{Text.quote parallelId}."))
    .ok (.parallel parallelId policy primaryNodeId failedNodeIds cancelledNodeIds failure)
  | .v4Approval approvalId requestId failure => do
    let request ← orFail (p.approvalRequests.get? approvalId)
      (.invalidHistory s!"run_failed references unknown approval {Text.quote approvalId}.")
    let timedOut :=
      match request.status with
      | .resolved .timeoutFailure _ => true
      | _ => false
    failIf (request.requestId ≠ requestId ∨ !timedOut) (.invalidHistory
        s!"run_failed does not match the timeout failure of approval {Text.quote approvalId}.")
    .ok (.approval approvalId requestId failure)

def RunFailedData.isNotification : RunFailedData → Bool
  | .v5Notification .. => true
  | _ => false

def applyRunFailed (p : RunProjection) (data : RunFailedData) (indexes : AttemptIndexes) :
    Except FoldError RunProjection := do
  failIf (p.operations.values.any (·.isActiveManaged))
    (.invalidHistory "A run cannot fail while a managed operation remains active.")
  if data.isNotification then
    failIf (p.status ≠ .waiting)
      (.invalidHistory "Notification-scoped run_failed requires a waiting approval.")
  else requireRunning p
  let failure ← runFailureOf p indexes data
  .ok { p with
    pendingRetries := .empty
    status := .failed
    businessOutcome := some .failed
    lifecycleStatus := .completed
    failure := some failure }

/-! ## Step attempts -/

def startedAttempt (data : StepAttemptStartedData) : AttemptProjection where
  identity := ⟨data.nodeId, data.attempt, data.invocationId⟩
  handler := data.handler
  idempotencyKey := data.idempotencyKey
  status := .started

/-- From event v6 on, a new attempt of a node follows its latest one: the numbers are consecutive,
the idempotency key is stable, and a retry was scheduled and is due. -/
def requireAttemptOrder (attempts : List AttemptProjection)
    (pendingRetries : SortedMap String RetryScheduleProjection) (event : RunEvent)
    (data : StepAttemptStartedData) : Except FoldError Unit := do
  let previous := attempts.reverse.find? (·.identity.nodeId = data.nodeId)
  let expectedAttempt := previous.elim 1 (·.identity.attempt + 1)
  failIf (data.attempt ≠ expectedAttempt)
    (.invalidHistory (s!"Node {Text.quote data.nodeId} expected attempt {expectedAttempt}, " ++
      s!"received {data.attempt}."))
  match (attempts.find? (·.identity.nodeId = data.nodeId)).bind (·.idempotencyKey) with
  | some firstKey =>
    failIf (data.idempotencyKey ≠ some firstKey)
      (.invalidHistory s!"Node {Text.quote data.nodeId} changed its stable idempotency key.")
  | none => .ok ()
  match previous, pendingRetries.get? data.nodeId with
  | none, none => .ok ()
  | some previous, some schedule =>
    if previous.status.isFailed ∧ schedule.failedAttempt = previous.identity.attempt ∧
        schedule.nextAttempt = data.attempt ∧ schedule.scheduledAt ≤ event.occurredAt then .ok ()
    else if event.occurredAt < schedule.scheduledAt then
      .error (.invalidHistory (s!"Node {Text.quote data.nodeId} attempt {data.attempt} started " ++
        "before its durable schedule."))
    else
      .error (.invalidHistory (s!"Node {Text.quote data.nodeId} attempt {data.attempt} has no " ++
        "matching pending retry."))
  | _, _ =>
    .error (.invalidHistory (s!"Node {Text.quote data.nodeId} attempt {data.attempt} has no " ++
      "matching pending retry."))

/-- The scheduled retries once an attempt of the node starts: from event v6 on it consumes its
own. -/
def retriesAfterStart (p : RunProjection) (event : RunEvent) (data : StepAttemptStartedData) :
    Except FoldError (SortedMap String RetryScheduleProjection) :=
  if 6 ≤ event.eventSchemaVersion then do
    requireAttemptOrder p.attempts p.pendingRetries event data
    .ok (p.pendingRetries.erase data.nodeId)
  else .ok p.pendingRetries

def applyStepAttemptStarted (p : RunProjection) (event : RunEvent) (data : StepAttemptStartedData)
    (indexes : AttemptIndexes) : Except FoldError RunProjection := do
  requireRunning p
  failIf (p.attempts.any (·.identity.invocationId = data.invocationId))
    (.invalidHistory (s!"Invocation ID {Text.quote data.invocationId} was already used by " ++
      "another attempt."))
  failIf ((p.latestAttempt data.nodeId).any (·.status.isStarted))
    (.invalidHistory s!"Node {Text.quote data.nodeId} already has an active attempt.")
  let pendingRetries ← retriesAfterStart p event data
  let key : AttemptIdentity := ⟨data.nodeId, data.attempt, data.invocationId⟩
  failIf (indexes.lookup key).isSome
    (.invalidHistory s!"Attempt {Text.quote key.invocationId} was started more than once.")
  .ok { p with pendingRetries, attempts := p.attempts ++ [startedAttempt data] }

/-- A started attempt is indexed at the position it is appended at. -/
def indexAttempt (p : RunProjection) (indexes : AttemptIndexes) : RunEventPayload → AttemptIndexes
  | .stepAttemptStarted data =>
    (⟨data.nodeId, data.attempt, data.invocationId⟩, p.attempts.length) :: indexes
  | _ => indexes

/-- The position of an attempt that has not settled and runs no managed operation. `verb` and
`outcome` are the words of the two messages. -/
def settlingAttempt (p : RunProjection) (indexes : AttemptIndexes) (key : AttemptIdentity)
    (verb outcome : String) : Except FoldError Nat := do
  failIf (!(p.activeManagedOperations key.invocationId).isEmpty)
    (.invalidHistory (s!"Attempt {Text.quote key.invocationId} cannot {verb} while a managed " ++
      "operation remains active."))
  let index ← orFail (indexes.lookup key)
    (.invalidHistory (s!"{outcome} attempt {Text.quote key.invocationId} has no matching start " ++
      "event."))
  failIf (!(p.attempts[index]?.any (·.status.isStarted)))
    (.invalidHistory s!"Attempt {Text.quote key.invocationId} already has a terminal event.")
  .ok index

def setAttemptStatus (attempts : List AttemptProjection) (index : Nat) (status : AttemptStatus) :
    List AttemptProjection :=
  attempts.modify index fun attempt => { attempt with status }

def applyStepAttemptSucceeded (p : RunProjection) (data : StepAttemptSucceededData)
    (indexes : AttemptIndexes) : Except FoldError RunProjection := do
  requireRunning p
  let index ← settlingAttempt p indexes ⟨data.nodeId, data.attempt, data.invocationId⟩
    "succeed" "Successful"
  failIf (p.context.steps.containsKey data.nodeId)
    (.invalidHistory s!"Node {Text.quote data.nodeId} has already published a successful output.")
  .ok { p with
    attempts := setAttemptStatus p.attempts index (.succeeded data.output)
    context := { p.context with steps := p.context.steps.insert data.nodeId data.output } }

def applyStepAttemptFailed (p : RunProjection) (data : StepAttemptFailedData)
    (indexes : AttemptIndexes) : Except FoldError RunProjection := do
  requireRunningOrCancelling p
  let index ← settlingAttempt p indexes ⟨data.nodeId, data.attempt, data.invocationId⟩
    "fail" "Failed"
  .ok { p with attempts := setAttemptStatus p.attempts index (.failed data.failure) }

/-- The event recorded that the attempt's script threw, which is what a retry may follow. -/
def isRetryableFailureOf (event : RunEvent) (data : StepRetryScheduledData) : Bool :=
  match event.payload with
  | .stepAttemptFailed failed =>
    failed.nodeId = data.nodeId && failed.attempt = data.failedAttempt &&
      failed.failure.kind = .scriptThrew
  | _ => false

def retrySchedule (data : StepRetryScheduledData) : RetryScheduleProjection where
  nodeId := data.nodeId
  failedAttempt := data.failedAttempt
  nextAttempt := data.nextAttempt
  scheduledAt := data.scheduledAt

def applyStepRetryScheduled (p : RunProjection) (data : StepRetryScheduledData)
    (previousEvent : Option RunEvent) : Except FoldError RunProjection := do
  requireRunning p
  let latestFailed := (p.latestAttempt data.nodeId).any fun attempt =>
    attempt.identity.attempt = data.failedAttempt && attempt.status.isFailed
  failIf (!(previousEvent.any (isRetryableFailureOf · data)) ∨ !latestFailed ∨
      data.nextAttempt ≠ data.failedAttempt + 1 ∨ p.pendingRetries.contains data.nodeId)
    (.invalidHistory (s!"Retry schedule for node {Text.quote data.nodeId} does not immediately " ++
      "follow its retryable failed attempt."))
  .ok { p with pendingRetries := p.pendingRetries.insert data.nodeId (retrySchedule data) }

/-! ## Operations and policy decisions -/

def applyInfrastructurePolicyDecisionRecorded (p : RunProjection)
    (data : InfrastructurePolicyDecisionRecordedData) : Except FoldError RunProjection := do
  requireOperationSettlement p
  failIf (p.infrastructurePolicyDecisions.any (·.decision.decisionId = data.decision.decisionId))
    (.invalidHistory "Infrastructure policy decision identity was recorded more than once.")
  .ok { p with infrastructurePolicyDecisions := p.infrastructurePolicyDecisions ++ [data] }

def startedOperation (data : OperationStartedData) : OperationProjection where
  identity := ⟨data.invocationId, data.callId⟩
  nodeId := data.nodeId
  attemptNumber := data.attemptNumber
  operationKey := data.operationKey
  capability := data.capability
  operation := data.operation
  executionMode := data.executionMode
  metadata := data.metadata
  status := .started

section
variable [Host]

def applyOperationStarted (p : RunProjection) (data : OperationStartedData) :
    Except FoldError RunProjection := do
  requireOperationRuntime p data
  requireActiveOperationAttempt p data
  failIf (p.operations.contains ⟨data.invocationId, data.callId⟩)
    (.invalidHistory (s!"Operation call {Text.quote data.callId} was started more than once in " ++
      s!"invocation {Text.quote data.invocationId}."))
  failIf (p.operations.values.any fun operation =>
      operation.identity.invocationId = data.invocationId &&
        operation.operationKey = data.operationKey)
    (.invalidHistory (s!"Logical operation key {Text.quote data.operationKey} was reused within " ++
      s!"invocation {Text.quote data.invocationId}."))
  .ok { p with
    operations := p.operations.insert ⟨data.invocationId, data.callId⟩ (startedOperation data) }

def applyOperationSucceeded (p : RunProjection) (data : OperationSucceededData) :
    Except FoldError RunProjection := do
  requireOperationRuntime p data.toOperationStartedData
  requireActiveOperationAttempt p data.toOperationStartedData
  let operation ← orFail (p.operations.get? ⟨data.invocationId, data.callId⟩)
    (.invalidHistory "operation_succeeded has no matching start.")
  validateOperationTerminalIdentity operation data.toOperationStartedData
  .ok { p with
    operations := p.operations.insert ⟨data.invocationId, data.callId⟩
      { operation with
        metadata := data.metadata
        status := .succeeded data.durationMs data.resultBytes data.resultDigest } }

def applyOperationFailed (p : RunProjection) (data : OperationFailedData) :
    Except FoldError RunProjection := do
  requireOperationSettlement p
  requireActiveOperationAttempt p data.toOperationStartedData
  let operation ← orFail (p.operations.get? ⟨data.invocationId, data.callId⟩)
    (.invalidHistory "operation_failed has no matching start.")
  validateOperationTerminalIdentity operation data.toOperationStartedData
  .ok { p with
    operations := p.operations.insert ⟨data.invocationId, data.callId⟩
      { operation with
        metadata := data.metadata
        status := .failed data.durationMs data.failure } }

end

end Woml
