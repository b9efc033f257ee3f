import Woml.Projection.FoldRun

/-!
# Fold handlers: lifecycle hooks, the end of a run and sagas
-/

namespace Woml

open Checked

/-! ## Lifecycle hooks -/

def LifecycleHookStatus.isCompleted : LifecycleHookStatus → Bool
  | completed | completedWithWarnings => true
  | _ => false

def applyLifecycleHookRequested (p : RunProjection) (data : LifecycleHookRequestedData) :
    Except FoldError RunProjection := do
  failIf (p.runId.isNone ∨ p.status = .notStarted ∨ p.status = .queued ∨ p.status.isTerminal ∨
      p.lifecycleHooks.contains data.hookInvocationId ∨
      p.lifecycleHooks.values.any fun hook =>
        hook.hookId = data.hookId && hook.subject = data.subject)
    (.invalidHistory "Lifecycle hook request is duplicated or belongs to an inactive run.")
  let hook : LifecycleHookProjection :=
    { hookInvocationId := data.hookInvocationId
      hookId := data.hookId
      event := data.event
      subject := data.subject
      status := .requested
      actions := .empty
      failedActions := 0 }
  .ok { p with
    lifecycleHooks := p.lifecycleHooks.insert data.hookInvocationId hook
    lifecycleStatus := .running }

def LifecycleHookProjection.hasActiveAction (hook : LifecycleHookProjection) : Bool :=
  hook.actions.values.any (·.status = .started)

/-- The hook with one more action in flight. -/
def LifecycleHookProjection.start (hook : LifecycleHookProjection)
    (data : LifecycleActionIdentityData) : Except FoldError LifecycleHookProjection := do
  failIf (hook.status.isCompleted ∨ hook.actions.contains data.actionId ∨ hook.hasActiveAction)
    (.invalidHistory
      "A lifecycle hook may have only one active, uniquely identified action attempt.")
  .ok { hook with
    actions := hook.actions.insert data.actionId ⟨data.actionId, data.attempt, .started, none⟩
    status := .running }

/-- The action in flight that a settlement event names. -/
def LifecycleHookProjection.settlingAction (hook : LifecycleHookProjection)
    (actionId : String) (attempt : Nat) (outcome noun : String) :
    Except FoldError LifecycleActionProjection := do
  let action ← orFail (hook.actions.get? actionId)
    (.invalidHistory s!"Lifecycle action {outcome} before it started.")
  failIf (action.status ≠ .started ∨ action.attempt ≠ attempt)
    (.invalidHistory s!"Lifecycle action {noun} does not close its active attempt.")
  .ok action

def LifecycleHookProjection.succeed (hook : LifecycleHookProjection)
    (data : LifecycleActionIdentityData) : Except FoldError LifecycleHookProjection := do
  let action ← hook.settlingAction data.actionId data.attempt "succeeded" "success"
  .ok { hook with actions := hook.actions.insert data.actionId { action with status := .succeeded } }

def LifecycleHookProjection.fail (hook : LifecycleHookProjection)
    (data : LifecycleActionFailedData) : Except FoldError LifecycleHookProjection := do
  let action ← hook.settlingAction data.actionId data.attempt "failed" "failure"
  .ok { hook with
    actions := hook.actions.insert data.actionId
      { action with status := .failed, failure := some data.failure }
    failedActions := hook.failedActions + 1 }

def LifecycleHookCompletionStatus.hookStatus : LifecycleHookCompletionStatus → LifecycleHookStatus
  | .completed => .completed
  | .completedWithWarnings => .completedWithWarnings

def LifecycleHookProjection.complete (hook : LifecycleHookProjection)
    (data : LifecycleHookCompletedData) : Except FoldError LifecycleHookProjection := do
  failIf (hook.status.isCompleted ∨ hook.hasActiveAction ∨ hook.failedActions ≠ data.failedActions)
    (.invalidHistory "Lifecycle hook completion does not match its action outcomes.")
  .ok { hook with status := data.status.hookStatus }

/-- The hooks with one of them replaced by what `step` makes of it. -/
def updateHook (hooks : SortedMap String LifecycleHookProjection) (hookInvocationId : String)
    (missing : String) (step : LifecycleHookProjection → Except FoldError LifecycleHookProjection) :
    Except FoldError (SortedMap String LifecycleHookProjection) := do
  let hook ← orFail (hooks.get? hookInvocationId) (.invalidHistory missing)
  let hook' ← step hook
  .ok (hooks.insert hookInvocationId hook')

def applyLifecycleActionAttemptStarted (p : RunProjection) (data : LifecycleActionIdentityData) :
    Except FoldError RunProjection := do
  let lifecycleHooks ← updateHook p.lifecycleHooks data.hookInvocationId
    "Lifecycle action started before its hook was requested." (·.start data)
  .ok { p with lifecycleHooks }

def applyLifecycleActionSucceeded (p : RunProjection) (data : LifecycleActionIdentityData) :
    Except FoldError RunProjection := do
  let lifecycleHooks ← updateHook p.lifecycleHooks data.hookInvocationId
    "Unknown lifecycle hook." (·.succeed data)
  .ok { p with lifecycleHooks }

def applyLifecycleActionFailed (p : RunProjection) (data : LifecycleActionFailedData) :
    Except FoldError RunProjection := do
  let lifecycleHooks ← updateHook p.lifecycleHooks data.hookInvocationId
    "Unknown lifecycle hook." (·.fail data)
  .ok { p with lifecycleHooks }

def applyLifecycleHookCompleted (p : RunProjection) (data : LifecycleHookCompletedData) :
    Except FoldError RunProjection := do
  let lifecycleHooks ← updateHook p.lifecycleHooks data.hookInvocationId
    "Unknown lifecycle hook." (·.complete data)
  .ok { p with lifecycleHooks }

/-! ## Reusable lifecycle hooks -/

def ReusableLifecycleHook.name : ReusableLifecycleHook → String
  | .onSuccess => "OnSuccess"
  | .onError => "OnError"
  | .onComplete => "OnComplete"

def ReusableLifecycleRequestedData.key (data : ReusableLifecycleRequestedData) : String :=
  data.invocationId ++ ":" ++ data.hook.name

abbrev ReusableHooks := SortedMap String ReusableLifecycleProjection

def ReusableLifecycleStatus.isCompleted : ReusableLifecycleStatus → Bool
  | completed | completedWithWarnings => true
  | _ => false

def reusableRequested (hooks : ReusableHooks) (data : ReusableLifecycleRequestedData) :
    Except FoldError ReusableHooks := do
  failIf (hooks.contains data.key)
    (.invalidHistory "Reusable lifecycle hook was requested more than once.")
  let hook : ReusableLifecycleProjection :=
    { invocationId := data.invocationId
      definitionDigest := data.definitionDigest
      hook := data.hook
      status := .requested
      activeActionId := none
      completedActionIds := []
      warningCodes := [] }
  .ok (hooks.insert data.key hook)

def reusableActionStarted (hooks : ReusableHooks) (data : ReusableLifecycleActionStartedData) :
    Except FoldError ReusableHooks := do
  let hook ← orFail (hooks.get? data.key)
    (.invalidHistory "Reusable lifecycle action started before its hook was requested.")
  failIf (hook.definitionDigest ≠ data.definitionDigest ∨ hook.activeActionId.isSome ∨
      hook.completedActionIds.contains data.actionId ∨ hook.status.isCompleted)
    (.invalidHistory "Reusable lifecycle action has an invalid or duplicate identity.")
  .ok (hooks.insert data.key
    { hook with activeActionId := some data.actionId, status := .running })

def reusableActionSucceeded (hooks : ReusableHooks)
    (data : ReusableLifecycleActionSucceededData) : Except FoldError ReusableHooks := do
  let hook ← orFail (hooks.get? data.key) (.invalidHistory "Unknown reusable lifecycle hook.")
  failIf (hook.definitionDigest ≠ data.definitionDigest ∨ hook.activeActionId ≠ some data.actionId)
    (.invalidHistory "Reusable lifecycle success does not close its active action.")
  .ok (hooks.insert data.key
    { hook with
      activeActionId := none
      completedActionIds := hook.completedActionIds ++ [data.actionId] })

def reusableActionFailed (hooks : ReusableHooks) (data : ReusableLifecycleActionFailedData) :
    Except FoldError ReusableHooks := do
  let hook ← orFail (hooks.get? data.key) (.invalidHistory "Unknown reusable lifecycle hook.")
  failIf (hook.definitionDigest ≠ data.definitionDigest ∨
      hook.activeActionId.any (· ≠ data.actionId) ∨
      hook.completedActionIds.contains data.actionId)
    (.invalidHistory "Reusable lifecycle failure does not close its active action.")
  .ok (hooks.insert data.key
    { hook with
      activeActionId := none
      completedActionIds := hook.completedActionIds ++ [data.actionId]
      warningCodes := hook.warningCodes ++ [data.warningCode] })

def reusableCompleted (hooks : ReusableHooks) (data : ReusableLifecycleCompletedData) :
    Except FoldError ReusableHooks := do
  let hook ← orFail (hooks.get? data.key) (.invalidHistory "Unknown reusable lifecycle hook.")
  failIf (hook.definitionDigest ≠ data.definitionDigest ∨ hook.activeActionId.isSome)
    (.invalidHistory "Reusable lifecycle completion does not match its hook.")
  .ok (hooks.insert data.key
    { hook with
      status := if data.outcome = .completedWithWarnings then .completedWithWarnings
        else .completed })

def applyReusableLifecycleRequested (p : RunProjection) (data : ReusableLifecycleRequestedData) :
    Except FoldError RunProjection := do
  let reusableLifecycleHooks ← reusableRequested p.reusableLifecycleHooks data
  .ok { p with reusableLifecycleHooks }

def applyReusableLifecycleActionStarted (p : RunProjection)
    (data : ReusableLifecycleActionStartedData) : Except FoldError RunProjection := do
  let reusableLifecycleHooks ← reusableActionStarted p.reusableLifecycleHooks data
  .ok { p with reusableLifecycleHooks }

def applyReusableLifecycleActionSucceeded (p : RunProjection)
    (data : ReusableLifecycleActionSucceededData) : Except FoldError RunProjection := do
  let reusableLifecycleHooks ← reusableActionSucceeded p.reusableLifecycleHooks data
  .ok { p with reusableLifecycleHooks }

def applyReusableLifecycleActionFailed (p : RunProjection)
    (data : ReusableLifecycleActionFailedData) : Except FoldError RunProjection := do
  let reusableLifecycleHooks ← reusableActionFailed p.reusableLifecycleHooks data
  .ok { p with reusableLifecycleHooks }

def applyReusableLifecycleCompleted (p : RunProjection) (data : ReusableLifecycleCompletedData) :
    Except FoldError RunProjection := do
  let reusableLifecycleHooks ← reusableCompleted p.reusableLifecycleHooks data
  .ok { p with reusableLifecycleHooks }

/-! ## The end of a run -/

/-- Some opened fork has not settled its join or one of its recorded branches. -/
def hasUnsettledFork (p : RunProjection) : Bool :=
  p.forks.values.any fun fork =>
    fork.joinStatus = .pending || fork.branches.values.any (·.outcome.isNone)

def applyRunOutcomeDecided (p : RunProjection) (data : RunOutcomeDecidedData) :
    Except FoldError RunProjection := do
  failIf (p.businessOutcome.isSome ∨
      (p.status ≠ .running ∧ p.status ≠ .waiting ∧ p.status ≠ .cancelling))
    (.invalidHistory "A run business outcome may be decided exactly once.")
  failIf (hasUnsettledFork p)
    (.invalidHistory "A run outcome cannot be decided while opened fork work remains unsettled.")
  let p ←
    match data with
    | .succeeded result => do
      failIf (p.status ≠ .running)
        (.invalidHistory "A successful outcome requires a running workflow.")
      .ok { p with result := some result }
    | .failed failure => .ok { p with lifecycleFailure := some failure }
    | .cancelled cancellationRequestId => do
      failIf (p.cancellationRequestId ≠ some cancellationRequestId)
        (.invalidHistory "Cancelled outcome does not match the durable cancellation request.")
      .ok p
  .ok { p with
    businessOutcome := some data.outcome
    lifecycleStatus := .finalizing
    status := .finalizing }

/-- Hook, action, step and code of every failed lifecycle action. -/
def failedLifecycleActions (p : RunProjection) : List (String × String × Option String × String) :=
  p.lifecycleHooks.values.flatMap fun hook =>
    hook.actions.values.filterMap fun action =>
      action.failure.map fun failure =>
        (hook.hookId, action.actionId,
          if hook.subject.kind = .step then some hook.subject.id else none, failure.code)

def warningsMatch (p : RunProjection) (warnings : List LifecycleWarning) : Bool :=
  (failedLifecycleActions p).length = warnings.length &&
    (failedLifecycleActions p).all fun (hookId, actionId, stepId, code) =>
      warnings.any fun warning =>
        warning.hookId = hookId && warning.actionId = actionId && warning.stepId = stepId &&
          warning.code = code

def BusinessOutcome.runStatus : BusinessOutcome → RunStatus
  | .succeeded => .succeeded
  | .failed => .failed
  | .cancelled => .cancelled

def FinalLifecycleStatus.lifecycleStatus : FinalLifecycleStatus → LifecycleStatus
  | .completed => .completed
  | .completedWithWarnings => .completedWithWarnings

def applyRunFinalized (p : RunProjection) (data : RunFinalizedData) :
    Except FoldError RunProjection := do
  failIf (p.status ≠ .finalizing ∨ p.businessOutcome ≠ some data.outcome ∨
      !warningsMatch p data.warnings ∨ p.lifecycleHooks.values.any (!·.status.isCompleted))
    (.invalidHistory "run_finalized requires the decided outcome and no unfinished lifecycle hook.")
  .ok { p with
    lifecycleWarnings := data.warnings
    lifecycleStatus := data.lifecycleStatus.lifecycleStatus
    status := data.outcome.runStatus }

/-! ## Sagas -/

def SagaPhase.isCorrecting : SagaPhase → Bool
  | correcting | manualRecovery => true
  | _ => false

/-- The operations of a corrective attempt have settled. -/
def requireSettledOperations [Host] (p : RunProjection) (data : CorrectionAttemptIdentityData) :
    Except FoldError Unit :=
  let invocationId :=
    correctionInvocationId (p.runId.getD "") data.sagaId data.actionId data.attempt
  failIf (p.operations.values.any fun operation =>
      operation.identity.invocationId = invocationId && operation.status.isStarted)
    (.invalidHistory "A corrective attempt cannot settle while an operation remains active.")

def applySagaStarted (p : RunProjection) (event : RunEvent) (data : SagaIdentityData) :
    Except FoldError RunProjection := do
  requireRunning p
  failIf (p.sagas.contains data.sagaId)
    (.invalidHistory s!"Saga {Text.quote data.sagaId} was started more than once.")
  let saga : SagaProjection :=
    { sagaId := data.sagaId
      phase := .forward
      reason := none
      startedSequence := event.sequence
      forwardSucceededSequence := none
      correctionCompletedSequence := none
      actions := .empty }
  .ok { p with sagas := p.sagas.insert data.sagaId saga }

/-- The event is the success that a compensation registration names. -/
def isForwardSuccessOf (event : RunEvent) (data : CompensationRegisteredData) : Bool :=
  match event.payload with
  | .stepAttemptSucceeded succeeded =>
    succeeded.nodeId = data.forStepId && event.sequence = data.completionSequence
  | _ => false

def registeredCompensation (data : CompensationRegisteredData) : CorrectionActionProjection where
  actionId := data.actionId
  actionKind := .compensation
  forStepId := some data.forStepId
  completionSequence := some data.completionSequence
  status := .registered
  attempts := 0
  activeAttempt := none
  retryAt := none
  failureCode := none
  ambiguous := false

def applyCompensationRegistered (p : RunProjection) (event : RunEvent)
    (data : CompensationRegisteredData) (previousEvent : Option RunEvent) :
    Except FoldError RunProjection := do
  requireRunningOrCancelling p
  let saga ← orFail (p.sagas.get? data.sagaId)
    (.invalidHistory "Compensation was registered before its saga started.")
  failIf (saga.phase ≠ .forward ∨ saga.actions.contains data.actionId ∨
      event.sequence ≤ data.completionSequence ∨
      !(previousEvent.any (isForwardSuccessOf · data)))
    (.invalidHistory
      "Compensation registration must atomically follow its proven forward success.")
  .ok { p with
    sagas := p.sagas.insert data.sagaId
      { saga with actions := saga.actions.insert data.actionId (registeredCompensation data) } }

def applySagaForwardSucceeded (p : RunProjection) (event : RunEvent) (data : SagaIdentityData) :
    Except FoldError RunProjection := do
  requireRunning p
  let saga ← orFail (p.sagas.get? data.sagaId)
    (.invalidHistory "Saga forward success was recorded before saga start.")
  failIf (saga.phase ≠ .forward)
    (.invalidHistory "Saga forward work may succeed exactly once.")
  .ok { p with
    sagas := p.sagas.insert data.sagaId
      { saga with
        phase := .forwardSucceeded
        forwardSucceededSequence := some event.sequence } }

/-- The phase in which a correction may start for a reason. -/
def SagaCorrectionReason.phase : SagaCorrectionReason → SagaPhase
  | .success => .forwardSucceeded
  | .failure | .cancel => .forward

def applySagaCorrectionStarted (p : RunProjection) (data : SagaCorrectionStartedData) :
    Except FoldError RunProjection := do
  requireRunningOrCancelling p
  let saga ← orFail (p.sagas.get? data.sagaId)
    (.invalidHistory "Saga correction was started before saga start.")
  failIf (saga.phase ≠ data.reason.phase)
    (.invalidHistory "Saga correction reason does not match its forward phase.")
  .ok { p with
    sagas := p.sagas.insert data.sagaId
      { saga with phase := .correcting, reason := some data.reason } }

/-- An action that no registration announced: a cleanup before its first attempt. -/
def unregisteredAction (data : CorrectionAttemptIdentityData) : CorrectionActionProjection where
  actionId := data.actionId
  actionKind := data.actionKind
  forStepId := none
  completionSequence := none
  status := .registered
  attempts := 0
  activeAttempt := none
  retryAt := none
  failureCode := none
  ambiguous := false

def applyCorrectionAttemptStarted (p : RunProjection) (event : RunEvent)
    (data : CorrectionAttemptIdentityData) : Except FoldError RunProjection := do
  requireRunningOrCancelling p
  let saga ← orFail (p.sagas.get? data.sagaId)
    (.invalidHistory "Correction attempt references an unknown saga.")
  failIf (!saga.phase.isCorrecting ∨ saga.actions.values.any (·.status = .started))
    (.invalidHistory "A saga may have only one active corrective attempt.")
  let action := (saga.actions.get? data.actionId).getD (unregisteredAction data)
  failIf (¬(action.actionKind = data.actionKind ∧ data.attempt = action.attempts + 1 ∧
      (action.status = .registered ∨ action.status = .retryScheduled) ∧
      action.retryAt.all (· ≤ event.occurredAt)))
    (.invalidHistory "Correction attempt does not match its pending action and retry schedule.")
  .ok { p with
    sagas := p.sagas.insert data.sagaId
      { saga with
        actions := saga.actions.insert data.actionId
          { action with
            attempts := data.attempt
            activeAttempt := some data.attempt
            retryAt := none
            status := .started } } }

/-- The corrective attempt in flight that a settlement names. -/
def CorrectionActionProjection.isActiveAs (action : CorrectionActionProjection)
    (data : CorrectionAttemptIdentityData) : Bool :=
  action.actionKind = data.actionKind && action.status = .started &&
    action.activeAttempt = some data.attempt

def applyCorrectionAttemptSucceeded [Host] (p : RunProjection)
    (data : CorrectionAttemptIdentityData) : Except FoldError RunProjection := do
  requireSettledOperations p data
  let saga ← orFail (p.sagas.get? data.sagaId)
    (.invalidHistory "Correction success references an unknown saga.")
  let action ← orFail (saga.actions.get? data.actionId)
    (.invalidHistory "Correction success has no started action.")
  failIf (!saga.phase.isCorrecting ∨ !action.isActiveAs data)
    (.invalidHistory "Correction success does not close its active attempt.")
  .ok { p with
    sagas := p.sagas.insert data.sagaId
      { saga with
        actions := saga.actions.insert data.actionId
          { action with status := .succeeded, activeAttempt := none } } }

def applyCorrectionAttemptFailed [Host] (p : RunProjection) (data : CorrectionAttemptFailedData) :
    Except FoldError RunProjection := do
  requireSettledOperations p data.toCorrectionAttemptIdentityData
  let saga ← orFail (p.sagas.get? data.sagaId)
    (.invalidHistory "Correction failure references an unknown saga.")
  let action ← orFail (saga.actions.get? data.actionId)
    (.invalidHistory "Correction failure has no started action.")
  failIf (!saga.phase.isCorrecting ∨ !action.isActiveAs data.toCorrectionAttemptIdentityData)
    (.invalidHistory "Correction failure does not close its active attempt.")
  .ok { p with
    sagas := p.sagas.insert data.sagaId
      { saga with
        actions := saga.actions.insert data.actionId
          { action with
            status := .failed
            activeAttempt := none
            failureCode := some data.code
            ambiguous := data.ambiguous } } }

def applyCorrectionRetryScheduled (p : RunProjection) (data : CorrectionRetryScheduledData) :
    Except FoldError RunProjection := do
  let saga ← orFail (p.sagas.get? data.sagaId)
    (.invalidHistory "Correction retry references an unknown saga.")
  let action ← orFail (saga.actions.get? data.actionId)
    (.invalidHistory "Correction retry has no failed action.")
  let automaticRetry := saga.phase = .correcting ∧ action.status = .failed ∧ !action.ambiguous
  let operatorRetry :=
    saga.phase = .manualRecovery ∧ action.status = .manualRecovery ∧ action.ambiguous
  failIf (action.actionKind ≠ data.actionKind ∨ action.attempts ≠ data.attempt ∨
      ¬(automaticRetry ∨ operatorRetry))
    (.invalidHistory ("Correction retry does not follow an automatic failure or an explicit " ++
      "manual-recovery decision."))
  let action' : CorrectionActionProjection :=
    if operatorRetry then { action with ambiguous := false, failureCode := none } else action
  .ok { p with
    sagas := p.sagas.insert data.sagaId
      { saga with
        phase := if operatorRetry then .correcting else saga.phase
        actions := saga.actions.insert data.actionId
          { action' with status := .retryScheduled, retryAt := some data.retryAt } } }

def applyCorrectionInterrupted [Host] (p : RunProjection) (data : CorrectionInterruptedData) :
    Except FoldError RunProjection := do
  requireSettledOperations p data.toCorrectionAttemptIdentityData
  let saga ← orFail (p.sagas.get? data.sagaId)
    (.invalidHistory "Correction interruption references an unknown saga.")
  let action ← orFail (saga.actions.get? data.actionId)
    (.invalidHistory "Correction interruption has no started action.")
  failIf (!action.isActiveAs data.toCorrectionAttemptIdentityData)
    (.invalidHistory "Correction interruption does not close its active attempt.")
  .ok { p with
    sagas := p.sagas.insert data.sagaId
      { saga with
        actions := saga.actions.insert data.actionId
          { action with
            status := .interrupted
            activeAttempt := none
            ambiguous := data.ambiguous } } }

def applyManualRecoveryRequired (p : RunProjection) (data : ManualRecoveryRequiredData) :
    Except FoldError RunProjection := do
  let saga ← orFail (p.sagas.get? data.sagaId)
    (.invalidHistory "Manual recovery references an unknown saga.")
  let action ← orFail (saga.actions.get? data.actionId)
    (.invalidHistory "Manual recovery references an unknown correction.")
  failIf (action.actionKind ≠ data.actionKind ∨
      (action.status ≠ .failed ∧ action.status ≠ .interrupted) ∨ !action.ambiguous)
    (.invalidHistory "Manual recovery requires one ambiguous failed or interrupted correction.")
  .ok { p with
    sagas := p.sagas.insert data.sagaId
      { saga with
        phase := .manualRecovery
        actions := saga.actions.insert data.actionId
          { action with status := .manualRecovery, failureCode := some data.code } } }

/-- Corrective work that a completed correction may not leave behind. After a forward success the
registered compensations are not run. -/
def SagaProjection.blocksCompletion (saga : SagaProjection)
    (action : CorrectionActionProjection) : Bool :=
  action.status = .started || action.status = .retryScheduled ||
    (action.status = .registered &&
      !(saga.reason = some .success && action.actionKind = .compensation))

def applySagaCorrectionCompleted (p : RunProjection) (event : RunEvent)
    (data : SagaIdentityData) : Except FoldError RunProjection := do
  let saga ← orFail (p.sagas.get? data.sagaId)
    (.invalidHistory "Correction completion references an unknown saga.")
  failIf (!saga.phase.isCorrecting ∨ saga.actions.values.any saga.blocksCompletion)
    (.invalidHistory "Saga correction cannot complete while corrective work remains pending.")
  .ok { p with
    sagas := p.sagas.insert data.sagaId
      { saga with
        phase := .correctionCompleted
        correctionCompletedSequence := some event.sequence } }

end Woml
