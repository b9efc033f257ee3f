import Woml.Engine.Prefix
import Woml.Engine.Validation

/-!
# Histories against a definition

`checkEventHistoryAgainstDefinition` accepts a history that folds and whose every event obeys the
definition at its place: what starts is ready there, retries follow their failures, parallel
groups stay within their cap, corrections run in order. The loop keeps a cursor over the history
and the outcomes of the children of parallel groups.

Readiness that the source asks at the current time is asked here at `clock i` for the event at
position `i`, for an arbitrary clock.
-/

namespace Woml

open Checked

inductive ParallelChildState
  | active
  | retryPending
  | succeeded
  | failed (kind : AttemptFailureKind)
  deriving DecidableEq

/-- What the loop carries from event to event. -/
structure HistoryCheck where
  cursor : HistoryPrefix
  childStates : SortedMap String ParallelChildState := .empty

/-- The event before a position. -/
def previousOf (events : List RunEvent) : Nat → Option RunEvent
  | 0 => none
  | index + 1 => events[index]?

namespace HistoryCheck

variable (s : HistoryCheck)

def setChild (nodeId : String) (state : ParallelChildState) : HistoryCheck :=
  { s with childStates := s.childStates.insert nodeId state }

section
variable [Host]

/-- `prefixes.at(position)?` -/
def «at» (position : Nat) : Except EngineError (HistoryCheck × RunProjection) :=
  match s.cursor.at position with
  | (cursor, result) => result.map fun projection => ({ s with cursor }, projection)

/-- `prefixes.query_at(position)?` -/
def queryAt (position : Nat) : Except EngineError (HistoryCheck × ReadinessPrefix) :=
  match s.cursor.queryAt position with
  | (cursor, result) => result.map fun view => ({ s with cursor }, view)

end

/-- An error of the engine with a text. -/
def fail (text : String) : EngineError := .message text

variable (w : DefinitionRef)

/-- A child of a parallel group changes its state; other nodes have none. -/
def setGroupChild (nodeId : String) (state : ParallelChildState) : HistoryCheck :=
  if (w.parallelGroupForChild nodeId).isSome then s.setChild nodeId state else s

/-- The wait node of a settled wait takes its outcome as a child of its group. -/
def setWaitChild (waitId : String) (state : ParallelChildState) : HistoryCheck :=
  (w.durableWait waitId).elim s fun wait => s.setGroupChild w wait.nodeId state

variable (definitionHash : String) (fuel : Nat) [Host]

/-! ## Readiness -/

/-- The node is among the ready ones before the event at `index`. -/
def requireReady (index : Nat) (now : DateTime) (nodeId error : String) :
    Except EngineError HistoryCheck := do
  let (s, view) ← s.queryAt index
  let ready ← (ReadinessGraph.new w).readyFromPrefixAt fuel definitionHash view now
  failIf (!ready.contains nodeId) (fail error)
  .ok s

def choiceSelected (index : Nat) (now : DateTime) (data : ChoiceSelectedData) :
    Except EngineError HistoryCheck := do
  let choice ← orFail (w.choice data.choiceId)
    (fail s!"Unknown control choice {Text.quote data.choiceId}.")
  s.requireReady w definitionHash fuel index now choice.selectorNodeId
    (s!"Control choice {Text.quote data.choiceId} was selected before its selector was " ++
      "ready.")

def forkOpened (index : Nat) (now : DateTime) (data : ForkOpenedData) :
    Except EngineError HistoryCheck := do
  let fork ← orFail (w.fork data.forkId) (fail s!"Unknown fork {Text.quote data.forkId}.")
  s.requireReady w definitionHash fuel index now fork.openNodeId
    s!"Fork {Text.quote data.forkId} opened before it was ready."

def sagaStarted (index : Nat) (now : DateTime) (data : SagaIdentityData) :
    Except EngineError HistoryCheck := do
  let saga ← orFail (w.saga data.sagaId) (fail s!"Unknown saga {Text.quote data.sagaId}.")
  s.requireReady w definitionHash fuel index now saga.openNodeId
    s!"Saga {Text.quote data.sagaId} started before its open node was ready."

def parallelGroupStarted (index : Nat) (now : DateTime) (data : ParallelGroupStartedData) :
    Except EngineError HistoryCheck := do
  let group ← orFail (w.parallelGroup data.parallelId)
    (fail s!"Unknown parallel group {Text.quote data.parallelId}.")
  s.requireReady w definitionHash fuel index now group.startNodeId
    s!"Parallel group {Text.quote data.parallelId} was started before its fork was ready."

def approvalRequested (index : Nat) (now occurredAt : DateTime) (data : ApprovalRequestedData) :
    Except EngineError HistoryCheck := do
  let approval ← orFail (w.approval data.approvalId)
    (fail s!"Unknown approval {Text.quote data.approvalId}.")
  let s ← s.requireReady w definitionHash fuel index now data.approvalId
    s!"Approval {Text.quote data.approvalId} was requested before its wait node was ready."
  failIf (approval.timeoutMs.any (2 ^ 63 ≤ ·))
    (fail s!"Approval {Text.quote data.approvalId} timeout exceeds the clock range.")
  failIf (data.expiresAt ≠ approval.timeoutMs.map (DateTime.addMillis occurredAt))
    (fail (s!"Approval {Text.quote data.approvalId} request deadline does not match its " ++
      "compiled timeout."))
  .ok s

def approvalReviewRequested (index : Nat) (now : DateTime) (data : ApprovalReviewRequestedData) :
    Except EngineError HistoryCheck :=
  s.requireReady w definitionHash fuel index now data.approvalId
    (s!"Rich approval {Text.quote data.approvalId} was requested before its wait node was " ++
      "ready.")

def waitRegistered (index : Nat) (occurredAt : DateTime) (data : WaitRegisteredData) :
    Except EngineError HistoryCheck := do
  let s ← s.requireReady w definitionHash fuel index occurredAt data.nodeId
    s!"Durable wait {Text.quote data.waitId} was registered before its node was ready."
  .ok (s.setGroupChild w data.nodeId .active)

/-! ## Attempts -/

def activeChildren (group : ParallelGroupDefinition) : Nat :=
  group.childNodeIds.countP fun nodeId => s.childStates.get? nodeId = some .active

/-- The start of a child of a parallel group. -/
def childStarted (p : RunProjection) (group : ParallelGroupDefinition) (nodeId : String) :
    Except EngineError HistoryCheck := do
  failIf (!((p.parallelGroups.get? group.parallelId).any (·.status = .started)))
    (fail (s!"Parallel child {Text.quote nodeId} started outside its active group " ++
      s!"{Text.quote group.parallelId}."))
  failIf (group.concurrency ≤ s.activeChildren group)
    (fail (s!"Parallel group {Text.quote group.parallelId} exceeds its concurrency cap of " ++
      s!"{group.concurrency}."))
  .ok (s.setChild nodeId .active)

def stepAttemptStarted (index : Nat) (event : RunEvent) (data : StepAttemptStartedData) :
    Except EngineError HistoryCheck := do
  let (s, view) ← s.queryAt index
  let ready ← (ReadinessGraph.new w).isReadyFromPrefixAt fuel definitionHash view
    event.occurredAt data.nodeId
  failIf (!ready) (fail s!"Node {Text.quote data.nodeId} started before it was ready.")
  failIf (6 ≤ w.schemaVersion ∧ data.idempotencyKey ≠
      some (stepEffectIdempotencyKey event.runId definitionHash data.nodeId))
    (fail (s!"Node {Text.quote data.nodeId} attempt does not carry its derived stable " ++
      "idempotency key."))
  match w.parallelGroupForChild data.nodeId with
  | none => .ok s
  | some group => s.childStarted view.projection group data.nodeId

/-- The next event schedules the retry of a failed attempt. -/
def isRetryOf (data : StepAttemptFailedData) (event : RunEvent) : Bool :=
  match event.payload with
  | .stepRetryScheduled schedule =>
    schedule.nodeId = data.nodeId && schedule.failedAttempt = data.attempt &&
      schedule.nextAttempt = data.attempt + 1
  | _ => false

omit [Host] in
def stepAttemptFailed (events : List RunEvent) (index : Nat) (data : StepAttemptFailedData) :
    Except EngineError HistoryCheck := do
  let s := s.setGroupChild w data.nodeId (.failed data.failure.kind)
  let shouldRetry := ((w.node data.nodeId).bind (·.retryPolicy)).any fun policy =>
    data.failure.kind = .scriptThrew && data.attempt < policy.maxAttempts
  failIf (shouldRetry ∧ !events[index + 1]?.any (isRetryOf data))
    (fail (s!"Retryable failure for node {Text.quote data.nodeId} must be atomically " ++
      "followed by step_retry_scheduled."))
  .ok s

/-- The failure that a retry schedule follows, with its event. -/
def precedingFailure (events : List RunEvent) (index : Nat) :
    Except EngineError (RunEvent × StepAttemptFailedData) := do
  let previous ← orFail (previousOf events index)
    (fail "step_retry_scheduled cannot be the first run event.")
  match previous.payload with
  | .stepAttemptFailed failed => .ok (previous, failed)
  | _ => .error (fail "step_retry_scheduled must immediately follow step_attempt_failed.")

def stepRetryScheduled (events : List RunEvent) (index : Nat) (data : StepRetryScheduledData) :
    Except EngineError HistoryCheck := do
  let (previous, failed) ← precedingFailure events index
  let policy ← orFail ((w.node data.nodeId).bind (·.retryPolicy))
    (fail s!"Node {Text.quote data.nodeId} has no retry policy.")
  let delayMs ← orFail (policy.delayBeforeAttempt data.nextAttempt)
    (fail "Compiled retry delay is invalid.")
  failIf (2 ^ 63 ≤ delayMs) (fail "Retry delay exceeds the clock range.")
  failIf (failed.nodeId ≠ data.nodeId ∨ failed.attempt ≠ data.failedAttempt ∨
      failed.failure.kind ≠ .scriptThrew ∨
      data.scheduledAt ≠ DateTime.addMillis previous.occurredAt delayMs)
    (fail (s!"Retry schedule for node {Text.quote data.nodeId} does not match its failed " ++
      "attempt and compiled backoff."))
  .ok (s.setGroupChild w data.nodeId .retryPending)

/-! ## Forks and parallel groups -/

/-- The predecessors of the branch's terminal node are complete. -/
def terminalReady (p : RunProjection) (terminalNodeId : String) : Except EngineError Bool :=
  Reference.predecessorsComplete w.toCompiledWorkflowDefinition p fuel
    (w.graph.edges.filter (·.target = terminalNodeId))

def forkBranchSettled (index : Nat) (data : ForkBranchSettledData) :
    Except EngineError HistoryCheck := do
  let fork ← orFail (w.fork data.forkId) (fail s!"Unknown fork {Text.quote data.forkId}.")
  let branch ← orFail (fork.branches.find? (·.branchId = data.branchId))
    (fail s!"Unknown fork branch {Text.quote data.branchId}.")
  if data.outcome = .succeeded then
    let (s, p) ← s.at index
    let ready ← terminalReady w fuel p branch.terminalNodeId
    failIf (!ready)
      (fail (s!"Fork branch {Text.quote data.forkId}.{Text.quote data.branchId} succeeded " ++
        "before its terminal route completed."))
    .ok s
  else .ok s

def forkJoinSettled (index : Nat) (data : ForkJoinSettledData) :
    Except EngineError HistoryCheck := do
  let fork ← orFail (w.fork data.forkId) (fail s!"Unknown fork {Text.quote data.forkId}.")
  let (s, p) ← s.at index
  let projected ← orFail (p.forks.get? data.forkId)
    (fail s!"Fork {Text.quote data.forkId} join settled before opening.")
  failIf (data.outcome = .succeeded ∧ !fork.joinedBranchIds.all fun branchId =>
      ((projected.branches.get? branchId).bind (·.outcome)) = some .succeeded)
    (fail (s!"Fork {Text.quote data.forkId} join succeeded before every joined branch " ++
      "succeeded."))
  .ok s

/-- A fork that was opened has settled its join and every branch. -/
def forkSettled (p : RunProjection) (fork : CompiledFork) : Bool :=
  (p.forks.get? fork.forkId).all fun projected =>
    projected.joinStatus ≠ .pending &&
      fork.branches.all fun branch => projected.branches.contains branch.branchId

def runOutcomeDecided (index : Nat) : Except EngineError HistoryCheck := do
  let (s, p) ← s.at index
  match w.graph.forkList.find? fun fork => !forkSettled p fork with
  | none => .ok s
  | some fork =>
    .error (fail s!"Run outcome was decided before fork {Text.quote fork.forkId} fully settled.")

omit [Host] in
/-- The children of a group in a given state, in the order of the group. -/
def childrenIn (group : ParallelGroupDefinition) (q : ParallelChildState → Bool) : List String :=
  group.childNodeIds.filter fun nodeId => (s.childStates.get? nodeId).any q

omit [Host] in
def parallelGroupCompleted (data : ParallelGroupCompletedData) :
    Except EngineError HistoryCheck := do
  let group ← orFail (w.parallelGroup data.parallelId)
    (fail s!"Unknown parallel group {Text.quote data.parallelId}.")
  let every (q : ParallelChildState → Bool) := s.childrenIn group q = group.childNodeIds
  let failed := s.childrenIn group fun
    | .failed kind => kind ≠ .invocationCancelled
    | _ => false
  let cancelled := s.childrenIn group (· = .failed .invocationCancelled)
  let validOutcome : Bool :=
    match data.outcome with
    | .succeeded => every (· = .succeeded)
    | .failed =>
      if group.onError = "wait-all" then
        every fun
          | .succeeded | .failed _ => true
          | _ => false
      else s.childrenIn group (· = .active) = []
  failIf (!validOutcome ∨ data.failedNodeIds ≠ failed ∨ data.cancelledNodeIds ≠ cancelled)
    (fail (s!"Parallel completion for {Text.quote data.parallelId} does not match its durable " ++
      "child outcomes."))
  .ok s

def runSucceeded (index : Nat) : Except EngineError HistoryCheck := do
  let (s, p) ← s.at (index + 1)
  failIf (p.parallelGroups.values.any fun group => !group.status.isSuccess)
    (fail "A run cannot succeed while a started parallel group is incomplete or failed.")
  .ok s

/-! ## Corrections -/

def isPendingCompensation (action : CorrectionActionProjection) : Bool :=
  action.actionKind = .compensation &&
    (action.status = .registered || action.status = .retryScheduled)

/-- The completion sequence as `max_by_key` compares it: an absent one comes first. -/
def completionKey (action : CorrectionActionProjection) : Nat :=
  action.completionSequence.elim 0 (· + 1)

/-- The pending compensation of the last completed step; of several the last in map order. -/
def nextCompensation (state : SagaProjection) : Option CorrectionActionProjection :=
  (state.actions.values.filter isPendingCompensation).reverse.argmax completionKey

def isUnsettledCompensation (action : CorrectionActionProjection) : Bool :=
  action.actionKind = .compensation &&
    (action.status = .registered || action.status = .started || action.status = .retryScheduled)

def isSettledCleanup (action : CorrectionActionProjection) : Bool :=
  action.status = .succeeded || action.status = .failed || action.status = .manualRecovery

/-- The cleanup actions before the first one with an identifier; `none` if there is none. -/
def cleanupBefore (actionId : String) :
    List CompiledCorrectiveAction → Option (List CompiledCorrectiveAction)
  | [] => none
  | action :: rest =>
    if action.actionId = actionId then some [] else (cleanupBefore actionId rest).map (action :: ·)

def compensationMayStart (state : SagaProjection) (actionId : String) :
    Except EngineError Unit := do
  failIf (state.reason = some .success)
    (fail "Compensation cannot run after successful forward work.")
  failIf ((nextCompensation state).map (·.actionId) ≠ some actionId)
    (fail (s!"Compensation {Text.quote actionId} is not next in reverse durable completion " ++
      "order."))

def cleanupMayStart (saga : CompiledSaga) (state : SagaProjection) (actionId : String) :
    Except EngineError Unit := do
  failIf (state.reason ≠ some .success ∧ state.actions.values.any isUnsettledCompensation)
    (fail "Cleanup cannot start before compensation settles.")
  let earlier ← orFail (cleanupBefore actionId saga.cleanup)
    (fail "Cleanup action is absent from Model v19.")
  failIf (earlier.any fun action => !(state.actions.get? action.actionId).any isSettledCleanup)
    (fail s!"Cleanup {Text.quote actionId} is not next in compiled source order.")

def correctionAttemptStarted (index : Nat) (data : CorrectionAttemptIdentityData) :
    Except EngineError HistoryCheck := do
  let saga ← orFail (w.saga data.sagaId) (fail s!"Unknown saga {Text.quote data.sagaId}.")
  let (s, p) ← s.at index
  let state ← orFail (p.sagas.get? data.sagaId)
    (fail s!"Saga {Text.quote data.sagaId} has no projected correction state.")
  match data.actionKind with
  | .compensation => compensationMayStart state data.actionId
  | .cleanup => cleanupMayStart saga state data.actionId
  .ok s

def sagaCorrectionCompleted (index : Nat) (data : SagaIdentityData) :
    Except EngineError HistoryCheck := do
  let saga ← orFail (w.saga data.sagaId) (fail s!"Unknown saga {Text.quote data.sagaId}.")
  let (s, p) ← s.at index
  let state ← orFail (p.sagas.get? data.sagaId)
    (fail s!"Saga {Text.quote data.sagaId} has no projected correction state.")
  failIf (saga.cleanup.any fun action =>
      !(state.actions.get? action.actionId).any fun projected =>
        projected.status = .succeeded || projected.status = .failed)
    (fail s!"Saga {Text.quote data.sagaId} completed before every cleanup action settled.")
  .ok s

/-! ## Lifecycle hooks -/

/-- The event before a request makes its hook eligible. -/
def isEligible (data : LifecycleHookRequestedData) (previous : RunEvent) : Bool :=
  match data.event, previous.payload with
  | .runStart, .runStarted _ | .runStart, .runExecutionStarted _ => true
  | .runCancel, .runCancellationRequested _
  | .runCancel, .runOutcomeDecided (.cancelled _) => true
  | .runSuccess, .runOutcomeDecided (.succeeded _) => true
  | .runFailure, .runOutcomeDecided (.failed _) => true
  | .runComplete, .lifecycleHookCompleted _ | .runComplete, .runOutcomeDecided _ => true
  | .stepStart, .stepAttemptStarted step => step.nodeId = data.subject.id
  | .stepSuccess, .stepAttemptSucceeded step => step.nodeId = data.subject.id
  | .stepFailure, .stepAttemptFailed step => step.nodeId = data.subject.id
  | .stepComplete, .lifecycleHookCompleted _ | .stepComplete, .stepAttemptSucceeded _
  | .stepComplete, .stepAttemptFailed _ => true
  | _, _ => false

def lifecycleHookRequested (events : List RunEvent) (index : Nat) (event : RunEvent)
    (data : LifecycleHookRequestedData) : Except EngineError HistoryCheck := do
  let expected := deriveLifecycleHookInvocationId event.runId data.hookId data.subject.kind
    data.subject.id
  failIf (data.hookInvocationId ≠ expected ∨
      data.subject.kind = .workflow ∧ data.subject.id ≠ event.runId)
    (fail "Lifecycle hook request has a non-canonical invocation identity.")
  failIf (!(previousOf events index).any (isEligible data))
    (fail "Lifecycle hook request is not adjacent to its eligibility event.")
  .ok s

def lifecycleActionAttemptStarted (index : Nat) (data : LifecycleActionIdentityData) :
    Except EngineError HistoryCheck := do
  let (s, p) ← s.at index
  let projected ← orFail (p.lifecycleHooks.get? data.hookInvocationId)
    (fail "Lifecycle action has no requested hook.")
  let hook ← orFail (w.lifecycleHook projected.hookId)
    (fail "Lifecycle action hook is absent from Model v11.")
  let expected ← orFail hook.actions[projected.actions.size]?
    (fail "Lifecycle hook has no remaining action at this source-order position.")
  failIf (expected.actionId ≠ data.actionId)
    (fail "Lifecycle actions must start in compiled source order.")
  .ok s

def lifecycleHookCompleted (index : Nat) (data : LifecycleHookCompletedData) :
    Except EngineError HistoryCheck := do
  let (s, p) ← s.at index
  let projected ← orFail (p.lifecycleHooks.get? data.hookInvocationId)
    (fail "Lifecycle completion has no requested hook.")
  let hook ← orFail (w.lifecycleHook projected.hookId)
    (fail "Lifecycle completion hook is absent from Model v11.")
  failIf (projected.actions.size ≠ hook.actions.length)
    (fail "Lifecycle hook cannot complete before every compiled action has an outcome.")
  .ok s

/-! ## The loop -/

/-- What the history asks of an event of the run itself at its place. Every other payload is
settled by the fold and by the check of the payload alone. -/
def checkPlace (events : List RunEvent) (index : Nat) (now : DateTime) (event : RunEvent) :
    Except EngineError HistoryCheck :=
  match event.payload with
  | .choiceSelected data => s.choiceSelected w definitionHash fuel index now data
  | .forkOpened data => s.forkOpened w definitionHash fuel index now data
  | .forkBranchSettled data => s.forkBranchSettled w fuel index data
  | .forkJoinSettled data => s.forkJoinSettled w index data
  | .sagaStarted data => s.sagaStarted w definitionHash fuel index now data
  | .correctionAttemptStarted data => s.correctionAttemptStarted w index data
  | .sagaCorrectionCompleted data => s.sagaCorrectionCompleted w index data
  | .runOutcomeDecided _ => s.runOutcomeDecided w index
  | .parallelGroupStarted data => s.parallelGroupStarted w definitionHash fuel index now data
  | .stepAttemptStarted data => s.stepAttemptStarted w definitionHash fuel index event data
  | .stepAttemptSucceeded data => .ok (s.setGroupChild w data.nodeId .succeeded)
  | .stepAttemptFailed data => s.stepAttemptFailed w events index data
  | .stepRetryScheduled data => s.stepRetryScheduled w events index data
  | .parallelGroupCompleted data => s.parallelGroupCompleted w data
  | .approvalRequested data =>
    s.approvalRequested w definitionHash fuel index now event.occurredAt data
  | .approvalReviewRequested data =>
    s.approvalReviewRequested w definitionHash fuel index now data
  | .waitRegistered data => s.waitRegistered w definitionHash fuel index event.occurredAt data
  | .waitSatisfied data => .ok (s.setWaitChild w data.waitId .succeeded)
  | .waitTimedOut data =>
    .ok (s.setWaitChild w data.waitId
      (if data.behavior = .continue then .succeeded else .failed .serviceFailed))
  | .waitCancelled data => .ok (s.setWaitChild w data.waitId (.failed .invocationCancelled))
  | .runSucceeded _ => s.runSucceeded index
  | .lifecycleHookRequested data => s.lifecycleHookRequested events index event data
  | .lifecycleActionAttemptStarted data => s.lifecycleActionAttemptStarted w index data
  | .lifecycleHookCompleted data => s.lifecycleHookCompleted w index data
  | _ => .ok s

/-- One turn of the loop. An event of an iteration is checked by its payload alone: the events of
an iteration that go on (its start and its settlement) ask nothing more of the history. -/
def step (events : List RunEvent) (clock : Nat → DateTime) (s : HistoryCheck)
    (entry : RunEvent × Nat) : Except EngineError HistoryCheck :=
  let (event, index) := entry
  match event.iteration with
  | some scope => do
    (validateScopedPayloadAgainstDefinition w.toCompiledWorkflowDefinition definitionHash
      event.runId scope event.payload).mapError fail
    .ok s
  | none => do
    (validatePayloadAgainstDefinition w.toCompiledWorkflowDefinition definitionHash
      event.payload).mapError fail
    s.checkPlace w definitionHash fuel events index (clock index) event

end HistoryCheck

section
variable [Host] (fuel : Nat) (clock : Nat → DateTime) (w : DefinitionRef)
  (definitionHash : String) (events : List RunEvent)

def validateHistoryDefinitionRules : Except EngineError Unit := do
  let _ ← events.zipIdx.foldlM (HistoryCheck.step w definitionHash fuel events clock)
    { cursor := .withDefinition events w definitionHash }
  .ok ()

/-- The state that a `ValidatedHistory` of the source carries. -/
def checkEventHistoryAgainstDefinition : Except EngineError ProjectionFoldState := do
  let state ← (ProjectionFoldState.fromEvents events).mapError fun error =>
    EngineError.message error.toText
  validateHistoryDefinitionRules fuel clock w definitionHash events
  .ok state

def validateEventHistoryAgainstDefinition : Except EngineError Unit := do
  let _ ← checkEventHistoryAgainstDefinition fuel clock w definitionHash events
  .ok ()

end

end Woml
