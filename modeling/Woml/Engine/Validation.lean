import Woml.Definition.Queries

/-!
# Payloads against a definition

What a single payload must satisfy to belong to a run of a compiled definition, whatever the
history: the nodes, triggers, approvals, loops and actions it names exist and carry the values the
definition gives them. A `check…` is the arm of one payload, or of several that differ in a word.
`validatePayloadAgainstDefinition` is the check of an event of the run itself and
`validateScopedPayloadAgainstDefinition` that of an event of one iteration.
-/

namespace Woml

open Checked

namespace CompiledWorkflowDefinition

variable (w : CompiledWorkflowDefinition)

/-- The model schema lies between `first` and the newest. -/
def hasModelFrom (first : Nat) : Bool := first ≤ w.schemaVersion && w.schemaVersion ≤ 21

def forEachDescriptor (forEachId : String) : Option CompiledForEach :=
  w.graph.forEachList.find? (·.forEachId = forEachId)

def lifecycleActions : List CompiledLifecycleAction := w.lifecycleHooks.flatMap (·.actions)

end CompiledWorkflowDefinition

/-- An optional text as the source's `:?` formatting prints it. -/
def quoteOption : Option String → String
  | none => "None"
  | some s => s!"Some({Text.quote s})"

section
variable (w : CompiledWorkflowDefinition)

/-! ## Checks by identifier -/

def validateForEachId (forEachId : String) : Except String Unit :=
  failIf (w.forEachDescriptor forEachId).isNone
    s!"For-each event references unknown loop {Text.quote forEachId}."

/-- The corrective action `actionId` is the compiled `action`, or one of its iterations. -/
def CompiledCorrectiveAction.isIdentifiedBy (action : CompiledCorrectiveAction)
    (actionId : String) : Bool :=
  match action.identity with
  | .static compiledActionId => compiledActionId = actionId
  | .forEachIteration _ template =>
    match Text.splitOnce "\x7biterationKey\x7d" template with
    | none => false
    | some (before, after) =>
      ((Text.stripPrefix before actionId).bind (Text.stripSuffix after)).any fun key =>
        key ≠ "" && Text.all Char.isDigit key

def CompiledSaga.actions (saga : CompiledSaga) : CorrectiveActionKind →
    List CompiledCorrectiveAction
  | .compensation => saga.compensations
  | .cleanup => saga.cleanup

def validateCorrectionAction (sagaId actionId : String) (kind : CorrectiveActionKind) :
    Except String Unit := do
  let saga ← orFail (w.saga sagaId)
    s!"Correction action references unknown saga {Text.quote sagaId}."
  failIf (w.schemaVersion < 19 ∨ !(saga.actions kind).any (·.isIdentifiedBy actionId))
    (s!"Correction action {Text.quote actionId} does not match saga " ++
      s!"{Text.quote sagaId}.")

def validateReusableLifecycleBinding (invocationId definitionDigest : String)
    (actionId : Option String) : Except String Unit := do
  failIf (!w.hasModelFrom 14)
    "Reusable lifecycle events require compiled Model v14 or later."
  let lifecycle ← orFail
    ((w.reusableDefinitions.getD []).findSome? fun definition =>
      match definition with
      | .step candidate _ digest lifecycle
      | .notificationProvider candidate digest lifecycle =>
        if candidate = invocationId ∧ digest = definitionDigest then some lifecycle else none)
    "Reusable lifecycle event does not match an immutable Model v14 invocation."
  match actionId with
  | none => .ok ()
  | some actionId =>
    failIf (!lifecycle.any fun lifecycle =>
        ([lifecycle.onSuccess, lifecycle.onError, lifecycle.onComplete].flatMap
          (·.getD [])).contains actionId)
      "Reusable lifecycle event references an unknown action."

def validateOperationNode (nodeId : String) : Except String Unit := do
  failIf (w.schemaVersion < 8) "Operation events require compiled workflow Model v8."
  let lifecycleAction := w.lifecycleActions.any fun action =>
    action.actionId = nodeId && (action.handler = "runtime.lifecycle-script" ||
      action.handler = "notification.informational")
  let correctiveAction := w.graph.sagaList.any fun saga =>
    (validateCorrectionAction w saga.sagaId nodeId .compensation).isOk ||
      (validateCorrectionAction w saga.sagaId nodeId .cleanup).isOk
  if lifecycleAction || correctiveAction then .ok ()
  else
    let node ← orFail (w.node nodeId)
      s!"Operation references unknown node or lifecycle action {Text.quote nodeId}."
    failIf (node.handler ≠ "runtime.script" ∨ node.scriptRuntime.isNone)
      s!"Operation node {Text.quote nodeId} is not a Model v8 runtime.script node."

def validateRemoteDispatchPlacement (node : Option CompiledWorkflowNode)
    (data : RemoteDispatchTransitionedData) : Except String Unit := do
  let node ← orFail node
    s!"Remote dispatch references unknown executable node {Text.quote data.nodeId}."
  let maximumAttempts := node.retryPolicy.elim 1 (·.maxAttempts)
  failIf (w.schemaVersion ≠ 21 ∨ node.handler ≠ "runtime.script" ∨
      node.execution.all (fun execution =>
        execution.target = "local" || execution.target ≠ data.target) ∨
      data.attempt = 0 ∨ maximumAttempts < data.attempt)
    (s!"Remote dispatch for node {Text.quote data.nodeId} does not match its Model v21 " ++
      "placement and retry policy.")

/-- An attempt of a node of the graph; `validateScopedPayloadAgainstDefinition` has its own. -/
def checkAttemptNode (nodeId : String) : Except String Unit :=
  failIf (w.node nodeId).isNone s!"Attempt references unknown node {Text.quote nodeId}."

/-- The checks on a notification event differ in the noun of their messages. -/
def checkNotificationDelivery (approvalId deliveryId noun : String) : Except String Unit := do
  let approval ← orFail (w.approval approvalId)
    s!"Notification {noun} references an unknown approval."
  failIf (!approval.notifications.any (·.deliveryId = deliveryId))
    s!"Notification {noun} references an unknown compiled delivery."

def checkLock (lockId event : String) : Except String Unit :=
  failIf (w.durableLock lockId).isNone s!"{event} references an unknown Model v18 lock."

def checkLifecycleModel (message : String) : Except String Unit :=
  failIf (!w.hasModelFrom 11) message

def checkSaga (sagaId : String) : Except String Unit :=
  failIf (w.schemaVersion < 19 ∨ (w.saga sagaId).isNone)
    s!"Correction event references unknown saga {Text.quote sagaId}."

/-! ## Run starts -/

def checkRunAdmitted [Host] (definitionHash : String) (data : RunAdmittedData) :
    Except String Unit := do
  failIf (!w.hasModelFrom 12 ∨ data.definitionHash ≠ definitionHash ∨
      w.runtimePolicyHash ≠ some data.policyHash ∨
      w.runtimePolicyQueueName ≠ some data.queue.name)
    "run_admitted does not match the compiled definition and immutable policy identity."
  if data.trigger.id = "workflow-call" ∧ data.trigger.handler = "trigger.event" then .ok ()
  else
    let trigger ← orFail (w.trigger data.trigger.id)
      s!"run_admitted references unknown trigger {Text.quote data.trigger.id}."
    failIf (trigger.handler ≠ data.trigger.handler)
      "run_admitted trigger identity does not match the definition."

def checkRunExecutionStarted (data : RunExecutionStartedData) : Except String Unit := do
  failIf (!w.hasModelFrom 12)
    "Event v11+ runtime-policy events require compiled Model v12+."
  let expected := (w.runtimePolicy.bind (·.timeoutMs)).map fun timeoutMs =>
    DateTime.addMillis data.startedAt (min timeoutMs (2 ^ 63 - 1))
  failIf (data.timeoutAt ≠ expected)
    "run_execution_started timeoutAt does not match the compiled workflow timeout."

def RunStartedData.hasTriggerIdentity (data : RunStartedData) : Bool :=
  data.triggerId.isSome || data.triggerHandler.isSome || data.triggerOccurrenceId.isSome

def checkRunStarted (definitionHash : String) (data : RunStartedData) :
    Except String Unit := do
  failIf (data.workflowId ≠ w.workflowId ∨ data.definitionHash ≠ definitionHash)
    "run_started does not match the engine's workflow ID and definition hash."
  -- a workflow call is the one ingress there is
  if data.ingress.isSome then
    failIf data.hasTriggerIdentity
      "Workflow-call run_started requires no source trigger identity."
  else if w.schemaVersion = 10 then
    .error "Call-only Model v10 requires workflow_call ingress."
  else if 7 ≤ w.schemaVersion then
    let triggerId ← orFail data.triggerId "run_started v7 is missing its triggerId."
    let trigger ← orFail (w.trigger triggerId)
      s!"run_started references unknown trigger {Text.quote triggerId}."
    failIf (data.triggerHandler ≠ some trigger.handler ∨ data.triggerOccurrenceId.isNone)
      "run_started trigger identity does not match the compiled definition."
  else
    failIf data.hasTriggerIdentity
      "Pre-v7 run_started cannot carry production-trigger identity."

/-! ## Steps and control flow -/

def checkStepAttemptStarted (data : StepAttemptStartedData) : Except String Unit := do
  let node ← orFail (w.node data.nodeId)
    s!"Attempt references unknown node {Text.quote data.nodeId}."
  let maximumAttempts := node.retryPolicy.elim 1 (·.maxAttempts)
  failIf (data.attempt = 0 ∨ maximumAttempts < data.attempt ∨
      w.schemaVersion < 6 ∧ data.attempt ≠ 1)
    (s!"Node {Text.quote data.nodeId} attempt {data.attempt} exceeds its compiled maximum of " ++
      s!"{maximumAttempts}.")
  failIf (data.handler ≠ node.handler)
    (s!"Attempt handler {Text.quote data.handler} does not match node " ++
      s!"{Text.quote data.nodeId} handler {Text.quote node.handler}.")

def checkStepRetryScheduled (data : StepRetryScheduledData) : Except String Unit := do
  failIf (w.schemaVersion < 6) "step_retry_scheduled requires compiled model v6."
  let node ← orFail (w.node data.nodeId)
    s!"Retry schedule references unknown node {Text.quote data.nodeId}."
  let policy ← orFail node.retryPolicy
    (s!"Retry schedule references node {Text.quote data.nodeId} without a compiled retry " ++
      "policy.")
  failIf (node.handler ≠ "runtime.script" ∨ data.nextAttempt ≠ data.failedAttempt + 1 ∨
      policy.maxAttempts < data.nextAttempt)
    s!"Retry schedule for node {Text.quote data.nodeId} exceeds its compiled policy."

def branchSelectorId (branchId : String) : String := s!"__woml_branch__{branchId}__select"

/-- `armId` is an edge of the selector that belongs to the branch. -/
def hasArm (edges : List CompiledWorkflowEdge) (branchId armId : String) : Bool :=
  edges.any fun edge =>
    edge.source = branchSelectorId branchId && edge.id = armId && edge.branchId = some branchId

def checkBranchSelected (data : BranchSelectedData) : Except String Unit := do
  let selector ← orFail (w.node (branchSelectorId data.branchId))
    s!"branch_selected references unknown branch {Text.quote data.branchId}."
  failIf (selector.handler ≠ "engine.branch-select")
    s!"Branch {Text.quote data.branchId} does not have its canonical selector."
  failIf (!hasArm w.graph.edges data.branchId data.armId)
    (s!"Arm {Text.quote data.armId} is not selectable for branch " ++
      s!"{Text.quote data.branchId}.")

def checkChoiceSelected (data : ChoiceSelectedData) : Except String Unit := do
  let choice ← orFail (w.choice data.choiceId)
    s!"choice_selected references unknown choice {Text.quote data.choiceId}."
  failIf (!choice.armIds.contains data.armId)
    (s!"Arm {Text.quote data.armId} is not selectable for choice " ++
      s!"{Text.quote data.choiceId}.")

def checkForkBranchSettled (data : ForkBranchSettledData) : Except String Unit := do
  let fork ← orFail (w.fork data.forkId)
    s!"fork_branch_settled references unknown fork {Text.quote data.forkId}."
  let branch ← orFail (fork.branches.find? (·.branchId = data.branchId))
    (s!"fork_branch_settled references unknown branch {Text.quote data.branchId} in fork " ++
      s!"{Text.quote data.forkId}.")
  failIf (branch.terminalNodeId ≠ data.terminalNodeId)
    (s!"Fork branch {Text.quote data.forkId}.{Text.quote data.branchId} terminal does not " ++
      "match Model v13.")

def checkForkJoinSettled (data : ForkJoinSettledData) : Except String Unit := do
  let fork ← orFail (w.fork data.forkId)
    s!"fork_join_settled references unknown fork {Text.quote data.forkId}."
  failIf (data.blockingBranchId.any fun branchId => !fork.joinedBranchIds.contains branchId)
    s!"Fork {Text.quote data.forkId} join is blocked by an unjoined branch."

def checkParallelGroupCompleted (data : ParallelGroupCompletedData) : Except String Unit := do
  let group ← orFail (w.parallelGroup data.parallelId)
    (s!"parallel_group_completed references unknown parallel group " ++
      s!"{Text.quote data.parallelId}.")
  failIf ((data.failedNodeIds ++ data.cancelledNodeIds).any fun nodeId =>
      !group.childNodeIds.contains nodeId)
    (s!"parallel_group_completed for {Text.quote data.parallelId} references a node outside " ++
      "that group.")

/-! ## Approvals and waits -/

def checkApprovalRequested (data : ApprovalRequestedData) : Except String Unit := do
  let approval ← orFail (w.approval data.approvalId)
    s!"approval_requested references unknown approval {Text.quote data.approvalId}."
  let expectedPolicy ←
    if approval.onTimeout = "reject" then .ok ApprovalTimeoutPolicy.reject
    else if approval.onTimeout = "fail" then .ok ApprovalTimeoutPolicy.fail
    else .error s!"Approval {Text.quote data.approvalId} has an invalid policy."
  failIf (data.onTimeout ≠ expectedPolicy ∨ approval.timeoutMs.isSome ≠ data.expiresAt.isSome)
    (s!"approval_requested does not match approval {Text.quote data.approvalId} timeout " ++
      "inputs.")

/-- A rich approval with the authority policy that an event names. -/
def ApprovalDefinition.hasAuthority (approval : ApprovalDefinition) (required : Nat)
    (requiredRoles : List String) : Bool :=
  approval.review.isSome && approval.requiredApprovals = some required &&
    approval.requiredRoles = requiredRoles

def checkRichApproval (approvalId message : String) : Except String Unit :=
  failIf (!w.hasModelFrom 20 ∨ !(w.approval approvalId).any (·.review.isSome)) message

def checkApprovalReviewRequested (data : ApprovalReviewRequestedData) :
    Except String Unit := do
  let approval ← orFail (w.approval data.approvalId)
    s!"approval_review_requested references unknown approval {Text.quote data.approvalId}."
  failIf (!w.hasModelFrom 20 ∨ !approval.hasAuthority data.required data.requiredRoles)
    "approval_review_requested does not match its Model v20 authority policy."

def checkApprovalQuorumProgressed (data : ApprovalQuorumProgressedData) :
    Except String Unit := do
  let approval ← orFail (w.approval data.approvalId)
    "approval_quorum_progressed references an unknown approval."
  failIf (!w.hasModelFrom 20 ∨ !approval.hasAuthority data.required data.requiredRoles)
    "approval_quorum_progressed does not match its Model v20 authority policy."

def checkNotificationDeliveryRequested (data : NotificationDeliveryRequestedData) :
    Except String Unit := do
  let approval ← orFail (w.approval data.approvalId)
    s!"Notification references unknown approval {Text.quote data.approvalId}."
  let delivery ← orFail (approval.notifications.find? (·.deliveryId = data.deliveryId))
    s!"Notification references unknown delivery {Text.quote data.deliveryId}."
  failIf (data.provider ≠ delivery.provider ∨ data.destination ≠ delivery.destination)
    "Notification delivery intent does not match the compiled definition."

def checkNotificationDecisionAccepted (data : NotificationDecisionAcceptedData) :
    Except String Unit := do
  let approval ← orFail (w.approval data.approvalId)
    "Notification decision references an unknown approval."
  failIf (!approval.notifications.any fun delivery =>
      delivery.deliveryId = data.deliveryId && delivery.provider = data.provider)
    "Notification decision references an unknown compiled delivery."

def checkWaitRegistered (data : WaitRegisteredData) : Except String Unit := do
  let wait ← orFail (w.durableWait data.waitId)
    "wait_registered references an unknown durable wait."
  failIf (data.nodeId ≠ wait.nodeId ∨ wait.kind ≠ data.kind)
    "wait_registered does not match its compiled Model v17 descriptor."

def checkExternalSignalReceived (data : ExternalSignalReceivedData) : Except String Unit :=
  match w.durableWait data.waitId with
  | some (.signal _ _ signals _ _ _) =>
    failIf (!signals.contains data.signal)
      "external_signal_received names a signal not accepted by the wait."
  | _ => .error "external_signal_received references an unknown signal wait."

def checkWaitTimedOut (data : WaitTimedOutData) : Except String Unit :=
  match w.durableWait data.waitId with
  | some (.signal _ _ _ _ _ onTimeout) =>
    failIf (!(onTimeout = "fail" && data.behavior = .fail ||
        onTimeout = "continue" && data.behavior = .continue))
      "wait_timed_out behavior differs from the compiled wait policy."
  | _ => .error "wait_timed_out references an unknown signal wait."

def checkWait (waitId event : String) : Except String Unit :=
  failIf (w.durableWait waitId).isNone s!"{event} references an unknown durable wait."

/-! ## Lifecycle hooks -/

def checkLifecycleHookRequested (data : LifecycleHookRequestedData) :
    Except String Unit := do
  checkLifecycleModel w "Lifecycle hook events require compiled Model v11+."
  let hook ← orFail (w.lifecycleHook data.hookId)
    s!"Lifecycle request references unknown hook {Text.quote data.hookId}."
  failIf (hook.event ≠ data.event ∨ data.event.isStep ∧
      (w.lifecycleHookForStepEvent data.event data.subject.id).isNone)
    "Lifecycle hook request does not match its compiled binding."

/-- The hook that an action identifier starts with. -/
def hookIdOfAction (actionId : String) : String :=
  (Text.splitOnce ":action:" actionId).elim actionId (·.1)

def checkLifecycleAction (data : LifecycleActionIdentityData) : Except String Unit :=
  let actionExists := w.lifecycleHooks.any fun hook =>
    hook.hookId = hookIdOfAction data.actionId &&
      hook.actions.any (·.actionId = data.actionId)
  failIf (!w.hasModelFrom 11 ∨ !actionExists)
    "Lifecycle action event references an unknown Model v11+ action."

/-- Unlike a start or a success, a failure is checked against the actions of every hook. -/
def checkLifecycleActionFailed (data : LifecycleActionFailedData) : Except String Unit :=
  failIf (!w.hasModelFrom 11 ∨ !w.lifecycleActions.any (·.actionId = data.actionId))
    "Lifecycle action failure references an unknown Model v11+ action."

def checkLifecycleHookCompleted (data : LifecycleHookCompletedData) : Except String Unit :=
  failIf (!w.hasModelFrom 11 ∨ w.lifecycle.isNone ∨ !isDefinitionHash data.hookInvocationId)
    "Lifecycle hook completion requires a Model v11+ lifecycle binding."

/-! ## Ends of a run before Model v11 -/

def checkRunSucceeded (data : RunSucceededData) : Except String Unit := do
  failIf (11 ≤ w.schemaVersion)
    "Model v11+ finalizes with run_outcome_decided and run_finalized."
  failIf (w.terminalNodeId ≠ some data.terminalNodeId)
    (s!"run_succeeded names {Text.quote data.terminalNodeId}, which is not the workflow " ++
      "terminal node.")

def parallelFailurePolicy (onError : String) : Option ParallelFailurePolicy :=
  if onError = "fail-fast" then some .failFast
  else if onError = "wait-all" then some .waitAll
  else none

def checkRunFailed (data : RunFailedData) : Except String Unit := do
  failIf (11 ≤ w.schemaVersion)
    "Model v11+ finalizes with run_outcome_decided and run_finalized."
  match data with
  | .v5Notification approvalId _ failedDeliveryIds _ => do
    let approval ← orFail (w.approval approvalId)
      s!"run_failed references unknown approval {Text.quote approvalId}."
    failIf (failedDeliveryIds.any fun id => !approval.notifications.any (·.deliveryId = id))
      "run_failed references a delivery outside its compiled approval."
  | .v1 nodeId _ _ _ =>
    failIf (nodeId.any fun id => (w.node id).isNone)
      s!"run_failed references unknown node {quoteOption nodeId}."
  | .v2Attempt nodeId _ _ _ =>
    failIf (w.node nodeId).isNone
      s!"run_failed references unknown node {quoteOption (some nodeId)}."
  | .v2Branch branchId armId _ _ => do
    failIf (w.node (branchSelectorId branchId)).isNone
      s!"run_failed references unknown branch {Text.quote branchId}."
    failIf (armId.any fun armId => !hasArm w.graph.edges branchId armId)
      s!"run_failed references an unknown arm for branch {Text.quote branchId}."
  | .v3Parallel parallelId policy primaryNodeId failed cancelled _ => do
    let group ← orFail (w.parallelGroup parallelId)
      s!"run_failed references unknown parallel group {Text.quote parallelId}."
    let expectedPolicy ← orFail (parallelFailurePolicy group.onError)
      s!"Parallel group {Text.quote parallelId} has an invalid policy."
    failIf (policy ≠ expectedPolicy ∨ !failed.contains primaryNodeId ∨
        (failed ++ cancelled).any fun nodeId => !group.childNodeIds.contains nodeId)
      (s!"run_failed does not match parallel group {Text.quote parallelId} and its compiled " ++
        "policy.")
  | .v4Approval approvalId _ _ =>
    failIf (w.approval approvalId).isNone
      s!"run_failed references unknown approval {Text.quote approvalId}."

/-! ## Corrections -/

def checkCompensationRegistered (data : CompensationRegisteredData) : Except String Unit :=
  let valid := (w.saga data.sagaId).any fun saga =>
    saga.compensations.any fun action =>
      action.actionId = data.actionId && action.forStepId = some data.forStepId
  failIf (w.schemaVersion < 19 ∨ !valid) "Compensation registration does not match Model v19."

/-- The node of a corrective action whose identity satisfies `p`. -/
def correctiveNode (p : CompiledCorrectionIdentity → Bool) (nodeId : String) :
    Option CompiledWorkflowNode :=
  ((w.graph.sagaList.flatMap fun saga => saga.compensations ++ saga.cleanup).find? fun action =>
    p action.identity && action.node.id = nodeId).map (·.node)

def CompiledCorrectionIdentity.isStatic : CompiledCorrectionIdentity → Bool
  | static _ => true
  | forEachIteration .. => false

/-! ## Payloads -/

def validatePayloadAgainstDefinition [Host] (definitionHash : String) :
    RunEventPayload → Except String Unit
  | .runAdmitted data => checkRunAdmitted w definitionHash data
  | .runExecutionStarted data => checkRunExecutionStarted w data
  | .runTimeoutReached _ =>
    failIf (!w.hasModelFrom 12)
      "Event v11+ runtime-policy events require compiled Model v12+."
  | .runStarted data => checkRunStarted w definitionHash data
  | .stepAttemptStarted data => checkStepAttemptStarted w data
  | .stepAttemptSucceeded data => checkAttemptNode w data.nodeId
  | .stepAttemptFailed data => checkAttemptNode w data.nodeId
  | .stepRetryScheduled data => checkStepRetryScheduled w data
  | .branchSelected data => checkBranchSelected w data
  | .choiceSelected data => checkChoiceSelected w data
  | .forkOpened data =>
    failIf (w.fork data.forkId).isNone
      s!"fork_opened references unknown fork {Text.quote data.forkId}."
  | .forkBranchSettled data => checkForkBranchSettled w data
  | .forkJoinSettled data => checkForkJoinSettled w data
  | .parallelGroupStarted data =>
    failIf (w.parallelGroup data.parallelId).isNone
      (s!"parallel_group_started references unknown parallel group " ++
        s!"{Text.quote data.parallelId}.")
  | .parallelGroupCompleted data => checkParallelGroupCompleted w data
  | .approvalRequested data => checkApprovalRequested w data
  | .approvalReviewRequested data => checkApprovalReviewRequested w data
  | .approvalReviewerDecisionRecorded data =>
    checkRichApproval w data.approvalId
      "approval_reviewer_decision_recorded requires a Model v20 rich approval."
  | .approvalQuorumProgressed data => checkApprovalQuorumProgressed w data
  | .approvalResolved data =>
    failIf (w.approval data.approvalId).isNone
      s!"approval_resolved references unknown approval {Text.quote data.approvalId}."
  | .approvalInvalidated data =>
    checkRichApproval w data.approvalId
      "approval_invalidated requires a Model v20 rich approval."
  | .notificationDeliveryRequested data => checkNotificationDeliveryRequested w data
  | .notificationDeliveryAttemptStarted data =>
    checkNotificationDelivery w data.approvalId data.deliveryId "attempt"
  | .notificationDeliverySucceeded data =>
    checkNotificationDelivery w data.approvalId data.deliveryId "success"
  | .notificationDeliveryFailed data =>
    checkNotificationDelivery w data.approvalId data.deliveryId "failure"
  | .notificationDecisionAccepted data => checkNotificationDecisionAccepted w data
  | .notificationMessageUpdateRequested data =>
    checkNotificationDelivery w data.approvalId data.deliveryId "update"
  | .notificationMessageUpdateAttemptStarted data | .notificationMessageUpdated data =>
    checkNotificationDelivery w data.approvalId data.deliveryId "update attempt"
  | .notificationMessageUpdateFailed data =>
    checkNotificationDelivery w data.approvalId data.deliveryId "update failure"
  | .waitRegistered data => checkWaitRegistered w data
  | .externalSignalReceived data => checkExternalSignalReceived w data
  | .waitSatisfied data => checkWait w data.waitId "wait_satisfied"
  | .waitTimedOut data => checkWaitTimedOut w data
  | .waitCancelled data => checkWait w data.waitId "wait_cancelled"
  | .lockWaitRegistered data => checkLock w data.lockId "lock_wait_registered"
  | .lockAcquired data => checkLock w data.lockId "lock_acquired"
  | .lockReleased data => checkLock w data.lockId "lock_released"
  | .lockAcquireTimedOut data => checkLock w data.lockId "lock_acquire_timed_out"
  | .lockAcquisitionCancelled data => checkLock w data.lockId "lock_acquisition_cancelled"
  | .lockLeaseLost data => checkLock w data.lockId "lock_lease_lost"
  | .runSucceeded data => checkRunSucceeded w data
  | .operationStarted data => validateOperationNode w data.nodeId
  | .operationSucceeded data => validateOperationNode w data.nodeId
  | .operationFailed data => validateOperationNode w data.nodeId
  | .runCancellationRequested _ | .runOutcomeDecided _ | .runFinalized _ =>
    checkLifecycleModel w "Lifecycle and run-control events require compiled Model v11+."
  | .lifecycleHookRequested data => checkLifecycleHookRequested w data
  | .lifecycleActionAttemptStarted data | .lifecycleActionSucceeded data =>
    checkLifecycleAction w data
  | .lifecycleActionFailed data => checkLifecycleActionFailed w data
  | .lifecycleHookCompleted data => checkLifecycleHookCompleted w data
  | .reusableLifecycleRequested data =>
    validateReusableLifecycleBinding w data.invocationId data.definitionDigest none
  | .reusableLifecycleActionStarted data =>
    validateReusableLifecycleBinding w data.invocationId data.definitionDigest
      (some data.actionId)
  | .reusableLifecycleActionSucceeded data =>
    validateReusableLifecycleBinding w data.invocationId data.definitionDigest
      (some data.actionId)
  | .reusableLifecycleActionFailed data =>
    validateReusableLifecycleBinding w data.invocationId data.definitionDigest
      (some data.actionId)
  | .reusableLifecycleCompleted data =>
    validateReusableLifecycleBinding w data.invocationId data.definitionDigest none
  | .runFailed data => checkRunFailed w data
  | .forEachOpened data => validateForEachId w data.forEachId
  | .forEachIterationStarted data => validateForEachId w data.forEachId
  | .forEachIterationSucceeded data => validateForEachId w data.forEachId
  | .forEachIterationFailed data => validateForEachId w data.forEachId
  | .forEachIterationSkipped data => validateForEachId w data.forEachId
  | .forEachSucceeded data | .forEachFailed data | .forEachCancelled data =>
    validateForEachId w data.forEachId
  | .sagaStarted data | .sagaForwardSucceeded data | .sagaCorrectionCompleted data =>
    checkSaga w data.sagaId
  | .compensationRegistered data => checkCompensationRegistered w data
  | .sagaCorrectionStarted data =>
    failIf (w.saga data.sagaId).isNone
      "Saga correction references an unknown Model v19 saga."
  | .correctionAttemptStarted data | .correctionAttemptSucceeded data =>
    validateCorrectionAction w data.sagaId data.actionId data.actionKind
  | .correctionAttemptFailed data =>
    validateCorrectionAction w data.sagaId data.actionId data.actionKind
  | .correctionRetryScheduled data =>
    validateCorrectionAction w data.sagaId data.actionId data.actionKind
  | .correctionInterrupted data =>
    validateCorrectionAction w data.sagaId data.actionId data.actionKind
  | .manualRecoveryRequired data =>
    validateCorrectionAction w data.sagaId data.actionId data.actionKind
  | .infrastructurePolicyDecisionRecorded _ => .ok ()
  | .remoteDispatchTransitioned data =>
    validateRemoteDispatchPlacement w
      ((w.node data.nodeId).or
        (correctiveNode w CompiledCorrectionIdentity.isStatic data.nodeId)) data

/-! ## Payloads of an iteration -/

/-- What the body of a loop is asked about the payloads of its iterations. -/
def CompiledForEach.bodyNode (descriptor : CompiledForEach) (nodeId : String) :
    Option CompiledWorkflowNode :=
  descriptor.body.nodes.find? (·.id = nodeId)

/-- `noun` is the kind of work that names the node. -/
def checkBodyNode (descriptor : CompiledForEach) (nodeId noun : String) : Except String Unit :=
  failIf (descriptor.bodyNode nodeId).isNone
    s!"Iteration {noun} references unknown node {Text.quote nodeId}."

def checkIterationAttemptStarted (descriptor : CompiledForEach)
    (data : StepAttemptStartedData) : Except String Unit := do
  let node ← orFail (descriptor.bodyNode data.nodeId)
    s!"Iteration attempt references unknown node {Text.quote data.nodeId}."
  let maximum := node.retryPolicy.elim 1 (·.maxAttempts)
  failIf (data.handler ≠ node.handler ∨ data.attempt = 0 ∨ maximum < data.attempt)
    (s!"Iteration attempt for node {Text.quote data.nodeId} does not match its compiled " ++
      "handler and retry policy.")

def checkIterationRetry (descriptor : CompiledForEach) (data : StepRetryScheduledData) :
    Except String Unit := do
  let node ← orFail (descriptor.bodyNode data.nodeId)
    s!"Iteration retry references unknown node {Text.quote data.nodeId}."
  let policy ← orFail node.retryPolicy
    s!"Iteration node {Text.quote data.nodeId} has no retry policy."
  failIf (data.nextAttempt ≠ data.failedAttempt + 1 ∨ policy.maxAttempts < data.nextAttempt)
    s!"Iteration retry for node {Text.quote data.nodeId} exceeds its compiled policy."

/-- The registered action is the compiled one with the iteration's key filled in. -/
def checkIterationCompensation (scope : ForEachIterationScope)
    (data : CompensationRegisteredData) : Except String Unit :=
  let valid := (w.saga data.sagaId).any fun saga =>
    saga.compensations.any fun action =>
      action.forStepId = some data.forStepId &&
        match action.identity with
        | .forEachIteration forEachId template =>
          forEachId = scope.forEachId &&
            Text.replace "\x7biterationKey\x7d" (toString scope.index) template = data.actionId
        | .static _ => false
  failIf (!valid) "Iteration compensation registration does not match Model v19."

def checkIterationChoice (descriptor : CompiledForEach) (data : ChoiceSelectedData) :
    Except String Unit := do
  let choice ← orFail (descriptor.body.choices.find? (·.choiceId = data.choiceId))
    s!"Unknown iteration choice {Text.quote data.choiceId}."
  failIf (!choice.armIds.contains data.armId)
    (s!"Arm {Text.quote data.armId} is not selectable for iteration choice " ++
      s!"{Text.quote data.choiceId}.")

def checkIterationBranch (descriptor : CompiledForEach) (data : BranchSelectedData) :
    Except String Unit := do
  let selector ← orFail (descriptor.bodyNode (branchSelectorId data.branchId))
    s!"Unknown iteration conditional branch {Text.quote data.branchId}."
  failIf (!(selector.handler = "engine.branch-select" &&
      hasArm descriptor.body.edges data.branchId data.armId))
    (s!"Arm {Text.quote data.armId} is not selectable for iteration branch " ++
      s!"{Text.quote data.branchId}.")

def checkIterationParallel (descriptor : CompiledForEach) (parallelId : String) :
    Except String Unit :=
  let start := CompiledWorkflowDefinition.parallelStartNodeId parallelId
  failIf (!((descriptor.bodyNode start).isSome &&
      (descriptor.bodyNode parallelId).any (·.handler = "engine.parallel-join")))
    s!"Unknown iteration parallel group {Text.quote parallelId}."

def checkIterationHookRequested [Host] (runId : String) (scope : ForEachIterationScope)
    (data : LifecycleHookRequestedData) : Except String Unit := do
  let nodeId ← orFail
    (Text.stripPrefix s!"{scope.forEachId}[{scope.index}]." data.subject.id)
    "Iteration lifecycle subject does not match its durable scope."
  let hook ← orFail (w.lifecycleHookForStepEvent data.event nodeId)
    "Iteration lifecycle request does not match a compiled step hook."
  failIf (data.subject.kind ≠ .step ∨ hook.hookId ≠ data.hookId ∨
      deriveLifecycleHookInvocationId runId data.hookId data.subject.kind data.subject.id ≠
        data.hookInvocationId)
    "Iteration lifecycle request does not match its compiled binding."

def checkIterationAction (actionId : String) (attempt : Nat) : Except String Unit :=
  failIf (!w.lifecycleActions.any (·.actionId = actionId) ∨ attempt = 0)
    "Iteration lifecycle action does not match its compiled binding."

def CompiledCorrectionIdentity.isIterationOf (forEachId : String) :
    CompiledCorrectionIdentity → Bool
  | static _ => false
  | forEachIteration loopId _ => loopId = forEachId

def validateScopedPayloadAgainstDefinition [Host] (definitionHash runId : String)
    (scope : ForEachIterationScope) (payload : RunEventPayload) : Except String Unit := do
  let descriptor ← orFail (w.forEachDescriptor scope.forEachId)
    s!"Unknown for-each scope {Text.quote scope.forEachId}."
  match payload with
  | .stepAttemptStarted data => checkIterationAttemptStarted descriptor data
  | .compensationRegistered data => checkIterationCompensation w scope data
  | .stepAttemptSucceeded data => checkBodyNode descriptor data.nodeId "attempt"
  | .stepAttemptFailed data => checkBodyNode descriptor data.nodeId "attempt"
  | .stepRetryScheduled data => checkIterationRetry descriptor data
  | .choiceSelected data => checkIterationChoice descriptor data
  | .branchSelected data => checkIterationBranch descriptor data
  | .parallelGroupStarted data => checkIterationParallel descriptor data.parallelId
  | .parallelGroupCompleted data => checkIterationParallel descriptor data.parallelId
  | .operationStarted data => checkBodyNode descriptor data.nodeId "operation"
  | .operationSucceeded data => checkBodyNode descriptor data.nodeId "operation"
  | .operationFailed data => checkBodyNode descriptor data.nodeId "operation"
  | .lifecycleHookRequested data => checkIterationHookRequested w runId scope data
  | .lifecycleActionAttemptStarted data | .lifecycleActionSucceeded data =>
    checkIterationAction w data.actionId data.attempt
  | .lifecycleActionFailed data => checkIterationAction w data.actionId data.attempt
  | .lifecycleHookCompleted _ => .ok ()
  | .remoteDispatchTransitioned data =>
    validateRemoteDispatchPlacement w
      ((descriptor.bodyNode data.nodeId).or
        (correctiveNode w (CompiledCorrectionIdentity.isIterationOf scope.forEachId)
          data.nodeId)) data
  | payload => validatePayloadAgainstDefinition w definitionHash payload

end

end Woml
