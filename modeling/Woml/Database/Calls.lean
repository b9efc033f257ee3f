import Woml.Database.Dispatch

/-!
# Workflow calls and internal events

A step can call another workflow, and a run can publish an event that starts runs of the workflows
which subscribe to it. Either way the new run is admitted in one transaction with a row that leads
back to its parent. Each of the two limits the depth of its own chains and refuses a cycle in its
own lineage. `DurableStore.perform` puts the transactions of the tables together.
-/

namespace Woml

open Checked

inductive DurableError
  | store (error : DurableStoreError)
  | dispatch (error : RemoteDispatchError)
  | workflowCallHistoryInvalid (message : String)
  | workflowCallCycle
  | workflowCallDefinitionMismatch
  | workflowCallDepthExceeded
  | workflowCallIdempotencyConflict
  | internalEventDepthExceeded
  | internalEventCycle
  | internalEventIdempotencyConflict

def maxWorkflowCallDepth : Nat := 32

/-- The depth of a chain of internal events. -/
def maxInternalEventDepth : Nat := 32

structure WorkflowCallAdmissionRequest where
  callKey : String
  parentRunId : String
  parentNodeId : String
  parentAttempt : Nat
  targetWorkflowId : String
  targetDefinitionHash : String
  childRunId : String
  payload : JsonMap
  admittedAt : DateTime

structure InternalEventAdmissionRequest where
  publicationId : String
  parentRunId : String
  eventName : String
  emittedAt : DateTime
  trigger : TriggerAdmissionRequest

/-- The text after `sha256:`, if a text starts with it. -/
def withoutDigestLabel (text : String) : String :=
  if "sha256:".toList.isPrefixOf text.toList then String.ofList (text.toList.drop 7) else text

def workflowCallPayloadDigest [Host] (payload : JsonMap) : Except DurableStoreError String := do
  let encoded ← (Host.canonicalJson (.object payload)).mapError fun _ =>
    .contract "Workflow call payload is not canonical JSON."
  failIf (1048576 < encoded.length)
    (.contract "Workflow call payload exceeds the 1 MiB durable admission limit.")
  .ok (sha256Prefixed encoded)

def validateWorkflowCallAdmissionRequest (request : WorkflowCallAdmissionRequest) :
    Except DurableStoreError Unit :=
  failIf (!isDefinitionHash request.callKey ∨ !isDefinitionHash request.targetDefinitionHash ∨
      request.childRunId ≠ "run_call_" ++ withoutDigestLabel request.callKey ∨
      request.parentRunId = "" ∨ 256 < request.parentRunId.utf8ByteSize ∨
      request.parentNodeId = "" ∨ 256 < request.parentNodeId.utf8ByteSize ∨
      !(1 ≤ request.parentAttempt && request.parentAttempt ≤ 10) ∨
      request.targetWorkflowId = "" ∨ 256 < request.targetWorkflowId.utf8ByteSize)
    (.contract "Workflow call admission identity is invalid.")

/-- The first event of the child of a call. -/
def workflowCallPayload (request : WorkflowCallAdmissionRequest) :
    Option (String × String) → RunEventPayload
  | some (policyHash, queueName) => .runAdmitted
      { definitionHash := request.targetDefinitionHash
        policyHash
        trigger := { id := "workflow-call", handler := "trigger.event" }
        payload := request.payload
        queue := { name := queueName, discipline := .workConservingFifo }
        admittedAt := request.admittedAt
        occurrenceSequence := 0 }
  | none => .runStarted
      { workflowId := request.targetWorkflowId
        definitionHash := request.targetDefinitionHash
        triggerId := none
        triggerHandler := none
        triggerOccurrenceId := none
        ingress := some (.workflowCall request.callKey)
        trigger := request.payload }

namespace DurableStore

variable (d : DurableStore)

def calls : List WorkflowCall := d.side .workflowCalls

def publications : List InternalEventPublication := d.side .internalEventPublications

def deliveries : List InternalEventDelivery := d.side .internalEventDeliveries

/-- The call that started a run. -/
def callOf (runId : String) : Option WorkflowCall := d.calls.find? (·.childRunId = runId)

/-- The publication that started a run. -/
def publicationOf (runId : String) : Option InternalEventPublication := do
  let delivery ← d.deliveries.find? (·.runId = runId)
  d.publications.find? (·.publicationId = delivery.publicationId)

/-! ## Workflow calls -/

/-- The run and the callers before it. -/
def callLineage : Nat → String → List String
  | 0, _ => []
  | fuel + 1, runId => runId ::
    match d.callOf runId with
    | some call => callLineage fuel call.parentRunId
    | none => []

/-- Every caller has a row of its own, so there are no more of them than rows. -/
def workflowCallWouldCycle (parentRunId targetWorkflowId : String) : Bool :=
  (d.callLineage (d.calls.length + 1) parentRunId).any fun runId =>
    (d.core.runs.get? runId).any (·.workflowId = targetWorkflowId)

section
variable [Host] [Inspection] (fuel : Nat) (clock : Nat → DateTime)

/-- The step of the parent that calls has an attempt under way. -/
def requireActiveParent (request : WorkflowCallAdmissionRequest) : Except DurableError Unit := do
  let run ← (d.core.runBinding request.parentRunId).mapError .store
  let w ← (d.core.definitionForRun request.parentRunId).mapError .store
  failIf (w.node request.parentNodeId).isNone
    (.workflowCallHistoryInvalid "parent node is not present in its bound definition")
  let p ← (foldEvents run.events).mapError fun e => .store (.projection e)
  failIf (!(p.latestAttempt request.parentNodeId).any fun attempt =>
      attempt.identity.attempt = request.parentAttempt && attempt.status.isStarted)
    (.workflowCallHistoryInvalid "parent step attempt is not active")

/-- A call whose key is in the table: the request repeats it. The checks of the stored row itself
are left out, as is the one of the child's history. -/
def repeatedCall (request : WorkflowCallAdmissionRequest) (payloadDigest : String) (depth : Nat)
    (existing : WorkflowCall) : Except DurableError DurableStore := do
  failIf (existing.parentRunId ≠ request.parentRunId ∨
      existing.parentNodeId ≠ request.parentNodeId ∨
      existing.targetWorkflowId ≠ request.targetWorkflowId ∨
      existing.targetDefinitionHash ≠ request.targetDefinitionHash ∨
      existing.childRunId ≠ request.childRunId ∨ existing.payloadDigest ≠ payloadDigest ∨
      existing.depth ≠ depth) .workflowCallIdempotencyConflict
  .ok d

/-- The child with its first event, and the row of the call. -/
def startCalledRun (request : WorkflowCallAdmissionRequest) (eventId payloadDigest : String)
    (depth : Nat) (w : DefinitionRef) : Except DurableError DurableStore := do
  failIf (d.core.runs.contains request.childRunId) .workflowCallIdempotencyConflict
  failIf (12 ≤ w.schemaVersion ∧ runtimePolicyQueueCeiling ≤ d.core.policyQueue.size)
    (.store .runtimePolicyQueueFull)
  let identity ← (d.core.runtimePolicyIdentity w request.targetDefinitionHash).mapError .store
  let core ← (d.core.startRun fuel clock request.childRunId w request.targetDefinitionHash
    [{ eventId, occurredAt := request.admittedAt
       payload := workflowCallPayload request identity }]).mapError .store
  let started : DurableStore := { d with core }
  .ok (started.withSide .workflowCalls (d.calls ++
    [{ callKey := request.callKey
       parentRunId := request.parentRunId
       parentNodeId := request.parentNodeId
       parentAttempt := request.parentAttempt
       targetWorkflowId := request.targetWorkflowId
       targetDefinitionHash := request.targetDefinitionHash
       childRunId := request.childRunId
       payloadDigest
       depth
       admittedAt := request.admittedAt }]))

def admitWorkflowCall (request : WorkflowCallAdmissionRequest) (eventId : String) :
    Except DurableError DurableStore := do
  (validateWorkflowCallAdmissionRequest request).mapError .store
  let payloadDigest ← (workflowCallPayloadDigest request.payload).mapError .store
  d.requireActiveParent request
  failIf (d.workflowCallWouldCycle request.parentRunId request.targetWorkflowId) .workflowCallCycle
  let w ← orFail (d.core.definitions.get? request.targetDefinitionHash)
    (.store (.definitionNotFound request.targetDefinitionHash))
  w.validateStructure.mapError .store
  failIf (w.workflowId ≠ request.targetWorkflowId) .workflowCallDefinitionMismatch
  let depth := ((d.callOf request.parentRunId).map (·.depth)).getD 0 + 1
  failIf (maxWorkflowCallDepth < depth) .workflowCallDepthExceeded
  match d.calls.find? (·.callKey = request.callKey) with
  | some existing => d.repeatedCall request payloadDigest depth existing
  | none => d.startCalledRun fuel clock request eventId payloadDigest depth w

end

/-! ## Internal events -/

/-- The entry through which an occurrence started a run. -/
def entryOf (runId : String) : Option (String × String) :=
  (d.core.occurrences.values.find? (·.runId = runId)).map fun o => (o.workflowId, o.triggerId)

/-- The loop over the ancestors of a publication; at most 32 runs are inspected. -/
def requireFreshEntry (entry : String × String) : Nat → Option String → Except DurableError Unit
  | _, none => .ok ()
  | 0, some _ => .error .internalEventDepthExceeded
  | left + 1, some runId => do
    failIf (d.entryOf runId = some entry) .internalEventCycle
    requireFreshEntry entry left ((d.publicationOf runId).map (·.parentRunId))

section
variable [Host] [Inspection] (fuel : Nat) (clock : Nat → DateTime)

/-- The row of the publication, which may be there from the delivery to another subscriber. -/
def publish (request : InternalEventAdmissionRequest) (payloadHash : String) (depth : Nat) :
    Except DurableError DurableStore :=
  match d.publications.find? (·.publicationId = request.publicationId) with
  | some existing => do
    failIf (existing.parentRunId ≠ request.parentRunId ∨ existing.eventName ≠ request.eventName ∨
        existing.payloadHash ≠ payloadHash ∨ existing.depth ≠ depth)
      .internalEventIdempotencyConflict
    .ok d
  | none => .ok (d.withSide .internalEventPublications (d.publications ++
      [{ publicationId := request.publicationId
         parentRunId := request.parentRunId
         eventName := request.eventName
         payloadHash
         depth
         emittedAt := request.emittedAt }]))

/-- The row of the delivery of a publication to a subscriber. -/
def deliver (request : InternalEventAdmissionRequest) (runId : String) :
    Except DurableError DurableStore :=
  match d.deliveries.find? fun row => row.publicationId = request.publicationId &&
      row.workflowId = request.trigger.workflowId && row.triggerId = request.trigger.triggerId with
  | some existing => do
    failIf (existing.runId ≠ runId) .internalEventIdempotencyConflict
    .ok d
  | none => do
    failIf (d.deliveries.any (·.runId = runId)) (.store .constraint)
    .ok (d.withSide .internalEventDeliveries (d.deliveries ++
      [{ publicationId := request.publicationId
         workflowId := request.trigger.workflowId
         triggerId := request.trigger.triggerId
         runId }]))

def admitInternalEventOccurrence (request : InternalEventAdmissionRequest) (ids : OccurrenceIds) :
    Except DurableError (TriggerAdmissionOutcome × DurableStore) := do
  (validateTriggerAdmissionRequest request.trigger).mapError .store
  failIf (request.trigger.triggerHandler ≠ "trigger.event" ∨
      !"internal:v1:sha256:".toList.isPrefixOf request.publicationId.toList ∨
      request.publicationId.utf8ByteSize ≠ 83 ∨ request.eventName = "" ∨
      256 < request.eventName.utf8ByteSize)
    (.store (.contract "Internal event admission identity is invalid."))
  let _ ← (d.core.runBinding request.parentRunId).mapError .store
  let payloadHash ← (canonicalPayloadHash request.trigger.payload).mapError .store
  let depth := ((d.publicationOf request.parentRunId).map (·.depth)).getD 0 + 1
  failIf (maxInternalEventDepth < depth) .internalEventDepthExceeded
  d.requireFreshEntry (request.trigger.workflowId, request.trigger.triggerId)
    maxInternalEventDepth (some request.parentRunId)
  let published ← d.publish request payloadHash depth
  let (outcome, core) ← (published.core.admitTriggerOccurrence fuel clock request.trigger
    ids).mapError .store
  let admitted : DurableStore := { published with core }
  let delivered ← admitted.deliver request outcome.runId
  .ok (outcome, delivered)

end

end DurableStore

/-! ## The transactions of the tables -/

inductive DurableRequest
  | store (request : StoreRequest)
  | call (request : WorkflowCallAdmissionRequest) (eventId : String)
  | event (request : InternalEventAdmissionRequest) (ids : OccurrenceIds)
  | bindPolicy (runId policyDigest : String)
  | requestDispatch (request : RemoteDispatchRequestV1) (auditId : String)
  | offerDispatch (dispatchId workerId sessionId offerId : String) (expiresAt now : DateTime)
      (auditId : String)
  | acceptDispatch (dispatchId workerId sessionId offerId : String) (now : DateTime)
      (auditId : String)
  | startDispatch (dispatchId workerId sessionId : String) (now : DateTime) (auditId : String)
  | heartbeat (dispatchId workerId sessionId : String) (sequence : Nat) (state : Value)
      (now : DateTime) (auditId : String)
  | cancelDispatch (dispatchId : String) (now : DateTime) (auditId : String)
  | endDispatch (dispatchId workerId sessionId : String) (outcome : RemoteDispatchStateV1)
      (terminalDigest : String) (now : DateTime) (auditId : String)
  | markLost (dueBefore now : DateTime) (limit : Nat) (auditId : String → String)
  | reconcile (dispatchId : String) (resolution : DurableStore.RemoteDispatchResolution)
      (actor evidenceDigest : String) (now : DateTime) (auditId : String)

namespace DurableStore

variable [Host] [Inspection] (fuel : Nat) (clock : Nat → DateTime)

def perform (d : DurableStore) : DurableRequest → Except DurableError DurableStore
  | .store request => do
    let (_, core) ← (d.core.perform fuel clock request).mapError .store
    .ok { d with core }
  | .call request eventId => d.admitWorkflowCall fuel clock request eventId
  | .event request ids => do
    let (_, d) ← d.admitInternalEventOccurrence fuel clock request ids
    .ok d
  | .bindPolicy runId policyDigest =>
    (d.bindInfrastructurePolicy runId policyDigest).mapError .store
  | .requestDispatch request auditId => (d.requestRemoteDispatch request auditId).mapError .dispatch
  | .offerDispatch dispatchId workerId sessionId offerId expiresAt now auditId =>
    (d.offerRemoteDispatch dispatchId workerId sessionId offerId expiresAt now auditId).mapError
      .dispatch
  | .acceptDispatch dispatchId workerId sessionId offerId now auditId =>
    (d.acceptRemoteDispatch dispatchId workerId sessionId offerId now auditId).mapError .dispatch
  | .startDispatch dispatchId workerId sessionId now auditId =>
    (d.startRemoteDispatch dispatchId workerId sessionId now auditId).mapError .dispatch
  | .heartbeat dispatchId workerId sessionId sequence state now auditId =>
    (d.heartbeatRemoteDispatch dispatchId workerId sessionId sequence state now auditId).mapError
      .dispatch
  | .cancelDispatch dispatchId now auditId =>
    (d.requestRemoteDispatchCancel dispatchId now auditId).mapError .dispatch
  | .endDispatch dispatchId workerId sessionId outcome terminalDigest now auditId =>
    (d.terminalRemoteDispatch dispatchId workerId sessionId outcome terminalDigest now
      auditId).mapError .dispatch
  | .markLost dueBefore now limit auditId =>
    (d.markLostRemoteDispatches dueBefore now limit auditId).mapError .dispatch
  | .reconcile dispatchId resolution actor evidenceDigest now auditId =>
    (d.reconcileRemoteDispatch dispatchId resolution actor evidenceDigest now auditId).mapError
      .dispatch

/-- Transactions one after the other; one that fails leaves the store as it was. -/
def run (d : DurableStore) (requests : List DurableRequest) : DurableStore :=
  requests.foldl (fun d request =>
    match d.perform fuel clock request with
    | .ok next => next
    | .error _ => d) d

end DurableStore

end Woml
