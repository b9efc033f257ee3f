import Woml.Store.Policy

/-!
# Admission of trigger occurrences

A trigger occurrence is identified by its workflow, its trigger and the identity its source gives
it. The first delivery of an occurrence starts a run; a later one is answered with the run that the
first one started. `Store.perform` puts the transactions of the store together.
-/

namespace Woml

open Checked

def runtimePolicyQueueCeiling : Nat := 10000

structure TriggerAdmissionRequest where
  workflowId : String
  definitionHash : String
  triggerId : String
  triggerHandler : String
  sourceIdentity : String
  payload : JsonMap
  receivedAt : DateTime

/-- The identifiers that the store generates for a new occurrence. -/
structure OccurrenceIds where
  occurrenceId : String
  runId : String
  eventId : String

structure TriggerAdmissionOutcome where
  occurrenceId : String
  runId : String
  duplicate : Bool
  deriving DecidableEq

def validateTriggerAdmissionRequest (request : TriggerAdmissionRequest) :
    Except DurableStoreError Unit := do
  failIf (request.sourceIdentity = "" ∨ 512 < request.sourceIdentity.utf8ByteSize)
    (.contract "Trigger sourceIdentity must contain between 1 and 512 UTF-8 bytes.")
  failIf (!isDefinitionHash request.definitionHash) .triggerDefinitionMismatch

def canonicalPayloadHash [Host] (payload : JsonMap) : Except DurableStoreError String := do
  let bytes ← (Host.canonicalJson (.object payload)).mapError .canonicalJson
  .ok (sha256Prefixed bytes)

/-- The statuses of a run that holds its workflow to one definition and policy. -/
def RunStatus.isActive : RunStatus → Bool
  | queued | running | waiting | cancelling | finalizing => true
  | _ => false

/-- `trigger_occurrence_from_stored` -/
def TriggerOccurrence.isValid (o : TriggerOccurrence) : Bool :=
  validId o.occurrenceId && validId o.workflowId && validId o.triggerId &&
    triggerHandlers.contains o.triggerHandler && isDefinitionHash o.definitionHash &&
    isDefinitionHash o.sourceIdentityHash && isDefinitionHash o.payloadHash && validId o.runId

/-- The first event of a run and the occurrence that started it say the same; the payload. -/
def TriggerOccurrence.admittedPayload (o : TriggerOccurrence) (first : RunEvent) : Option JsonMap :=
  match first.payload with
  | .runAdmitted admission =>
    if 11 ≤ first.eventSchemaVersion ∧ first.eventSchemaVersion ≤ 20 ∧
        admission.definitionHash = o.definitionHash ∧ admission.trigger.id = o.triggerId ∧
        admission.trigger.handler = o.triggerHandler ∧ first.occurredAt = o.receivedAt ∧
        admission.admittedAt = o.receivedAt
    then some admission.payload else none
  | .runStarted start =>
    if 7 ≤ first.eventSchemaVersion ∧ first.eventSchemaVersion ≤ 10 ∧
        start.workflowId = o.workflowId ∧ start.definitionHash = o.definitionHash ∧
        start.triggerId = some o.triggerId ∧ start.triggerHandler = some o.triggerHandler ∧
        start.triggerOccurrenceId = some o.occurrenceId ∧ first.occurredAt = o.receivedAt
    then some start.trigger else none
  | _ => none

namespace Store

variable (s : Store)

/-- An active run of the workflow is bound to another definition or another policy. -/
def hasPolicyConflict (workflowId definitionHash policyHash : String) : Bool :=
  s.policyBindings.entries.any fun (runId, binding) =>
    binding.workflowId = workflowId && (s.summaries.get? runId).any (·.isActive) &&
      (binding.definitionHash ≠ definitionHash || binding.policyHash ≠ policyHash)

/-- `load_trigger_occurrence_by_identity` -/
def loadTriggerOccurrence (workflowId triggerId sourceIdentityHash : String) :
    Except DurableStoreError (Option TriggerOccurrence) :=
  match s.occurrences.values.find? fun o =>
    o.workflowId = workflowId && o.triggerId = triggerId &&
      o.sourceIdentityHash = sourceIdentityHash with
  | none => .ok none
  | some o => do
    failIf (!o.isValid) (.triggerHistoryInvalid
      "trigger occurrence contains an invalid identity or hash" none)
    .ok (some o)

variable [Host] [Inspection] (fuel : Nat) (clock : Nat → DateTime)

def validateTriggerOccurrenceHistory (o : TriggerOccurrence) :
    Except DurableStoreError JsonMap := do
  let run ← (s.runBinding o.runId).mapError fun cause =>
    .triggerHistoryInvalid "occurrence run binding is missing or invalid" (some cause)
  failIf (run.workflowId ≠ o.workflowId ∨ run.definitionHash ≠ o.definitionHash)
    (.triggerHistoryInvalid "occurrence does not match its immutable run binding" none)
  let w ← (s.definitionForRun o.runId).mapError fun cause =>
    .triggerHistoryInvalid "occurrence definition is missing or invalid" (some cause)
  (validateEventHistoryAgainstDefinition fuel clock w o.definitionHash run.events).mapError
    fun error => .triggerHistoryInvalid "" (some (.history error))
  let first ← orFail run.events.head?
    (.triggerHistoryInvalid "occurrence run has no admission event" none)
  let payload ← orFail (o.admittedPayload first)
    (.triggerHistoryInvalid "occurrence fields contradict its durable admission event" none)
  let payloadHash ← canonicalPayloadHash payload
  failIf (payloadHash ≠ o.payloadHash)
    (.triggerHistoryInvalid "occurrence payload contradicts its durable admission event" none)
  .ok payload

/-- The policy hash and the queue of a run of a policy workflow, unless another definition or
policy of the workflow has active runs. -/
def runtimePolicyIdentity (w : DefinitionRef) (definitionHash : String) :
    Except DurableStoreError (Option (String × String)) :=
  if 12 ≤ w.schemaVersion then do
    let policyHash ← orFail w.runtimePolicyHash
      (.contract "Model v12 is missing its runtime policy identity.")
    let queueName ← orFail w.runtimePolicyQueueName
      (.contract "Model v12 is missing its runtime policy queue.")
    failIf (s.hasPolicyConflict w.workflowId definitionHash policyHash)
      (.runtimePolicyDefinitionConflict w.workflowId)
    .ok (some (policyHash, queueName))
  else .ok none

/-- The definition of a request, if the request is one of its triggers. -/
def requestedDefinition (request : TriggerAdmissionRequest) :
    Except DurableStoreError DefinitionRef := do
  let w ← orFail (s.definitions.get? request.definitionHash)
    (.definitionNotFound request.definitionHash)
  w.validateStructure
  failIf (w.schemaVersion < 7 ∨ w.workflowId ≠ request.workflowId) .triggerDefinitionMismatch
  let trigger ← orFail (w.trigger request.triggerId)
    (.triggerNotFound request.workflowId request.triggerId)
  failIf (trigger.handler ≠ request.triggerHandler) .triggerHandlerMismatch
  .ok w

/-- The first event of the run of a new occurrence. -/
def admissionPayload (request : TriggerAdmissionRequest) (occurrenceId : String) :
    Option (String × String) → RunEventPayload
  | some (policyHash, queueName) => .runAdmitted
      { definitionHash := request.definitionHash
        policyHash
        trigger := { id := request.triggerId, handler := request.triggerHandler }
        payload := request.payload
        queue := { name := queueName, discipline := .workConservingFifo }
        admittedAt := request.receivedAt
        occurrenceSequence := 0 }
  | none => .runStarted
      { workflowId := request.workflowId
        definitionHash := request.definitionHash
        triggerId := some request.triggerId
        triggerHandler := some request.triggerHandler
        triggerOccurrenceId := some occurrenceId
        ingress := none
        trigger := request.payload }

/-- A row whose identifiers are free. -/
def insertOccurrence (o : TriggerOccurrence) : Except DurableStoreError Store := do
  failIf (s.occurrences.values.any fun other => other.occurrenceId = o.occurrenceId ||
      other.runId = o.runId || other.workflowId = o.workflowId && other.triggerId = o.triggerId &&
        other.sourceIdentityHash = o.sourceIdentityHash)
    .constraint
  .ok { s with occurrences := s.occurrences.insert o.occurrenceId o }

/-- `admit_trigger_occurrence_in_transaction` for an occurrence that is not in the store. -/
def admitNewOccurrence (request : TriggerAdmissionRequest) (ids : OccurrenceIds)
    (w : DefinitionRef) (identity : Option (String × String))
    (sourceIdentityHash payloadHash : String) :
    Except DurableStoreError (TriggerAdmissionOutcome × Store) := do
  failIf (identity.isSome ∧ runtimePolicyQueueCeiling ≤ s.policyQueue.size) .runtimePolicyQueueFull
  let started ← s.startRun fuel clock ids.runId w request.definitionHash
    [{ eventId := ids.eventId
       occurredAt := request.receivedAt
       payload := admissionPayload request ids.occurrenceId identity }]
  let stored ← started.insertOccurrence
    { occurrenceId := ids.occurrenceId
      workflowId := request.workflowId
      triggerId := request.triggerId
      triggerHandler := request.triggerHandler
      definitionHash := request.definitionHash
      sourceIdentityHash
      payloadHash
      receivedAt := request.receivedAt
      runId := ids.runId }
  .ok ({ occurrenceId := ids.occurrenceId, runId := ids.runId, duplicate := false }, stored)

def admitTriggerOccurrence (request : TriggerAdmissionRequest) (ids : OccurrenceIds) :
    Except DurableStoreError (TriggerAdmissionOutcome × Store) := do
  validateTriggerAdmissionRequest request
  let sourceIdentityHash := sha256Prefixed (utf8 request.sourceIdentity)
  let payloadHash ← canonicalPayloadHash request.payload
  let w ← s.requestedDefinition request
  let identity ← s.runtimePolicyIdentity w request.definitionHash
  match ← s.loadTriggerOccurrence request.workflowId request.triggerId sourceIdentityHash with
  | some existing => do
    failIf (existing.payloadHash ≠ payloadHash) .triggerIdempotencyConflict
    let _ ← s.validateTriggerOccurrenceHistory fuel clock existing
    .ok ({ occurrenceId := existing.occurrenceId, runId := existing.runId, duplicate := true }, s)
  | none =>
    s.admitNewOccurrence fuel clock request ids w identity sourceIdentityHash payloadHash

end Store

/-! ## The transactions of the store -/

inductive StoreRequest
  | registerDefinition (w : DefinitionRef) (definitionHash : String) (same : Bool)
  | createRun (runId : String) (eventId : Nat → String) (occurredAt : DateTime)
      (payload : RunEventPayload) (viaCall : Bool)
  | appendEvents (runId : String) (drafts : List EventDraft)
  | admitOccurrence (request : TriggerAdmissionRequest) (ids : OccurrenceIds)
  | claim (request : PolicyClaimRequest)
  | renew (runId ownerId claimId : String) (now : DateTime) (leaseDuration : Nat)
  | suspend (runId ownerId claimId : String)
  | resume (runId ownerId claimId : String) (now : DateTime)
  | release (runId ownerId claimId : String)
  /-- The sweeps of the recovery and of opening a store. -/
  | expire (now : DateTime)

inductive StoreAnswer
  | done
  | admitted (outcome : TriggerAdmissionOutcome)
  | claim (result : PolicyExecutionClaimResult)
  | renewed (claim : SchedulerClaimV1)
  | changed (value : Bool)
  deriving DecidableEq

namespace Store

variable [Host] [Inspection] (fuel : Nat) (clock : Nat → DateTime)

def perform (s : Store) : StoreRequest → Except DurableStoreError (StoreAnswer × Store)
  | .registerDefinition w hash same => (.done, ·) <$> s.registerDefinition w hash same
  | .createRun runId eventId occurredAt payload viaCall =>
    (.done, ·) <$> s.createRun fuel clock runId eventId occurredAt payload viaCall
  | .appendEvents runId drafts => (.done, ·) <$> s.appendEvents runId drafts
  | .admitOccurrence request ids =>
    (fun (outcome, s) => (.admitted outcome, s)) <$> s.admitTriggerOccurrence fuel clock request ids
  | .claim request =>
    (fun (result, s) => (.claim result, s)) <$> s.tryClaimPolicyRunAt fuel clock request
  | .renew runId ownerId claimId now leaseDuration =>
    (fun (claim, s) => (.renewed claim, s)) <$>
      s.renewPolicyClaim runId ownerId claimId now leaseDuration
  | .suspend runId ownerId claimId =>
    let (value, s) := s.suspendPolicyClaim runId ownerId claimId
    .ok (.changed value, s)
  | .resume runId ownerId claimId now =>
    (fun (value, s) => (.changed value, s)) <$> s.resumePolicyClaim runId ownerId claimId now
  | .release runId ownerId claimId =>
    let (value, s) := s.releasePolicyClaim runId ownerId claimId
    .ok (.changed value, s)
  | .expire now => .ok (.done, s.deleteExpiredClaims now)

/-- The stores that transactions lead to, one after the other, from an empty one. -/
inductive Reachable : Store → Prop
  | empty : Reachable {}
  | step {s s' : Store} {request : StoreRequest} {answer : StoreAnswer} (hs : Reachable s)
      (h : s.perform fuel clock request = .ok (answer, s')) : Reachable s'

end Store

end Woml
