import Woml.Engine.History

/-!
# The event store

The tables of the store that admission and scheduling read: the registered definitions, the runs
with their histories, and what is derived from the histories on every append (the summaries and the
runtime-policy indexes). A map from the primary key is a table; a transaction that fails leaves the
store as it was, so an operation is a function to `Except` over the store.

Events are stored as they are: the JSON columns are read back as they were written. Instants are
stored as RFC 3339 texts, whose order is the order of the instants.
-/

namespace Woml

open Checked

inductive DurableStoreError
  | contract (message : String)
  /-- A contract error with the message of the engine's check. -/
  | history (error : EngineError)
  | projection (error : FoldError)
  | model
  | canonicalJson (message : String)
  | definitionNotFound (definitionHash : String)
  | definitionConflict (definitionHash : String)
  | runNotFound (runId : String)
  | runAlreadyExists (runId : String)
  | schedulerClaimConflict (runId : String)
  | schedulerRecoveryRequired (runId : String)
  | runtimePolicyDefinitionConflict (workflowId : String)
  | runtimePolicyQueueFull
  | triggerDefinitionMismatch
  | triggerNotFound (workflowId triggerId : String)
  | triggerHandlerMismatch
  | triggerIdempotencyConflict
  | triggerHistoryInvalid (message : String) (cause : Option DurableStoreError)
  /-- A key of a table is taken. -/
  | constraint
  /-- An index past the end of a list. -/
  | outOfBounds

/-! ## Rows -/

/-- A run with its binding to a definition, which never changes, and its events. -/
structure StoredRun where
  workflowId : String
  definitionHash : String
  events : List RunEvent := []

structure RuntimePolicyBinding where
  workflowId : String
  definitionHash : String
  policyHash : String
  queueName : String
  admittedAt : DateTime
  occurrenceSequence : Nat

structure QueuedRun where
  workflowId : String
  queueName : String
  admittedAt : DateTime
  occurrenceSequence : Nat

structure PolicyStart where
  workflowId : String
  startedAt : DateTime

/-- `workflowId` is the label under which the claim is counted. -/
structure SchedulerClaim where
  workflowId : String
  ownerId : String
  claimId : String
  claimedAt : DateTime
  expiresAt : DateTime

structure TriggerOccurrence where
  occurrenceId : String
  workflowId : String
  triggerId : String
  triggerHandler : String
  definitionHash : String
  sourceIdentityHash : String
  payloadHash : String
  receivedAt : DateTime
  runId : String

structure Store where
  definitions : SortedMap String DefinitionRef := .empty
  runs : SortedMap String StoredRun := .empty
  summaries : SortedMap String RunStatus := .empty
  policyBindings : SortedMap String RuntimePolicyBinding := .empty
  policyQueue : SortedMap String QueuedRun := .empty
  policyStarts : SortedMap String PolicyStart := .empty
  claims : SortedMap String SchedulerClaim := .empty
  occurrences : SortedMap String TriggerOccurrence := .empty

/-! ## Definitions -/

/-- What the structural validation of a model finds besides its identifiers and triggers. -/
class Inspection where
  otherIssues : CompiledWorkflowDefinition → Bool

def triggerHandlers : List String :=
  ["trigger.manual", "trigger.webhook", "trigger.slack", "trigger.telegram", "trigger.discord",
    "trigger.whatsapp", "trigger.schedule", "trigger.interval", "trigger.event"]

/-- `inspect_structure` on one trigger; its configuration is left to `Inspection`. -/
def CompiledTrigger.isValid (schemaVersion : Nat) (trigger : CompiledTrigger) : Bool :=
  validId trigger.id && trigger.handler ≠ "" && trigger.handler.length ≤ 512 &&
    (schemaVersion < 7 || triggerHandlers.contains trigger.handler)

def CompiledWorkflowDefinition.validateStructure [Inspection] (w : CompiledWorkflowDefinition) :
    Except DurableStoreError Unit :=
  failIf (!(1 ≤ w.schemaVersion && w.schemaVersion ≤ 21) ∨ !validId w.workflowId ∨
      !w.triggers.all (·.isValid w.schemaVersion) ∨ ¬(w.triggers.map (·.id)).Nodup ∨
      Inspection.otherIssues w = true)
    .model

/-! ## Events to append -/

/-- An event before it has its place in a history. -/
structure EventDraft where
  eventId : String
  occurredAt : DateTime
  iteration : Option ForEachIterationScope := none
  payload : RunEventPayload

def EventDraft.toEvent (runId : String) (eventSchemaVersion sequence : Nat) (draft : EventDraft) :
    RunEvent :=
  { eventSchemaVersion, eventId := draft.eventId, runId, sequence, occurredAt := draft.occurredAt,
    iteration := draft.iteration, payload := draft.payload }

/-- `expand_model_v11_payload` for the start of a run: the start hook is requested with it. -/
def CompiledWorkflowDefinition.expandStart [Host] (w : CompiledWorkflowDefinition) (runId : String)
    (payload : RunEventPayload) : List RunEventPayload :=
  payload :: ((w.lifecycleHookForEvent .runStart).map fun hook =>
    .lifecycleHookRequested
      { hookInvocationId := deriveLifecycleHookInvocationId runId hook.hookId .workflow runId
        hookId := hook.hookId
        event := hook.event
        subject := { kind := .workflow, id := runId } }).toList

namespace RunEventPayload

def admission : RunEventPayload → Option RunAdmittedData
  | runAdmitted data => some data
  | _ => none

def admits (payload : RunEventPayload) : Bool := payload.admission.isSome

/-- The definition that a starting payload binds its run to. -/
def startDefinitionHash : RunEventPayload → Option String
  | runAdmitted data => some data.definitionHash
  | runStarted data => some data.definitionHash
  | _ => none

def startWorkflowId : RunEventPayload → Option String
  | runStarted data => some data.workflowId
  | _ => none

end RunEventPayload

/-- The admission of a run under a runtime policy. -/
def StoredRun.admission (run : StoredRun) : Option RunAdmittedData :=
  run.events.head?.bind (·.payload.admission)

namespace Store

variable (s : Store)

/-- `register_definition`. A hash that is registered keeps its model: `same` is the comparison of
the two JSON values. -/
def registerDefinition [Inspection] (w : DefinitionRef) (definitionHash : String) (same : Bool) :
    Except DurableStoreError Store := do
  w.validateStructure
  failIf (!isDefinitionHash definitionHash)
    (.contract "A durable definition requires a valid RFC 8785 SHA-256 hash.")
  match s.definitions.get? definitionHash with
  | some stored =>
    failIf (stored.workflowId ≠ w.workflowId ∨ same = false) (.definitionConflict definitionHash)
    .ok s
  | none => .ok { s with definitions := s.definitions.insert definitionHash w }

/-- `run_binding_in_transaction`, with the events of the run. -/
def runBinding (runId : String) : Except DurableStoreError StoredRun :=
  orFail (s.runs.get? runId) (.runNotFound runId)

def definitionForRun [Inspection] (runId : String) : Except DurableStoreError DefinitionRef := do
  let run ← s.runBinding runId
  let w ← orFail (s.definitions.get? run.definitionHash) (.runNotFound runId)
  w.validateStructure
  .ok w

/-! ## Read models -/

/-- The summary keeps the status of the run; no operation here reads the rest of the row. -/
def writeRunSummary (runId : String) (p : RunProjection) : Store :=
  { s with summaries := s.summaries.insert runId p.status }

/-- `write_runtime_policy_indexes_from_projection` -/
def writeRuntimePolicyIndexes (runId : String) (run : StoredRun) (admission : RunAdmittedData)
    (p : RunProjection) : Except DurableStoreError Store := do
  failIf (2 ^ 63 ≤ admission.occurrenceSequence)
    (.contract "occurrenceSequence exceeds SQLite integer range")
  .ok { s with
    policyBindings := s.policyBindings.insert runId
      { workflowId := run.workflowId
        definitionHash := admission.definitionHash
        policyHash := admission.policyHash
        queueName := admission.queue.name
        admittedAt := admission.admittedAt
        occurrenceSequence := admission.occurrenceSequence }
    policyQueue :=
      if p.status = .queued then
        s.policyQueue.insert runId
          { workflowId := run.workflowId
            queueName := admission.queue.name
            admittedAt := admission.admittedAt
            occurrenceSequence := admission.occurrenceSequence }
      else s.policyQueue.erase runId
    policyStarts :=
      match p.startedAt with
      | some startedAt => s.policyStarts.insert runId { workflowId := run.workflowId, startedAt }
      | none => s.policyStarts.erase runId }

/-! ## Appends -/

/-- Store the events of a run and what is read off them. -/
def writeRun [Host] (runId : String) (run : StoredRun) : Except DurableStoreError Store := do
  let p ← (foldEvents run.events).mapError .projection
  let s := { s with runs := s.runs.insert runId run }.writeRunSummary runId p
  match run.admission with
  | some admission => s.writeRuntimePolicyIndexes runId run admission p
  | none => .ok s

/-- `append_to_history` for a list of events: the read models are those of the last one. -/
def appendToHistory [Host] (runId : String) (eventSchemaVersion : Nat) (drafts : List EventDraft) :
    Except DurableStoreError Store := do
  let run ← s.runBinding runId
  s.writeRun runId { run with
    events := run.events ++ drafts.mapIdx fun offset draft =>
      draft.toEvent runId eventSchemaVersion (run.events.length + 1 + offset) }

/-- The appends to a run that is under way. Which payloads a transaction makes, and which of its
checks come on top of the fold, is its own matter. -/
def appendEvents [Host] (runId : String) (drafts : List EventDraft) :
    Except DurableStoreError Store := do
  let run ← s.runBinding runId
  let first ← orFail run.events.head?
    (.contract "A non-start event cannot be appended before run_started.")
  s.appendToHistory runId first.eventSchemaVersion drafts

section
variable [Host] (fuel : Nat) (clock : Nat → DateTime)

/-- A new run with its first events, checked against its definition. -/
def startRun (runId : String) (w : DefinitionRef) (definitionHash : String)
    (drafts : List EventDraft) : Except DurableStoreError Store := do
  failIf (s.runs.contains runId) .constraint
  let opened := { s with
    runs := s.runs.insert runId { workflowId := w.workflowId, definitionHash } }
  let s ← opened.appendToHistory runId (runEventSchemaVersionForModel w.schemaVersion) drafts
  let run ← s.runBinding runId
  (validateEventHistoryAgainstDefinition fuel clock w definitionHash run.events).mapError .history
  .ok s

/-- `append_payload_scoped` with a payload that starts a run; with `viaCall` the child of a
workflow call, which is stored without a request of its start hook. -/
def createRun [Inspection] (runId : String) (eventId : Nat → String) (occurredAt : DateTime)
    (payload : RunEventPayload) (viaCall : Bool) : Except DurableStoreError Store := do
  failIf (s.runs.contains runId) (.runAlreadyExists runId)
  let definitionHash ← orFail payload.startDefinitionHash
    (.contract "A non-start event cannot be appended before run_started.")
  let w ← orFail (s.definitions.get? definitionHash) (.definitionNotFound definitionHash)
  let version := runEventSchemaVersionForModel w.schemaVersion
  failIf (payload.admits ∧ version < 11)
    (.contract "run_admitted requires compiled Model v12 or later.")
  failIf (payload.startWorkflowId.any (· ≠ w.workflowId))
    (.contract "run_started workflowId does not match its registered definition.")
  w.validateStructure
  let payloads := if payload.startWorkflowId.isSome ∧ !viaCall ∧ 10 ≤ version ∧ version ≤ 20 then
    w.expandStart runId payload else [payload]
  s.startRun fuel clock runId w definitionHash
    (payloads.mapIdx fun index payload => { eventId := eventId index, occurredAt, payload })

end

end Store

end Woml
