import Woml.Lib.Relational
import Woml.Store.Admission

/-!
# The tables of the database

All tables with a run in them: those of `Store`, as rows, and the tables of the other components.
Of a row the columns are kept that a foreign key or a modelled statement reads. `foreignKeys` are
the declared references between these tables and `deleteGuards` the tables whose `no_delete` trigger
is in force in a store that is open.
-/

namespace Woml

/-- The tables that `Store` keeps. -/
inductive CoreTable
  | runs
  | runEvents
  | runSummaries
  | runtimePolicyBindings
  | runtimePolicyQueue
  | runtimePolicyStarts
  | schedulerClaims
  | triggerOccurrences
  deriving DecidableEq

inductive SideTable
  | approvalTokens
  | notificationCapabilities
  | internalEventPublications
  | internalEventDeliveries
  | workflowCalls
  | durableWaits
  | externalSignals
  | signalIdempotency
  | lockResources
  | lockWaiters
  | sagaScopes
  | correctionActions
  | correctionAttempts
  | correctionManualRecovery
  | approvalReviews
  | approvalReviewerDecisions
  | approvalArtifactPins
  | runInfrastructurePolicies
  | remoteDispatches
  | remoteDispatchAudit
  deriving DecidableEq

inductive Table
  | core (table : CoreTable)
  | side (table : SideTable)
  deriving DecidableEq

/-! ## Rows -/

structure RunKey where
  runId : String

structure EventKey where
  runId : String
  sequence : Nat

structure RunSummary where
  runId : String
  status : RunStatus
  updatedAt : DateTime

/-- A row of which only its run is of interest, with what tells it from other rows of the run. -/
structure OwnedRow where
  runId : String
  id : String

structure InternalEventPublication where
  publicationId : String
  parentRunId : String
  eventName : String
  payloadHash : String
  depth : Nat
  emittedAt : DateTime

structure InternalEventDelivery where
  publicationId : String
  workflowId : String
  triggerId : String
  runId : String

structure WorkflowCall where
  callKey : String
  parentRunId : String
  parentNodeId : String
  parentAttempt : Nat
  targetWorkflowId : String
  targetDefinitionHash : String
  childRunId : String
  payloadDigest : String
  depth : Nat
  admittedAt : DateTime

structure ExternalSignal where
  signalId : String
  runId : String

structure SignalIdempotency where
  idempotencyDigest : String
  signalId : String

structure LockResource where
  key : String
  ownerRunId : Option String

inductive LockWaiterStatus
  | waiting
  | held
  | released
  | timedOut
  | cancelled
  | lost
  deriving DecidableEq

structure LockWaiter where
  waiterId : String
  key : String
  runId : String
  status : LockWaiterStatus

inductive SagaScopePhase
  | forward
  | forwardSucceeded
  | correcting
  | correctionCompleted
  | manualRecovery
  deriving DecidableEq

structure SagaScope where
  runId : String
  sagaId : String
  phase : SagaScopePhase

structure CorrectionAction where
  runId : String
  sagaId : String
  actionId : String

structure CorrectionAttempt extends CorrectionAction where
  attempt : Nat

inductive ManualRecoveryStatus
  | required
  | externallyResolved
  deriving DecidableEq

structure ManualRecovery extends CorrectionAction where
  status : ManualRecoveryStatus

structure ApprovalReview where
  runId : String
  approvalId : String
  requestId : String

/-- A row of a review: a decision of a principal or a pinned artifact. -/
structure ReviewRow where
  runId : String
  requestId : String
  id : String

inductive RemoteDispatchStateV1
  | requested
  | offered
  | accepted
  | started
  | cancelRequested
  | succeeded
  | failed
  | cancelled
  | ambiguous
  | abandoned
  deriving DecidableEq

structure RemoteDispatch where
  dispatchId : String
  runId : String
  nodeId : String
  iterationIdentity : String
  attempt : Nat
  invocationId : String
  target : String
  targetDigest : String
  packageDigest : String
  state : RemoteDispatchStateV1
  workerId : Option String := none
  sessionId : Option String := none
  offerId : Option String := none
  offerExpiresAt : Option DateTime := none
  acceptedAt : Option DateTime := none
  startedAt : Option DateTime := none
  lastHeartbeatAt : Option DateTime := none
  lastHeartbeatSequence : Option Nat := none
  lastHeartbeatDigest : Option String := none
  terminalDigest : Option String := none
  ambiguityReason : Option String := none
  updatedAt : DateTime

structure RemoteDispatchAudit where
  auditId : String
  dispatchId : String
  action : String
  actor : String
  requestDigest : String
  recordedAt : DateTime

@[reducible] def CoreRow : CoreTable → Type
  | .runEvents => EventKey
  | .runSummaries => RunSummary
  | .triggerOccurrences => TriggerOccurrence
  | .runs | .runtimePolicyBindings | .runtimePolicyQueue | .runtimePolicyStarts
  | .schedulerClaims => RunKey

@[reducible] def SideRow : SideTable → Type
  | .internalEventPublications => InternalEventPublication
  | .internalEventDeliveries => InternalEventDelivery
  | .workflowCalls => WorkflowCall
  | .externalSignals => ExternalSignal
  | .signalIdempotency => SignalIdempotency
  | .lockResources => LockResource
  | .lockWaiters => LockWaiter
  | .sagaScopes => SagaScope
  | .correctionActions => CorrectionAction
  | .correctionAttempts => CorrectionAttempt
  | .correctionManualRecovery => ManualRecovery
  | .approvalReviews => ApprovalReview
  | .approvalReviewerDecisions | .approvalArtifactPins => ReviewRow
  | .remoteDispatches => RemoteDispatch
  | .remoteDispatchAudit => RemoteDispatchAudit
  | .approvalTokens | .notificationCapabilities | .durableWaits
  | .runInfrastructurePolicies => OwnedRow

@[reducible] def Row : Table → Type
  | .core table => CoreRow table
  | .side table => SideRow table

/-! ## Columns and keys -/

inductive Column
  | runId
  | ownerRunId
  | parentRunId
  | childRunId
  | key
  | requestId
  | sagaId
  | actionId
  | publicationId
  | dispatchId
  | signalId
  deriving DecidableEq

def coreColumn : (t : CoreTable) → CoreRow t → Column → Option String
  | .runEvents, row, .runId => some row.runId
  | .runSummaries, row, .runId => some row.runId
  | .triggerOccurrences, row, .runId => some row.runId
  | .runs, row, .runId | .runtimePolicyBindings, row, .runId | .runtimePolicyQueue, row, .runId
  | .runtimePolicyStarts, row, .runId | .schedulerClaims, row, .runId => some row.runId
  | _, _, _ => none

def sideColumn : (t : SideTable) → SideRow t → Column → Option String
  | .internalEventPublications, row, .publicationId => some row.publicationId
  | .internalEventPublications, row, .parentRunId => some row.parentRunId
  | .internalEventDeliveries, row, .publicationId => some row.publicationId
  | .internalEventDeliveries, row, .runId => some row.runId
  | .workflowCalls, row, .parentRunId => some row.parentRunId
  | .workflowCalls, row, .childRunId => some row.childRunId
  | .externalSignals, row, .signalId => some row.signalId
  | .externalSignals, row, .runId => some row.runId
  | .signalIdempotency, row, .signalId => some row.signalId
  | .lockResources, row, .key => some row.key
  | .lockResources, row, .ownerRunId => row.ownerRunId
  | .lockWaiters, row, .key => some row.key
  | .lockWaiters, row, .runId => some row.runId
  | .sagaScopes, row, .runId => some row.runId
  | .sagaScopes, row, .sagaId => some row.sagaId
  | .correctionActions, row, .runId => some row.runId
  | .correctionActions, row, .sagaId => some row.sagaId
  | .correctionActions, row, .actionId => some row.actionId
  | .correctionAttempts, row, .runId => some row.runId
  | .correctionAttempts, row, .sagaId => some row.sagaId
  | .correctionAttempts, row, .actionId => some row.actionId
  | .correctionManualRecovery, row, .runId => some row.runId
  | .correctionManualRecovery, row, .sagaId => some row.sagaId
  | .correctionManualRecovery, row, .actionId => some row.actionId
  | .approvalReviews, row, .runId => some row.runId
  | .approvalReviews, row, .requestId => some row.requestId
  | .approvalReviewerDecisions, row, .runId | .approvalArtifactPins, row, .runId => some row.runId
  | .approvalReviewerDecisions, row, .requestId
  | .approvalArtifactPins, row, .requestId => some row.requestId
  | .remoteDispatches, row, .dispatchId => some row.dispatchId
  | .remoteDispatches, row, .runId => some row.runId
  | .remoteDispatchAudit, row, .dispatchId => some row.dispatchId
  | .approvalTokens, row, .runId | .notificationCapabilities, row, .runId
  | .durableWaits, row, .runId | .runInfrastructurePolicies, row, .runId => some row.runId
  | _, _, _ => none

def column : Relational.Columns Row Column String
  | .core t, row => coreColumn t row
  | .side t, row => sideColumn t row

abbrev Database : Type := Relational.Database Row

/-- `FOREIGN KEY (run_id) REFERENCES woml_runs(run_id)`, for the column of the child. -/
def runKey (child : Table) (column : Column) : Relational.ForeignKey Table Column :=
  { child, parent := .core .runs, columns := [(column, .runId)] }

/-- The declared references between the tables. -/
def foreignKeys : List (Relational.ForeignKey Table Column) :=
  [runKey (.core .runEvents) .runId, runKey (.core .runSummaries) .runId,
    runKey (.core .runtimePolicyBindings) .runId,
    runKey (.core .runtimePolicyQueue) .runId,
    runKey (.core .runtimePolicyStarts) .runId,
    runKey (.core .schedulerClaims) .runId,
    runKey (.core .triggerOccurrences) .runId,
    runKey (.side .approvalTokens) .runId,
    runKey (.side .notificationCapabilities) .runId,
    runKey (.side .internalEventPublications) .parentRunId,
    runKey (.side .internalEventDeliveries) .runId,
    ⟨.side .internalEventDeliveries, .side .internalEventPublications,
      [(.publicationId, .publicationId)]⟩,
    runKey (.side .workflowCalls) .parentRunId,
    runKey (.side .workflowCalls) .childRunId,
    runKey (.side .durableWaits) .runId,
    runKey (.side .externalSignals) .runId,
    ⟨.side .signalIdempotency, .side .externalSignals, [(.signalId, .signalId)]⟩,
    runKey (.side .lockResources) .ownerRunId,
    runKey (.side .lockWaiters) .runId,
    ⟨.side .lockWaiters, .side .lockResources, [(.key, .key)]⟩,
    runKey (.side .sagaScopes) .runId,
    ⟨.side .correctionActions, .side .sagaScopes, [(.runId, .runId), (.sagaId, .sagaId)]⟩,
    ⟨.side .correctionAttempts, .side .correctionActions,
      [(.runId, .runId), (.sagaId, .sagaId), (.actionId, .actionId)]⟩,
    ⟨.side .correctionManualRecovery, .side .correctionActions,
      [(.runId, .runId), (.sagaId, .sagaId), (.actionId, .actionId)]⟩,
    runKey (.side .approvalReviews) .runId,
    ⟨.side .approvalReviewerDecisions, .side .approvalReviews,
      [(.runId, .runId), (.requestId, .requestId)]⟩,
    ⟨.side .approvalArtifactPins, .side .approvalReviews,
      [(.runId, .runId), (.requestId, .requestId)]⟩,
    runKey (.side .runInfrastructurePolicies) .runId,
    runKey (.side .remoteDispatches) .runId,
    ⟨.side .remoteDispatchAudit, .side .remoteDispatches, [(.dispatchId, .dispatchId)]⟩]

/-- The tables with a trigger that forbids to delete a row. -/
def deleteGuards : List Table :=
  [.core .runs, .core .runEvents, .side .approvalTokens, .side .notificationCapabilities,
    .core .triggerOccurrences, .side .internalEventPublications, .side .internalEventDeliveries,
    .side .workflowCalls, .side .approvalReviews, .side .approvalReviewerDecisions,
    .side .runInfrastructurePolicies]

/-! ## The store with all its tables -/

namespace Store

/-- When the summary of a run was last written: with its last event. -/
def updatedAt (s : Store) (runId : String) : Option DateTime :=
  ((s.runs.get? runId).bind (·.events.getLast?)).map (·.occurredAt)

def rows (s : Store) : (t : CoreTable) → List (CoreRow t)
  | .runs => s.runs.keys.map fun runId => ⟨runId⟩
  | .runEvents => s.runs.entries.flatMap fun (runId, run) => run.events.map fun event =>
      ⟨runId, event.sequence⟩
  | .runSummaries => s.summaries.entries.filterMap fun (runId, status) =>
      (s.updatedAt runId).map fun updatedAt => ⟨runId, status, updatedAt⟩
  | .runtimePolicyBindings => s.policyBindings.keys.map fun runId => ⟨runId⟩
  | .runtimePolicyQueue => s.policyQueue.keys.map fun runId => ⟨runId⟩
  | .runtimePolicyStarts => s.policyStarts.keys.map fun runId => ⟨runId⟩
  | .schedulerClaims => s.claims.keys.map fun runId => ⟨runId⟩
  | .triggerOccurrences => s.occurrences.values

end Store

structure DurableStore where
  core : Store := {}
  side : (t : SideTable) → List (SideRow t) := fun _ => []

namespace DurableStore

/-- All tables as rows. -/
def database (d : DurableStore) : Database
  | .core t => d.core.rows t
  | .side t => d.side t

end DurableStore

end Woml
