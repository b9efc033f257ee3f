import Woml.Lib.Components
import Woml.Database.Tables

/-!
# Retention

Old runs that have come to their end are deleted with all their rows. Runs that are connected by
workflow calls or internal events are deleted together, in batches of at most 250 runs, and only if
none of them is protected. A batch is selected outside of the transaction that deletes it and
checked again inside.
-/

namespace Woml

open Checked

def retentionBatchRuns : Nat := 250

/-- `TRIGGER_DEDUPLICATION_SAFETY_DAYS`, in nanoseconds. -/
def triggerDeduplicationSafety : Int := 30 * 86400 * 1000000000

/-- `MAINTENANCE_LEASE_SECONDS`, in nanoseconds. -/
def maintenanceLease : Int := 300 * 1000000000

def DateTime.minUtc : DateTime := -8334601228800 * 1000000000

structure RetentionPolicyV1 where
  policyId : String
  succeededBefore : DateTime
  failedBefore : DateTime
  cancelledBefore : DateTime

inductive RetentionError
  | invalidPolicy
  | maintenanceBusy
  | integrityFailed
  /-- A statement was refused. -/
  | sqlite (error : Relational.DeleteError)
  /-- A trigger to drop is missing, or one to create exists. -/
  | trigger
  deriving DecidableEq

def validPolicy (policy : RetentionPolicyV1) (now : DateTime) : Bool :=
  policy.policyId ≠ "" && policy.policyId.utf8ByteSize ≤ 320 &&
    !policy.policyId.toList.contains '\x00' && policy.succeededBefore ≤ now &&
    policy.failedBefore ≤ now && policy.cancelledBefore ≤ now

/-! ## The inventory -/

structure RunFact where
  status : RunStatus
  updatedAt : DateTime

structure RetentionInventory where
  facts : List (String × RunFact) := []
  /-- Both directions of every edge. -/
  adjacency : List (String × String) := []
  protectedRuns : List String := []

namespace RetentionInventory

/-- Both directions of an edge, as `connect` adds them. -/
def connect (left right : String) : List (String × String) := [(left, right), (right, left)]

def neighbors (inventory : RetentionInventory) (runId : String) : List String :=
  ((inventory.adjacency.filter (·.1 = runId)).map (·.2)).dedup

end RetentionInventory

section Inventory

variable (db : Database)

def summaryFact (runId : String) : Option RunFact :=
  ((db (.core .runSummaries)).find? (·.runId = runId)).map fun row => ⟨row.status, row.updatedAt⟩

/-- The publications joined with their deliveries. -/
def deliveredPublications : List (InternalEventPublication × InternalEventDelivery) :=
  (db (.side .internalEventPublications)).flatMap fun publication =>
    ((db (.side .internalEventDeliveries)).filter
      (·.publicationId = publication.publicationId)).map (publication, ·)

/-- The runs of the publications after the cutoff, and of their deliveries. -/
def publicationProtected (deduplicationCutoff : DateTime) : List String :=
  ((db (.side .internalEventPublications)).filter (deduplicationCutoff < ·.emittedAt)).map
      (·.parentRunId) ++
    ((deliveredPublications db).filter (deduplicationCutoff < ·.1.emittedAt)).map (·.2.runId)

/-- Owners of a lock and runs that wait for one or hold one. -/
def lockProtected : List String :=
  (db (.side .lockResources)).filterMap (·.ownerRunId) ++
    ((db (.side .lockWaiters)).filter fun row => row.status = .waiting || row.status = .held).map
      (·.runId)

/-- Corrections that are not settled. -/
def correctionProtected : List String :=
  ((db (.side .sagaScopes)).filter fun row =>
      row.phase = .correcting || row.phase = .manualRecovery).map (·.runId) ++
    ((db (.side .correctionManualRecovery)).filter (·.status = .required)).map (·.runId)

def loadInventory (deduplicationCutoff : DateTime) : RetentionInventory :=
  let runIds := (db (.core .runs)).map (·.runId)
  { facts := runIds.filterMap fun runId => (summaryFact db runId).map (runId, ·)
    adjacency :=
      (db (.side .workflowCalls)).flatMap (fun call =>
        RetentionInventory.connect call.parentRunId call.childRunId) ++
      (deliveredPublications db).flatMap fun (publication, delivery) =>
        RetentionInventory.connect publication.parentRunId delivery.runId
    protectedRuns :=
      runIds.filter (fun runId => (summaryFact db runId).isNone) ++
      publicationProtected db deduplicationCutoff ++
      (db (.core .schedulerClaims)).map (·.runId) ++
      (db (.core .runtimePolicyQueue)).map (·.runId) ++
      lockProtected db ++ correctionProtected db ++
      ((db (.core .triggerOccurrences)).filter (deduplicationCutoff < ·.receivedAt)).map
        (·.runId) }

end Inventory

/-! ## Candidates -/

def cutoffFor (policy : RetentionPolicyV1) : RunStatus → Option DateTime
  | .succeeded => some policy.succeededBefore
  | .failed => some policy.failedBefore
  | .cancelled => some policy.cancelledBefore
  | _ => none

namespace RetentionInventory

variable (inventory : RetentionInventory) (policy : RetentionPolicyV1)

/-- The runs from which components are searched. -/
def roots : List String :=
  ((inventory.facts.map (·.1) ++ inventory.protectedRuns).dedup).insertionSort (· ≤ ·)

/-- The connected components, each sorted. -/
def components : List (List String) :=
  (Components.all inventory.neighbors (inventory.roots.length + inventory.adjacency.length)
    inventory.roots []).map (·.insertionSort (· ≤ ·))

/-- The latest update of the runs of a component, if all of them are old enough. -/
def newest (component : List String) : Option DateTime :=
  component.foldlM (fun newest runId => do
    let fact ← inventory.facts.lookup runId
    let cutoff ← cutoffFor policy fact.status
    if cutoff ≤ fact.updatedAt then none else some (max newest fact.updatedAt)) DateTime.minUtc

/-- A component that may be deleted, with what it is ordered by. -/
def group (component : List String) : Option (DateTime × String × List String) :=
  if retentionBatchRuns < component.length || component.any inventory.protectedRuns.contains then
    none
  else do
    let newest ← inventory.newest policy component
    let first ← component.head?
    some (newest, first, component)

def groupLe (a b : DateTime × String × List String) : Bool :=
  a.1 < b.1 || a.1 = b.1 && a.2.1 ≤ b.2.1

def eligibleComponents : List (List String) :=
  ((inventory.components.filterMap (inventory.group policy)).insertionSort
    fun a b => groupLe a b = true).map (·.2.2)

end RetentionInventory

section Candidates

variable (db : Database) (policy : RetentionPolicyV1) (now : DateTime)

def eligible : List (List String) :=
  (loadInventory db (now - triggerDeduplicationSafety)).eligibleComponents policy

def candidateIds : List String :=
  ((eligible db policy now).filter (·.length ≤ retentionBatchRuns)).flatten

/-- The loop of `candidate_batch_ids`. -/
def takeBatch : List (List String) → List String → List String
  | [], batch => batch
  | component :: components, batch =>
    if retentionBatchRuns < component.length then takeBatch components batch
    else if batch ≠ [] && retentionBatchRuns < batch.length + component.length then batch
    else if (batch ++ component).length = retentionBatchRuns then batch ++ component
    else takeBatch components (batch ++ component)

def candidateBatchIds : List String := takeBatch (eligible db policy now) []

end Candidates

/-! ## Deletes -/

/-- `DELETE FROM t WHERE run_id IN (SELECT run_id FROM woml_retention_candidates)` -/
def deleteOfRuns (table : Table) : Relational.Delete Table Column := ⟨table, .among .runId⟩

/-- The statements of `delete_batch` before the runs themselves, in their order. -/
def deleteStatements : List (Relational.Delete Table Column) :=
  [⟨.side .remoteDispatchAudit, .select .dispatchId (.side .remoteDispatches) .dispatchId .runId⟩,
    deleteOfRuns (.side .remoteDispatches),
    deleteOfRuns (.side .correctionManualRecovery),
    deleteOfRuns (.side .correctionAttempts),
    deleteOfRuns (.side .correctionActions),
    deleteOfRuns (.side .sagaScopes),
    deleteOfRuns (.core .schedulerClaims),
    deleteOfRuns (.core .runtimePolicyQueue),
    deleteOfRuns (.core .runtimePolicyStarts),
    deleteOfRuns (.core .runtimePolicyBindings),
    deleteOfRuns (.side .notificationCapabilities),
    deleteOfRuns (.side .approvalTokens),
    deleteOfRuns (.side .approvalArtifactPins),
    deleteOfRuns (.side .approvalReviewerDecisions),
    deleteOfRuns (.side .approvalReviews),
    deleteOfRuns (.side .lockWaiters),
    ⟨.side .internalEventDeliveries, .either (.among .runId)
      (.select .publicationId (.side .internalEventPublications) .publicationId .parentRunId)⟩,
    ⟨.side .internalEventPublications, .among .parentRunId⟩,
    ⟨.side .workflowCalls, .either (.among .parentRunId) (.among .childRunId)⟩,
    deleteOfRuns (.core .triggerOccurrences),
    deleteOfRuns (.core .runSummaries),
    deleteOfRuns (.core .runEvents)]

/-- The triggers that `DROP_RETENTION_GUARDS` drops and `RESTORE_RETENTION_GUARDS` creates. -/
def retentionGuards : List Table :=
  [.core .runs, .core .runEvents, .side .approvalTokens, .side .approvalReviews,
    .side .approvalReviewerDecisions, .side .notificationCapabilities, .core .triggerOccurrences,
    .side .internalEventPublications, .side .internalEventDeliveries, .side .workflowCalls]

structure MaintenanceLease where
  leaseId : String
  operation : String
  ownerId : String
  expiresAt : DateTime

/-- What maintenance works on. -/
structure MaintainedStore where
  database : Database
  /-- The tables whose `no_delete` trigger is in force. -/
  guards : List Table := deleteGuards
  lease : Option MaintenanceLease := none

def dropGuards (guards : List Table) : Except RetentionError (List Table) := do
  failIf (!retentionGuards.all guards.contains) .trigger
  .ok (guards.filter fun table => !retentionGuards.contains table)

def restoreGuards (guards : List Table) : Except RetentionError (List Table) := do
  failIf (retentionGuards.any guards.contains) .trigger
  .ok (guards ++ retentionGuards)

/-- `delete_batch`, with the number of runs deleted. A batch that is not eligible any more is left
alone. -/
def deleteBatch (s : MaintainedStore) (runIds : List String) (policy : RetentionPolicyV1)
    (now : DateTime) : Except RetentionError (Nat × MaintainedStore) :=
  if runIds = [] then .ok (0, s)
  else if runIds.any fun runId => !(candidateIds s.database policy now).contains runId then
    .ok (0, s)
  else do
    let dropped ← dropGuards s.guards
    let deleted ← (Relational.runAll column s.database runIds.contains foreignKeys dropped.contains
      (deleteStatements ++ [deleteOfRuns (.core .runs)])).mapError .sqlite
    let restored ← restoreGuards dropped
    .ok ((s.database (.core .runs)).countP fun row => runIds.contains row.runId,
      { s with database := deleted, guards := restored })

/-! ## Planning and executing -/

def quickIntegrity (db : Database) : Except RetentionError Unit :=
  failIf (!decide (Relational.Enforced column db foreignKeys)) .integrityFailed

/-- `plan_retention`: the number of eligible runs. -/
def planRetention (db : Database) (policy : RetentionPolicyV1) (now : DateTime) :
    Except RetentionError Nat := do
  failIf (!validPolicy policy now) .invalidPolicy
  quickIntegrity db
  .ok (candidateIds db policy now).length

def acquireLease (s : MaintainedStore) (leaseId ownerId operation : String) (now : DateTime) :
    Except RetentionError MaintainedStore := do
  failIf ((s.lease.filter fun lease => now < lease.expiresAt).isSome) .maintenanceBusy
  .ok { s with lease := some ⟨leaseId, operation, ownerId, now + maintenanceLease⟩ }

def renewLease (s : MaintainedStore) (leaseId : String) (now : DateTime) :
    Except RetentionError MaintainedStore := do
  let lease ← orFail (s.lease.filter fun lease =>
    lease.leaseId = leaseId && lease.operation = "retention") .maintenanceBusy
  .ok { s with lease := some { lease with expiresAt := now + maintenanceLease } }

def releaseLease (s : MaintainedStore) (leaseId : String) : MaintainedStore :=
  { s with lease := s.lease.filter (·.leaseId ≠ leaseId) }

/-- The batches deleted, in their order, and how the loop ended. -/
structure RetentionProgress where
  batches : List (List String) := []
  deletedRuns : Nat := 0

/-- The loop of `execute_retention`; `clock` gives the time of each renewal of the lease. Batches
that are committed stay deleted when a later one fails. -/
def retentionLoop (policy : RetentionPolicyV1) (leaseId : String) (now : DateTime)
    (clock : Nat → DateTime) :
    Nat → MaintainedStore → RetentionProgress →
      Except RetentionError RetentionProgress × MaintainedStore
  | 0, s, progress => (.ok progress, s)
  | fuel + 1, s, progress =>
    match renewLease s leaseId (clock fuel) with
    | .error error => (.error error, s)
    | .ok s =>
      let batch := candidateBatchIds s.database policy now
      if batch = [] then (.ok progress, s)
      else
        match deleteBatch s batch policy now with
        | .error error => (.error error, s)
        | .ok (deleted, next) =>
          if deleted = 0 then (.ok progress, s)
          else retentionLoop policy leaseId now clock fuel next
            { batches := progress.batches ++ [batch]
              deletedRuns := progress.deletedRuns + deleted }

/-- `execute_retention`. Every round of the loop deletes a run, so there are no more rounds than
runs, and one more. -/
def executeRetention (s : MaintainedStore) (policy : RetentionPolicyV1) (leaseId ownerId : String)
    (now : DateTime) (clock : Nat → DateTime) :
    Except RetentionError RetentionProgress × MaintainedStore :=
  if !validPolicy policy now || leaseId = "" || 320 < leaseId.utf8ByteSize || ownerId = "" ||
      320 < ownerId.utf8ByteSize then (.error .invalidPolicy, s)
  else
    match (do
      quickIntegrity s.database
      acquireLease s leaseId ownerId "retention" now) with
    | .error error => (.error error, s)
    | .ok leased =>
      let (result, retained) := retentionLoop policy leaseId now clock
        ((s.database (.core .runs)).length + 1) leased {}
      (do
        let progress ← result
        quickIntegrity retained.database
        .ok progress, releaseLease retained leaseId)

/-! ## The store after an execution -/

/-- Without the rows of some runs. -/
def Store.without (s : Store) (gone : String → Bool) : Store :=
  { s with
    runs := s.runs.filter fun runId _ => !gone runId
    summaries := s.summaries.filter fun runId _ => !gone runId
    policyBindings := s.policyBindings.filter fun runId _ => !gone runId
    policyQueue := s.policyQueue.filter fun runId _ => !gone runId
    policyStarts := s.policyStarts.filter fun runId _ => !gone runId
    claims := s.claims.filter fun runId _ => !gone runId
    occurrences := s.occurrences.filter fun _ o => !gone o.runId }

namespace DurableStore

/-- The rows that an execution of retention on the store leaves. -/
def retained (d : DurableStore) (policy : RetentionPolicyV1) (leaseId ownerId : String)
    (now : DateTime) (clock : Nat → DateTime) : Database :=
  (executeRetention { database := d.database } policy leaseId ownerId now clock).2.database

/-- The run is not among the rows that are left. -/
def isGone (d : DurableStore) (left : Database) (runId : String) : Bool :=
  d.core.runs.contains runId && !(left (.core .runs)).any (·.runId = runId)

/-- The store that an execution of retention leaves. -/
def retain (d : DurableStore) (policy : RetentionPolicyV1) (leaseId ownerId : String)
    (now : DateTime) (clock : Nat → DateTime) : DurableStore :=
  let left := d.retained policy leaseId ownerId now clock
  { core := d.core.without (d.isGone left), side := fun t => left (.side t) }

end DurableStore

end Woml
