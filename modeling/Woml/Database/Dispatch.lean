import Woml.Database.Tables

/-!
# Remote dispatches and policy bindings

A step that runs on a remote worker has a dispatch row, which goes from request to offer, acceptance
and start to its end. A dispatch whose worker is lost after it accepted is ambiguous until the worker
comes back or an operator reconciles it. None of these transactions reads or writes the history of
the run.
-/

namespace Woml

open Checked

inductive RemoteDispatchError
  | invalid
  | conflict
  | notFound
  | ambiguous
  | corrupt
  /-- The database refuses a value or a statement. -/
  | sql
  deriving DecidableEq

namespace RemoteDispatchStateV1

def text : RemoteDispatchStateV1 → String
  | requested => "requested"
  | offered => "offered"
  | accepted => "accepted"
  | started => "started"
  | cancelRequested => "cancel_requested"
  | succeeded => "succeeded"
  | failed => "failed"
  | cancelled => "cancelled"
  | ambiguous => "ambiguous"
  | abandoned => "abandoned"

/-- The dispatch came to its end. -/
def isResolved : RemoteDispatchStateV1 → Bool
  | succeeded | failed | cancelled | abandoned => true
  | _ => false

end RemoteDispatchStateV1

structure RemoteDispatchRequestV1 where
  runId : String
  nodeId : String
  iterationIdentity : String
  attempt : Nat
  invocationId : String
  target : String
  targetDigest : String
  packageDigest : String
  requestedAt : DateTime

/-- `valid_id` of the dispatch module. -/
def validRemoteId (value : String) : Bool :=
  value ≠ "" && value.utf8ByteSize ≤ 256 &&
    value.toList.all fun c => c.isAlphanum || c = ':' || c = '_' || c = '-'

def validRemoteRequest (request : RemoteDispatchRequestV1) : Bool :=
  validRemoteId request.runId && validRemoteId request.nodeId &&
    (request.iterationIdentity = "" || validRemoteId request.iterationIdentity) &&
    (1 ≤ request.attempt && request.attempt ≤ 10) && validRemoteId request.invocationId &&
    validRemoteId request.target && validSha256 request.targetDigest &&
    validSha256 request.packageDigest

def deriveRemoteDispatchId [Host] (request : RemoteDispatchRequestV1) :
    Except RemoteDispatchError String := do
  failIf (!validRemoteRequest request) .invalid
  let bytes ← (Host.canonicalJson (.object
    [("domain", .string "woml.remote-dispatch/v1"),
      ("attempt", .number (.posInt request.attempt)),
      ("invocationId", .string request.invocationId),
      ("iterationIdentity", .string request.iterationIdentity),
      ("nodeId", .string request.nodeId),
      ("runId", .string request.runId),
      ("target", .string request.target),
      ("targetDigest", .string request.targetDigest)])).mapError fun _ => .invalid
  .ok ("dispatch_" ++ Host.sha256 bytes)

def digestJson [Host] (fields : JsonMap) : Except RemoteDispatchError String := do
  let bytes ← (Host.canonicalJson (.object fields)).mapError fun _ => .invalid
  .ok (sha256Prefixed bytes)

/-- The nodes that can be dispatched, wherever they stand in the definition. -/
def CompiledWorkflowGraph.dispatchable (g : CompiledWorkflowGraph) : List CompiledWorkflowNode :=
  g.nodes ++ g.forEachList.flatMap (·.body.nodes) ++
    g.sagaList.flatMap fun saga => (saga.compensations ++ saga.cleanup).map (·.node)

def CompiledWorkflowNode.acceptsDispatch (node : CompiledWorkflowNode)
    (request : RemoteDispatchRequestV1) : Bool :=
  node.handler = "runtime.script" &&
    node.execution.any (fun e => e.target ≠ "local" && e.target = request.target) &&
    request.attempt ≤ (node.retryPolicy.map (·.maxAttempts)).getD 1

namespace DurableStore

variable (d : DurableStore)

def dispatches : List RemoteDispatch := d.side .remoteDispatches

def loadDispatch (dispatchId : String) : Option RemoteDispatch :=
  d.dispatches.find? (·.dispatchId = dispatchId)

def withSide (t : SideTable) (rows : List (SideRow t)) : DurableStore :=
  { d with side := Function.update d.side t rows }

/-- One row is changed, and an audit row is written. -/
def updateDispatch (dispatchId : String) (change : RemoteDispatch → RemoteDispatch)
    (audit : RemoteDispatchAudit) : DurableStore :=
  (d.withSide .remoteDispatches
      (d.dispatches.map fun row => if row.dispatchId = dispatchId then change row else row)).withSide
    .remoteDispatchAudit (d.side .remoteDispatchAudit ++ [audit])

def validateRequestAgainstDefinition [Inspection] (request : RemoteDispatchRequestV1) :
    Except RemoteDispatchError Unit := do
  let run ← orFail (d.core.runs.get? request.runId) .notFound
  let w ← orFail (d.core.definitions.get? run.definitionHash) .notFound
  w.validateStructure.mapError fun _ => .corrupt
  failIf (w.schemaVersion ≠ 21) .conflict
  match w.graph.dispatchable.filter (·.id = request.nodeId) with
  | [node] => failIf (!node.acceptsDispatch request) .conflict
  | _ => .error .conflict

def requestRemoteDispatch [Host] [Inspection] (request : RemoteDispatchRequestV1)
    (auditId : String) : Except RemoteDispatchError DurableStore := do
  let dispatchId ← deriveRemoteDispatchId request
  d.validateRequestAgainstDefinition request
  match d.loadDispatch dispatchId with
  | some existing => do
    failIf (existing.runId ≠ request.runId ∨ existing.nodeId ≠ request.nodeId ∨
        existing.iterationIdentity ≠ request.iterationIdentity ∨
        existing.attempt ≠ request.attempt ∨ existing.invocationId ≠ request.invocationId ∨
        existing.target ≠ request.target ∨ existing.targetDigest ≠ request.targetDigest ∨
        existing.packageDigest ≠ request.packageDigest) .conflict
    .ok d
  | none => do
    failIf (d.dispatches.any fun row => row.runId = request.runId && row.nodeId = request.nodeId &&
        row.iterationIdentity = request.iterationIdentity && row.attempt = request.attempt ||
        row.invocationId = request.invocationId) .conflict
    let requestDigest ← digestJson [("packageDigest", .string request.packageDigest)]
    .ok ((d.withSide .remoteDispatches (d.dispatches ++
        [{ dispatchId
           runId := request.runId
           nodeId := request.nodeId
           iterationIdentity := request.iterationIdentity
           attempt := request.attempt
           invocationId := request.invocationId
           target := request.target
           targetDigest := request.targetDigest
           packageDigest := request.packageDigest
           state := .requested
           updatedAt := request.requestedAt }])).withSide .remoteDispatchAudit
      (d.side .remoteDispatchAudit ++ [{ auditId, dispatchId, action := "requested"
                                         actor := "coordinator", requestDigest
                                         recordedAt := request.requestedAt }]))

/-- `transition` from a request to an offer. -/
def offerRemoteDispatch [Host] (dispatchId workerId sessionId offerId : String)
    (expiresAt now : DateTime) (auditId : String) : Except RemoteDispatchError DurableStore := do
  failIf (!validRemoteId workerId ∨ !validRemoteId sessionId ∨ !validRemoteId offerId ∨
    expiresAt ≤ now) .invalid
  let existing ← orFail (d.loadDispatch dispatchId) .notFound
  if existing.state = .offered ∧ existing.workerId = some workerId ∧
      existing.sessionId = some sessionId ∧ existing.offerId = some offerId then do
    failIf (existing.offerExpiresAt ≠ some expiresAt ∨ existing.terminalDigest ≠ none) .conflict
    .ok d
  else do
    failIf (existing.state ≠ .requested)
      (if existing.state = .ambiguous then .ambiguous else .conflict)
    let requestDigest ← digestJson
      [("sessionId", .string sessionId), ("offerId", .string offerId)]
    .ok (d.updateDispatch dispatchId (fun row => { row with
        state := .offered, workerId := some workerId, sessionId := some sessionId
        offerId := some offerId, offerExpiresAt := some expiresAt, terminalDigest := none
        updatedAt := now })
      { auditId, dispatchId, action := "offered", actor := workerId, requestDigest
        recordedAt := now })

/-- `bound_dispatch_without_offer` -/
def boundDispatch (dispatchId workerId sessionId : String) :
    Except RemoteDispatchError RemoteDispatch := do
  let existing ← orFail (d.loadDispatch dispatchId) .notFound
  failIf (existing.workerId ≠ some workerId ∨ existing.sessionId ≠ some sessionId) .conflict
  .ok existing

def acceptRemoteDispatch [Host] (dispatchId workerId sessionId offerId : String) (now : DateTime)
    (auditId : String) : Except RemoteDispatchError DurableStore := do
  let existing ← d.boundDispatch dispatchId workerId sessionId
  failIf (existing.offerId ≠ some offerId) .conflict
  if existing.state = .accepted then .ok d
  else do
    failIf (existing.state ≠ .offered ∨ !existing.offerExpiresAt.any (now < ·)) .conflict
    let requestDigest ← digestJson [("offerId", .string offerId)]
    .ok (d.updateDispatch dispatchId
      (fun row => { row with state := .accepted, acceptedAt := some now, updatedAt := now })
      { auditId, dispatchId, action := "accepted", actor := workerId, requestDigest
        recordedAt := now })

def startRemoteDispatch [Host] (dispatchId workerId sessionId : String) (now : DateTime)
    (auditId : String) : Except RemoteDispatchError DurableStore := do
  let existing ← d.boundDispatch dispatchId workerId sessionId
  if existing.state = .started then .ok d
  else do
    failIf (existing.state ≠ .accepted)
      (if existing.state = .ambiguous then .ambiguous else .conflict)
    let requestDigest ← digestJson [("sessionId", .string sessionId)]
    .ok (d.updateDispatch dispatchId
      (fun row => { row with state := .started, startedAt := some now, updatedAt := now })
      { auditId, dispatchId, action := "started", actor := workerId, requestDigest
        recordedAt := now })

def remoteDispatchHeartbeatMaxBytes : Nat := 16 * 1024

/-- `heartbeat_remote_dispatch`: one that was recorded is answered with what is stored. A sequence
beyond a signed 64-bit integer is no value of the column. -/
def heartbeatRemoteDispatch [Host] (dispatchId workerId sessionId : String) (sequence : Nat)
    (state : Value) (now : DateTime) (auditId : String) :
    Except RemoteDispatchError DurableStore := do
  let bytes ← (Host.canonicalJson state).mapError fun _ => .invalid
  failIf (remoteDispatchHeartbeatMaxBytes < bytes.length) .invalid
  let heartbeatDigest := sha256Prefixed bytes
  let existing ← d.boundDispatch dispatchId workerId sessionId
  failIf (existing.state ≠ .started ∧ existing.state ≠ .cancelRequested) .conflict
  if existing.lastHeartbeatSequence = some sequence ∧
      existing.lastHeartbeatDigest = some heartbeatDigest then .ok d
  else do
    failIf (existing.lastHeartbeatDigest.isSome ∧
      existing.lastHeartbeatSequence.any (sequence ≤ ·)) .conflict
    failIf (2 ^ 63 ≤ sequence) .sql
    let requestDigest ← digestJson [("sequence", .number (.posInt sequence)),
      ("digest", .string heartbeatDigest)]
    .ok (d.updateDispatch dispatchId (fun row => { row with
        lastHeartbeatAt := some now, lastHeartbeatSequence := some sequence
        lastHeartbeatDigest := some heartbeatDigest, updatedAt := now })
      { auditId, dispatchId, action := "heartbeat", actor := workerId, requestDigest
        recordedAt := now })

def requestRemoteDispatchCancel [Host] (dispatchId : String) (now : DateTime) (auditId : String) :
    Except RemoteDispatchError DurableStore := do
  let existing ← orFail (d.loadDispatch dispatchId) .notFound
  if existing.state = .cancelRequested then .ok d
  else do
    failIf (existing.state ≠ .offered ∧ existing.state ≠ .accepted ∧ existing.state ≠ .started)
      .conflict
    let requestDigest ← digestJson [("dispatchId", .string dispatchId)]
    .ok (d.updateDispatch dispatchId
      (fun row => { row with state := .cancelRequested, updatedAt := now })
      { auditId, dispatchId, action := "cancel_requested", actor := "operator", requestDigest
        recordedAt := now })

def terminalRemoteDispatch (dispatchId workerId sessionId : String)
    (outcome : RemoteDispatchStateV1) (terminalDigest : String) (now : DateTime)
    (auditId : String) : Except RemoteDispatchError DurableStore := do
  failIf ((outcome ≠ .succeeded ∧ outcome ≠ .failed ∧ outcome ≠ .cancelled) ∨
    !validSha256 terminalDigest) .invalid
  let existing ← d.boundDispatch dispatchId workerId sessionId
  if existing.state = outcome ∧ existing.terminalDigest = some terminalDigest then .ok d
  else do
    failIf (existing.state ≠ .started ∧ existing.state ≠ .cancelRequested ∧
      existing.state ≠ .ambiguous) .conflict
    .ok (d.updateDispatch dispatchId (fun row => { row with
        state := outcome, terminalDigest := some terminalDigest, ambiguityReason := none
        updatedAt := now })
      { auditId, dispatchId, action := outcome.text, actor := workerId
        requestDigest := terminalDigest, recordedAt := now })

/-- The rows of `mark_lost_remote_dispatches` that are due, the oldest first. -/
def lostDispatches (dueBefore : DateTime) (limit : Nat) : List RemoteDispatch :=
  ((d.dispatches.filter fun row =>
      (row.state = .offered || row.state = .accepted || row.state = .started ||
        row.state = .cancelRequested) &&
      (((row.lastHeartbeatAt.or row.acceptedAt).or row.offerExpiresAt).getD row.updatedAt ≤
        dueBefore)).insertionSort fun a b =>
    a.updatedAt < b.updatedAt ∨ a.updatedAt = b.updatedAt ∧ a.dispatchId ≤ b.dispatchId).take limit

/-- An offer that was not accepted is withdrawn, anything later is ambiguous. -/
def markLost [Host] (now : DateTime) (auditId : String → String) (d : DurableStore)
    (row : RemoteDispatch) : Except RemoteDispatchError DurableStore :=
  if row.state = .offered then do
    let requestDigest ← digestJson [("dispatchId", .string row.dispatchId)]
    .ok (d.updateDispatch row.dispatchId (fun row => { row with
        state := .requested, workerId := none, sessionId := none, offerId := none
        offerExpiresAt := none, updatedAt := now })
      { auditId := auditId row.dispatchId, dispatchId := row.dispatchId, action := "offer_expired"
        actor := "coordinator", requestDigest, recordedAt := now })
  else do
    let requestDigest ← digestJson
      [("dispatchId", .string row.dispatchId), ("previousState", .string row.state.text)]
    .ok (d.updateDispatch row.dispatchId
      (fun row => { row with
        state := .ambiguous, ambiguityReason := some "worker_lost_after_acceptance"
        updatedAt := now })
      { auditId := auditId row.dispatchId, dispatchId := row.dispatchId, action := "lost"
        actor := "coordinator", requestDigest, recordedAt := now })

def markLostRemoteDispatches [Host] (dueBefore now : DateTime) (limit : Nat)
    (auditId : String → String) : Except RemoteDispatchError DurableStore := do
  failIf (limit = 0 ∨ 10000 < limit) .invalid
  (d.lostDispatches dueBefore limit).foldlM (markLost now auditId) d

inductive RemoteDispatchResolution
  | authorizePossibleDuplicateRetry
  | recordFailure

def reconcileRemoteDispatch (dispatchId : String) (resolution : RemoteDispatchResolution)
    (actor evidenceDigest : String) (now : DateTime) (auditId : String) :
    Except RemoteDispatchError DurableStore := do
  failIf (!validRemoteId actor ∨ !validSha256 evidenceDigest) .invalid
  let (state, action, terminal) := match resolution with
    | .authorizePossibleDuplicateRetry =>
      (RemoteDispatchStateV1.abandoned, "authorized_possible_duplicate_retry", none)
    | .recordFailure => (.failed, "reconciled_failed", some evidenceDigest)
  let existing ← orFail (d.loadDispatch dispatchId) .notFound
  match (d.side .remoteDispatchAudit).find? fun row : RemoteDispatchAudit =>
    row.dispatchId = dispatchId && row.action = action && row.actor = actor with
  | some prior => do
    failIf (prior.requestDigest ≠ evidenceDigest) .conflict
    .ok d
  | none => do
    failIf (existing.state ≠ .ambiguous) .conflict
    .ok (d.updateDispatch dispatchId
      (fun row => { row with
        state, terminalDigest := terminal, ambiguityReason := none, updatedAt := now })
      { auditId, dispatchId, action, actor, requestDigest := evidenceDigest, recordedAt := now })

/-- `bind_infrastructure_policy`: the row of a run is written once. -/
def bindInfrastructurePolicy (runId policyDigest : String) :
    Except DurableStoreError DurableStore := do
  let _ ← d.core.runBinding runId
  let bindings := d.side .runInfrastructurePolicies
  match bindings.find? fun row : OwnedRow => row.runId = runId with
  | some bound => do
    failIf (bound.id ≠ policyDigest) (.contract
      "WOML_POLICY_INVALID: the run is already pinned to a different infrastructure policy.")
    .ok d
  | none => .ok (d.withSide .runInfrastructurePolicies (bindings ++ [⟨runId, policyDigest⟩]))

end DurableStore

end Woml
