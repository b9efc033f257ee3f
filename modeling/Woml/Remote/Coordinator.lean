import Woml.Database.Calls
import Woml.Remote.Sessions

/-!
# The coordinator

The transport carries authorised attempts to the workers and their facts back: every offer and every
fact is a transaction of the store first. The coordinator answers the requests of the workers with
the authority over the sessions and the transport. The slots of a session are counted by the
authority in memory, the dispatches that fill them are rows of the store.

The database may be out of reach for a request; `available` says whether it can be opened.
-/

namespace Woml

open Checked

/-- `REMOTE_OFFER_LIFETIME_SECONDS` -/
def remoteOfferLifetime : Int := 30 * 1000000000

def remoteTransportMaxPending : Nat := 10000

def remoteDispatchRecoveryBatchLimit : Nat := 10000

structure RemoteCoordinatorAuthorityV1 where
  policyDigest : String
  allowedCapabilities : List WorkerCapabilityV1
  allowedSecretNames : List String
  deriving DecidableEq

/-- An attempt, as the transport reads it; the package was decoded, so its digest is the one of its
content. -/
structure RemoteDispatchPackageV1 where
  dispatchId : String
  runId : String
  nodeId : String
  iterationKey : Option String
  attempt : Nat
  invocationId : String
  target : String
  targetRegistryDigest : String
  deadline : DateTime
  packageDigest : String

def RemoteDispatchPackageV1.request (package : RemoteDispatchPackageV1) (now : DateTime) :
    RemoteDispatchRequestV1 :=
  { runId := package.runId
    nodeId := package.nodeId
    iterationIdentity := package.iterationKey.getD ""
    attempt := package.attempt
    invocationId := package.invocationId
    target := package.target
    targetDigest := package.targetRegistryDigest
    packageDigest := package.packageDigest
    requestedAt := now }

inductive WorkerTerminalOutcomeV1
  | succeeded
  | failed
  | cancelled
  deriving DecidableEq

def WorkerTerminalOutcomeV1.state : WorkerTerminalOutcomeV1 → RemoteDispatchStateV1
  | succeeded => .succeeded
  | failed => .failed
  | cancelled => .cancelled

structure WorkerTerminalFailureV1 where
  code : String
  message : String
  retryable : Bool
  ambiguous : Bool
  deriving DecidableEq

/-- The report of an end; `ρ` is the type of the results. -/
structure WorkerTerminalV1 (ρ : Type) where
  messageId : String
  workerId : String
  sessionId : String
  sentAt : DateTime
  target : String
  dispatchId : String
  outcome : WorkerTerminalOutcomeV1
  result : Option ρ
  failure : Option WorkerTerminalFailureV1
  finalOutputSequence : Nat
  journalDigest : String
  deriving DecidableEq

inductive RemoteTransportError
  | invalid
  | capacity
  | unavailable
  | dispatch (error : RemoteDispatchError)
  deriving DecidableEq

/-- `map_transport_error` -/
def RemoteTransportError.toCoordinator : RemoteTransportError → RemoteCoordinatorError
  | capacity => .capacity
  | unavailable => .unavailable
  | invalid | dispatch _ => .replayOrConflict

/-! ## The transport -/

structure PendingDispatchV1 where
  package : RemoteDispatchPackageV1
  authority : RemoteCoordinatorAuthorityV1

structure RemoteDispatchOfferV1 where
  offerId : String
  dispatch : RemoteDispatchPackageV1
  coordinatorAuthority : RemoteCoordinatorAuthorityV1
  expiresAt : DateTime

structure RemoteDispatchTerminalReceiptV1 where
  dispatchId : String
  state : RemoteDispatchStateV1
  terminalDigest : String
  finalOutputSequence : Nat

/-- The store, and what the transport holds in memory. -/
structure RemoteDispatchTransportV1 (ρ : Type) where
  store : DurableStore := {}
  pending : List String := []
  packages : SortedMap String PendingDispatchV1 := .empty
  terminals : SortedMap String (WorkerTerminalV1 ρ) := .empty

namespace RemoteDispatchTransportV1

variable {ρ : Type} (t : RemoteDispatchTransportV1 ρ)

/-- The package of a dispatch that is stored. -/
def keepPackage (record : RemoteDispatch) (package : RemoteDispatchPackageV1)
    (authority : RemoteCoordinatorAuthorityV1) :
    RemoteDispatchTransportV1 ρ × Except RemoteTransportError String :=
  if remoteTransportMaxPending ≤ t.packages.size ∧ !t.packages.contains record.dispatchId then
    (t, .error .capacity)
  else
    match t.packages.get? record.dispatchId with
    | some existing =>
      if existing.package.packageDigest ≠ package.packageDigest ∨ existing.authority ≠ authority then
        (t, .error .invalid)
      else (t, .ok record.dispatchId)
    | none =>
      ({ t with
          pending := if record.state = .requested then t.pending ++ [record.dispatchId] else t.pending
          packages := t.packages.insert record.dispatchId ⟨package, authority⟩ },
        .ok record.dispatchId)

/-- A dispatch that could not be offered goes back to the front. -/
def putBack (dispatchId : String) : RemoteDispatchTransportV1 ρ :=
  if t.packages.contains dispatchId ∧ dispatchId ∉ t.pending then
    { t with pending := dispatchId :: t.pending }
  else t

/-- A package for the target whose deadline is ahead. -/
def isEligible (target : String) (now : DateTime) (dispatchId : String) : Bool :=
  (t.packages.get? dispatchId).any fun pending =>
    pending.package.target = target && now < pending.package.deadline

section
variable [Host] (available : Bool)

def enqueue [Inspection] (package : RemoteDispatchPackageV1)
    (authority : RemoteCoordinatorAuthorityV1) (now : DateTime) (auditId : String) :
    RemoteDispatchTransportV1 ρ × Except RemoteTransportError String :=
  if package.deadline ≤ now ∨ authority.policyDigest.utf8ByteSize ≠ 71 ∨
      !"sha256:".toList.isPrefixOf authority.policyDigest.toList then (t, .error .invalid)
  else if !available then (t, .error .unavailable)
  else
    match t.store.requestRemoteDispatch (package.request now) auditId with
    | .error error => (t, .error (.dispatch error))
    | .ok store =>
      match (deriveRemoteDispatchId (package.request now)).toOption.bind store.loadDispatch with
      | none => ({ t with store }, .error (.dispatch .corrupt))
      | some record => keepPackage { t with store } record package authority

def offerNext (workerId sessionId target : String) (now : DateTime) (offerId auditId : String) :
    RemoteDispatchTransportV1 ρ × Except RemoteTransportError (Option RemoteDispatchOfferV1) :=
  match t.pending.find? (t.isEligible target now) with
  | none => (t, .ok none)
  | some dispatchId =>
    let popped := { t with pending := t.pending.eraseP (t.isEligible target now) }
    match t.packages.get? dispatchId with
    | none => (popped, .error .unavailable)
    | some selected =>
      let expiresAt := now + remoteOfferLifetime
      if !available then (popped, .error .unavailable)
      else
        match t.store.offerRemoteDispatch selected.package.dispatchId workerId sessionId offerId
          expiresAt now auditId with
        | .error error => (popped.putBack dispatchId, .error (.dispatch error))
        | .ok store =>
          ({ popped with store },
            .ok (some { offerId
                        dispatch := selected.package
                        coordinatorAuthority := selected.authority
                        expiresAt }))

/-- The offer that is accepted is the one of the row. -/
def accept (fact : WorkerDispatchFactV1) (auditId : String) :
    Except RemoteTransportError (RemoteDispatchTransportV1 ρ) := do
  failIf (!available) .unavailable
  let record ← orFail (t.store.loadDispatch fact.dispatchId) (.dispatch .notFound)
  let offerId ← orFail record.offerId .invalid
  let store ← (t.store.acceptRemoteDispatch fact.dispatchId fact.workerId fact.sessionId offerId
    fact.sentAt auditId).mapError .dispatch
  .ok { t with store }

def start (fact : WorkerDispatchFactV1) (auditId : String) :
    Except RemoteTransportError (RemoteDispatchTransportV1 ρ) := do
  failIf (!available) .unavailable
  let store ← (t.store.startRemoteDispatch fact.dispatchId fact.workerId fact.sessionId fact.sentAt
    auditId).mapError .dispatch
  .ok { t with store }

omit [Host] in
def terminal [DecidableEq ρ] (fact : WorkerTerminalV1 ρ) (auditId : String) :
    RemoteDispatchTransportV1 ρ × Except RemoteTransportError RemoteDispatchTerminalReceiptV1 :=
  if !available then (t, .error .unavailable)
  else
    match t.store.terminalRemoteDispatch fact.dispatchId fact.workerId fact.sessionId
      fact.outcome.state fact.journalDigest fact.sentAt auditId with
    | .error error => (t, .error (.dispatch error))
    | .ok store =>
      let t := { t with store }
      if (t.terminals.get? fact.dispatchId).any (· ≠ fact) then (t, .error .invalid)
      else
        ({ t with
            terminals := t.terminals.insert fact.dispatchId fact
            packages := t.packages.erase fact.dispatchId },
          .ok { dispatchId := fact.dispatchId
                state := fact.outcome.state
                terminalDigest := fact.journalDigest
                finalOutputSequence := fact.finalOutputSequence })

/-- A dispatch whose offer ran out is pending again. -/
def requeue (record : RemoteDispatch) : RemoteDispatchTransportV1 ρ :=
  if record.state = .requested ∧ t.packages.contains record.dispatchId ∧
      record.dispatchId ∉ t.pending then
    { t with pending := t.pending ++ [record.dispatchId] }
  else t

/-- `mark_lost`; the slots of the sessions are not touched. -/
def markLost (dueBefore now : DateTime) (auditId : String → String) :
    Except RemoteTransportError (RemoteDispatchTransportV1 ρ × List String) := do
  failIf (!available) .unavailable
  let store ← (t.store.markLostRemoteDispatches dueBefore now remoteDispatchRecoveryBatchLimit
    auditId).mapError .dispatch
  let records := (t.store.lostDispatches dueBefore remoteDispatchRecoveryBatchLimit).filterMap
    fun row => store.loadDispatch row.dispatchId
  .ok (records.foldl requeue { t with store }, records.map (·.dispatchId))

end

end RemoteDispatchTransportV1

/-! ## The requests -/

/-- The facts of a worker about a dispatch. -/
inductive DispatchFactKind
  | accepted
  | started
  deriving DecidableEq

structure RemoteCoordinator (ρ : Type) where
  authority : RemoteSessionAuthorityV1 := {}
  transport : RemoteDispatchTransportV1 ρ := {}
  /-- Facts that are authorised and whose transition is still to come. -/
  authorized : List (DispatchFactKind × WorkerDispatchFactV1) := []

/-- The requests of the workers and of the host. The identifiers that the coordinator generates are
arguments. -/
inductive CoordinatorRequest (ρ : Type)
  | hello (message : WorkerHelloV1) (certificateDigest sessionId : String)
  | poll (message : WorkerPollV1) (certificateDigest offerId auditId : String)
  | fact (kind : DispatchFactKind) (message : WorkerDispatchFactV1) (certificateDigest : String)
  /-- The transition of a fact, after the authority is unlocked. -/
  | transition (kind : DispatchFactKind) (message : WorkerDispatchFactV1) (auditId : String)
  | terminal (message : WorkerTerminalV1 ρ) (certificateDigest auditId : String)
  | shutdown (message : WorkerShutdownV1) (certificateDigest : String)
  | beginDrain (targetOrWorker : String)
  | endDrain (targetOrWorker : String)
  | enqueue (package : RemoteDispatchPackageV1) (authority : RemoteCoordinatorAuthorityV1)
      (auditId : String)
  | markLost (dueBefore : DateTime) (auditId : String → String)

structure CoordinatorCall (ρ : Type) where
  now : DateTime
  available : Bool := true
  request : CoordinatorRequest ρ

namespace RemoteCoordinator

variable {ρ : Type} [DecidableEq ρ] (c : RemoteCoordinator ρ)

section
variable [Host] (available : Bool)

/-- An idle session that polls gets the next dispatch, if it has a slot for it. -/
def poll (message : WorkerPollV1) (certificateDigest : String) (now : DateTime)
    (offerId auditId : String) :
    RemoteCoordinator ρ ×
      Except RemoteCoordinatorError (WorkerPollStatus × Option RemoteDispatchOfferV1) :=
  match c.authority.poll message certificateDigest now with
  | (authority, .error error) => ({ c with authority }, .error error)
  | (authority, .ok .idle) =>
    match authority.reserveDispatch message.sessionId message.target with
    | .error error => ({ c with authority }, .error error)
    | .ok reserved =>
      match c.transport.offerNext available message.workerId message.sessionId message.target now
        offerId auditId with
      | (transport, .ok (some offer)) =>
        ({ c with authority := reserved, transport }, .ok (.offered, some offer))
      | (transport, .ok none) =>
        match reserved.releaseDispatch message.sessionId with
        | .error error => ({ c with authority := reserved, transport }, .error error)
        | .ok released => ({ c with authority := released, transport }, .ok (.idle, none))
      | (transport, .error error) =>
        let released := (reserved.releaseDispatch message.sessionId).toOption.getD reserved
        ({ c with authority := released, transport }, .error error.toCoordinator)
  | (authority, .ok status) => ({ c with authority }, .ok (status, none))

/-- The first part of `dispatch_fact`. -/
def authorizeFact (kind : DispatchFactKind) (message : WorkerDispatchFactV1)
    (certificateDigest : String) (now : DateTime) :
    RemoteCoordinator ρ × Except RemoteCoordinatorError Unit :=
  match c.authority.authorizeDispatchFact message.workerId message.sessionId message.target
    message.messageId message.sentAt certificateDigest now with
  | (authority, .error error) => ({ c with authority }, .error error)
  | (authority, .ok ()) =>
    ({ c with authority, authorized := (kind, message) :: c.authorized }, .ok ())

/-- The second part of `dispatch_fact`. -/
def transition (kind : DispatchFactKind) (message : WorkerDispatchFactV1) (auditId : String) :
    RemoteCoordinator ρ × Except RemoteCoordinatorError Unit :=
  if (kind, message) ∉ c.authorized then (c, .error .unavailable)
  else
    let c := { c with authorized := c.authorized.erase (kind, message) }
    match (match kind with
      | .accepted => c.transport.accept available message auditId
      | .started => c.transport.start available message auditId) with
    | .error error => (c, .error error.toCoordinator)
    | .ok transport => ({ c with transport }, .ok ())

omit [Host] in
/-- The slot is given back when the transport has taken the report. -/
def terminal (message : WorkerTerminalV1 ρ) (certificateDigest : String) (now : DateTime)
    (auditId : String) :
    RemoteCoordinator ρ × Except RemoteCoordinatorError RemoteDispatchTerminalReceiptV1 :=
  match c.authority.authorizeDispatchFact message.workerId message.sessionId message.target
    message.messageId message.sentAt certificateDigest now with
  | (authority, .error error) => ({ c with authority }, .error error)
  | (authority, .ok ()) =>
    match c.transport.terminal available message auditId with
    | (transport, .error error) => ({ c with authority, transport }, .error error.toCoordinator)
    | (transport, .ok receipt) =>
      match authority.releaseDispatch message.sessionId with
      | .error error => ({ c with authority, transport }, .error error)
      | .ok authority => ({ c with authority, transport }, .ok receipt)

/-- The coordinator after a request. -/
def step [Inspection] (call : CoordinatorCall ρ) : RemoteCoordinator ρ :=
  match call.request with
  | .hello message certificateDigest sessionId =>
    { c with authority := (c.authority.establish message certificateDigest call.now sessionId).1 }
  | .poll message certificateDigest offerId auditId =>
    (c.poll call.available message certificateDigest call.now offerId auditId).1
  | .fact kind message certificateDigest =>
    (c.authorizeFact kind message certificateDigest call.now).1
  | .transition kind message auditId => (c.transition call.available kind message auditId).1
  | .terminal message certificateDigest auditId =>
    (c.terminal call.available message certificateDigest call.now auditId).1
  | .shutdown message certificateDigest =>
    { c with authority := (c.authority.shutdown message certificateDigest call.now).1 }
  | .beginDrain targetOrWorker =>
    { c with authority := (c.authority.beginDrain targetOrWorker).toOption.getD c.authority }
  | .endDrain targetOrWorker =>
    { c with authority := (c.authority.endDrain targetOrWorker).toOption.getD c.authority }
  | .enqueue package authority auditId =>
    { c with transport :=
        (c.transport.enqueue call.available package authority call.now auditId).1 }
  | .markLost dueBefore auditId =>
    { c with transport :=
        ((c.transport.markLost call.available dueBefore call.now auditId).toOption.map
          (·.1)).getD c.transport }

def run [Inspection] (calls : List (CoordinatorCall ρ)) : RemoteCoordinator ρ :=
  calls.foldl (fun c call => c.step call) c

end

omit [DecidableEq ρ] in
/-- A coordinator that was started on a store. -/
def startedOn (authority : RemoteSessionAuthorityV1) (store : DurableStore) : RemoteCoordinator ρ :=
  { authority := { authority with sessions := .empty, replayIds := .empty }
    transport := { store } }

end RemoteCoordinator

end Woml
