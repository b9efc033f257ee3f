import Woml.Event.Json
import Woml.Lib.Checked
import Woml.Lib.SortedMap
import Woml.Lib.Text

/-!
# Worker sessions

The coordinator's authority over the sessions of its workers. A worker says hello, polls, reports
facts about its dispatches and shuts down; every message has an identifier and the time it was sent
at, and an identifier is refused as long as the authority remembers it. A request that is refused
still leaves its traces: sessions that ran out are gone, and so is an identifier that was seen.
-/

namespace Woml

open Checked

/-- `REMOTE_SESSION_LIFETIME_SECONDS` -/
def remoteSessionLifetime : Int := 60 * 1000000000

def remoteMessageClockSkewSeconds : Nat := 300

def remoteMaxSessions : Nat := 1024

def remoteMaxReplayIds : Nat := 100000

/-- `num_seconds().unsigned_abs()` of the time between two instants: whole seconds, cut off towards
zero. -/
def secondsBetween (now sentAt : DateTime) : Nat := (now - sentAt).natAbs / 1000000000

/-! ## Messages -/

structure WorkerCapabilityV1 where
  id : String
  version : Nat
  deriving DecidableEq

structure WorkerHelloV1 where
  messageId : String
  workerId : String
  sentAt : DateTime
  workerVersion : String
  targets : List String
  capacity : Nat
  capabilities : List WorkerCapabilityV1

structure WorkerPollV1 where
  messageId : String
  workerId : String
  sessionId : String
  sentAt : DateTime
  target : String

structure WorkerShutdownV1 where
  messageId : String
  workerId : String
  sessionId : String
  sentAt : DateTime

structure WorkerDispatchFactV1 where
  messageId : String
  workerId : String
  sessionId : String
  sentAt : DateTime
  target : String
  dispatchId : String
  deriving DecidableEq

/-! ## The authority -/

structure TargetRegistryEntryV1 where
  id : String
  allowedWorkerIdentities : List String
  requiredCapabilities : List String
  minimumWorkerVersion : String
  maximumInFlight : Nat

structure RemoteSessionRecordV1 where
  sessionId : String
  workerId : String
  certificateDigest : String
  targets : List String
  capacity : Nat
  activeDispatches : Nat
  lastMessageAt : DateTime
  expiresAt : DateTime

inductive RemoteCoordinatorError
  | unauthorized
  | incompatible
  | replayOrConflict
  | unavailable
  | capacity
  deriving DecidableEq

/-- The answer to a hello. -/
structure WorkerSessionV1 where
  sessionId : String
  workerId : String
  targets : List String
  expiresAt : DateTime
  dispatchEnabled : Bool

inductive WorkerPollStatus
  | idle
  | draining
  | offered
  deriving DecidableEq

structure RemoteSessionAuthorityV1 where
  registry : List TargetRegistryEntryV1 := []
  trust : SortedMap String String := .empty
  supportedCapabilities : SortedMap String Nat := .empty
  sessions : SortedMap String RemoteSessionRecordV1 := .empty
  replayIds : SortedMap String DateTime := .empty
  drainingTargets : List String := []
  drainingWorkers : List String := []
  dispatchEnabled : Bool := false

/-- The numbers of a version, without its suffix. -/
def semverCore (value : String) : List Nat :=
  let core := ((Text.splitOnce "-" value).map (·.1)).getD value
  let parts := (Text.split (· = '.') core).map fun part =>
    (Text.parseUnsigned 64 (String.ofList part)).getD 0
  [parts.getD 0 0, parts.getD 1 0, parts.getD 2 0]

/-- `compare_semver(left, right).is_lt()` -/
def semverLt (left right : String) : Bool := semverCore left < semverCore right

/-- The entries of the `BTreeMap` of a worker's capabilities; the last of an identifier counts. -/
def capabilityMap (capabilities : List WorkerCapabilityV1) : SortedMap String Nat :=
  capabilities.foldl (fun m capability => m.insert capability.id capability.version) .empty

namespace RemoteSessionAuthorityV1

/-- `build`: an authority without sessions; a worker has one certificate. -/
def build (registry : List TargetRegistryEntryV1) (trust : List (String × String))
    (supportedCapabilities : List (String × Nat)) (dispatchEnabled : Bool) :
    Except RemoteCoordinatorError RemoteSessionAuthorityV1 := do
  let trusted ← trust.foldlM (fun trusted (workerId, certificateDigest) => do
    failIf (trusted.contains workerId) .replayOrConflict
    .ok (trusted.insert workerId certificateDigest)) (.empty : SortedMap String String)
  .ok { registry
        trust := trusted
        supportedCapabilities := supportedCapabilities.foldl (fun m (id, version) =>
          m.insert id version) .empty
        dispatchEnabled }

variable (a : RemoteSessionAuthorityV1)

def expire (now : DateTime) : RemoteSessionAuthorityV1 :=
  { a with sessions := a.sessions.filter fun _ session => now < session.expiresAt }

def setSession (sessionId : String) (session : RemoteSessionRecordV1) : RemoteSessionAuthorityV1 :=
  { a with sessions := a.sessions.insert sessionId session }

/-- The identifiers that are not forgotten yet. -/
def remembered (now : DateTime) : RemoteSessionAuthorityV1 :=
  { a with replayIds := a.replayIds.filter fun _ seenAt =>
      now - remoteMessageClockSkewSeconds * 1000000000 ≤ seenAt }

def acceptMessage (messageId : String) (sentAt now : DateTime) :
    RemoteSessionAuthorityV1 × Except RemoteCoordinatorError Unit :=
  let kept := a.remembered now
  if remoteMessageClockSkewSeconds < secondsBetween now sentAt ∨
      remoteMaxReplayIds ≤ kept.replayIds.size ∨ kept.replayIds.contains messageId then
    (kept, .error .replayOrConflict)
  else ({ kept with replayIds := kept.replayIds.insert messageId now }, .ok ())

/-- One target of a hello; the result is the capacity that is left. -/
def admitTarget (hello : WorkerHelloV1) (capabilities : SortedMap String Nat)
    (maximumCapacity : Nat) (targetId : String) : Except RemoteCoordinatorError Nat := do
  let target ← orFail (a.registry.find? (·.id = targetId)) .unauthorized
  failIf (!target.allowedWorkerIdentities.contains hello.workerId ∨
      semverLt hello.workerVersion target.minimumWorkerVersion ∨
      target.requiredCapabilities.any fun required => !capabilities.contains required)
    .incompatible
  .ok (min maximumCapacity target.maximumInFlight)

/-- What a hello declares is supported, allowed and within the bounds of its targets. -/
def admitHello (hello : WorkerHelloV1) : Except RemoteCoordinatorError Unit := do
  let capabilities := capabilityMap hello.capabilities
  failIf (capabilities.entries.any fun (capability, version) =>
    a.supportedCapabilities.get? capability ≠ some version) .incompatible
  let maximumCapacity ← hello.targets.foldlM (a.admitTarget hello capabilities) (2 ^ 32 - 1)
  failIf (maximumCapacity < hello.capacity) .capacity

/-- `establish`; `sessionId` is the one that is generated. -/
def establish (hello : WorkerHelloV1) (certificateDigest : String) (now : DateTime)
    (sessionId : String) :
    RemoteSessionAuthorityV1 × Except RemoteCoordinatorError WorkerSessionV1 :=
  let a := a.expire now
  if remoteMaxSessions ≤ a.sessions.size then (a, .error .capacity)
  else if a.trust.get? hello.workerId ≠ some certificateDigest then (a, .error .unauthorized)
  else
    match a.acceptMessage hello.messageId hello.sentAt now with
    | (a, .error error) => (a, .error error)
    | (a, .ok ()) =>
      match a.admitHello hello with
      | .error error => (a, .error error)
      | .ok () =>
        let expiresAt := now + remoteSessionLifetime
        let record : RemoteSessionRecordV1 :=
          { sessionId
            workerId := hello.workerId
            certificateDigest
            targets := hello.targets
            capacity := hello.capacity
            activeDispatches := 0
            lastMessageAt := hello.sentAt
            expiresAt }
        (a.setSession sessionId record,
          .ok { sessionId, workerId := hello.workerId, targets := hello.targets, expiresAt
                dispatchEnabled := a.dispatchEnabled })

/-- A message of a session that was accepted renews it. -/
def renewSession (session : RemoteSessionRecordV1) (sessionId : String) (sentAt now : DateTime) :
    RemoteSessionAuthorityV1 :=
  a.setSession sessionId
    { session with lastMessageAt := sentAt, expiresAt := now + remoteSessionLifetime }

def poll (message : WorkerPollV1) (certificateDigest : String) (now : DateTime) :
    RemoteSessionAuthorityV1 × Except RemoteCoordinatorError WorkerPollStatus :=
  let a := a.expire now
  match a.sessions.get? message.sessionId with
  | none => (a, .error .unavailable)
  | some session =>
    if session.workerId ≠ message.workerId ∨ session.certificateDigest ≠ certificateDigest ∨
        message.target ∉ session.targets then (a, .error .unauthorized)
    else if message.sentAt < session.lastMessageAt then (a, .error .replayOrConflict)
    else
      match a.acceptMessage message.messageId message.sentAt now with
      | (a, .error error) => (a, .error error)
      | (a, .ok ()) =>
        (a.renewSession session message.sessionId message.sentAt now,
          .ok (if message.workerId ∈ a.drainingWorkers ∨ message.target ∈ a.drainingTargets
            then .draining else .idle))

def shutdown (message : WorkerShutdownV1) (certificateDigest : String) (now : DateTime) :
    RemoteSessionAuthorityV1 × Except RemoteCoordinatorError Unit :=
  match a.sessions.get? message.sessionId with
  | none => (a, .error .unavailable)
  | some session =>
    if session.workerId ≠ message.workerId ∨ session.certificateDigest ≠ certificateDigest then
      (a, .error .unauthorized)
    else if message.sentAt < session.lastMessageAt then (a, .error .replayOrConflict)
    else
      match a.acceptMessage message.messageId message.sentAt now with
      | (a, .error error) => (a, .error error)
      | (a, .ok ()) => ({ a with sessions := a.sessions.erase message.sessionId }, .ok ())

def authorizeDispatchFact (workerId sessionId target messageId : String) (sentAt : DateTime)
    (certificateDigest : String) (now : DateTime) :
    RemoteSessionAuthorityV1 × Except RemoteCoordinatorError Unit :=
  let a := a.expire now
  match a.sessions.get? sessionId with
  | none => (a, .error .unavailable)
  | some session =>
    if session.workerId ≠ workerId ∨ session.certificateDigest ≠ certificateDigest ∨
        target ∉ session.targets ∨ sentAt < session.lastMessageAt then (a, .error .unauthorized)
    else
      match a.acceptMessage messageId sentAt now with
      | (a, .error error) => (a, .error error)
      | (a, .ok ()) => (a.renewSession session sessionId sentAt now, .ok ())

/-! ## Draining and capacity -/

def beginDrain (targetOrWorker : String) : Except RemoteCoordinatorError RemoteSessionAuthorityV1 :=
  if a.registry.any (·.id = targetOrWorker) then
    .ok { a with drainingTargets := a.drainingTargets.insert targetOrWorker }
  else if a.trust.contains targetOrWorker then
    .ok { a with drainingWorkers := a.drainingWorkers.insert targetOrWorker }
  else .error .unauthorized

def endDrain (targetOrWorker : String) : Except RemoteCoordinatorError RemoteSessionAuthorityV1 :=
  if targetOrWorker ∈ a.drainingTargets then
    .ok { a with drainingTargets := a.drainingTargets.filter (· ≠ targetOrWorker) }
  else if targetOrWorker ∈ a.drainingWorkers then
    .ok { a with drainingWorkers := a.drainingWorkers.filter (· ≠ targetOrWorker) }
  else .error .unavailable

def reserveDispatch (sessionId target : String) :
    Except RemoteCoordinatorError RemoteSessionAuthorityV1 := do
  let session ← orFail (a.sessions.get? sessionId) .unavailable
  failIf (target ∉ session.targets ∨ target ∈ a.drainingTargets ∨
    session.workerId ∈ a.drainingWorkers) .unavailable
  failIf (session.capacity ≤ session.activeDispatches) .capacity
  .ok (a.setSession sessionId
    { session with activeDispatches := session.activeDispatches + 1 })

/-- The subtraction saturates at zero. -/
def releaseDispatch (sessionId : String) :
    Except RemoteCoordinatorError RemoteSessionAuthorityV1 := do
  let session ← orFail (a.sessions.get? sessionId) .unavailable
  .ok (a.setSession sessionId
    { session with activeDispatches := session.activeDispatches - 1 })

end RemoteSessionAuthorityV1

/-! ## Messages one after the other -/

/-- The messages of the worker protocol, as the authority sees them. -/
inductive WorkerMessage
  | hello (message : WorkerHelloV1)
  | poll (message : WorkerPollV1)
  | shutdown (message : WorkerShutdownV1)
  | fact (message : WorkerDispatchFactV1)

namespace WorkerMessage

def messageId : WorkerMessage → String
  | hello message => message.messageId
  | poll message => message.messageId
  | shutdown message => message.messageId
  | fact message => message.messageId

def sentAt : WorkerMessage → DateTime
  | hello message => message.sentAt
  | poll message => message.sentAt
  | shutdown message => message.sentAt
  | fact message => message.sentAt

end WorkerMessage

/-- A message as it arrives: with the certificate of the connection, the coordinator's time and the
session identifier that is generated if it is a hello. -/
structure ReceivedMessage where
  message : WorkerMessage
  certificateDigest : String
  now : DateTime
  sessionId : String

namespace RemoteSessionAuthorityV1

variable (a : RemoteSessionAuthorityV1)

/-- The authority after a message, and whether the message was accepted. -/
def receive (r : ReceivedMessage) : RemoteSessionAuthorityV1 × Bool :=
  match r.message with
  | .hello message =>
    (a.establish message r.certificateDigest r.now r.sessionId).map id Except.isOk
  | .poll message => (a.poll message r.certificateDigest r.now).map id Except.isOk
  | .shutdown message => (a.shutdown message r.certificateDigest r.now).map id Except.isOk
  | .fact message =>
    (a.authorizeDispatchFact message.workerId message.sessionId message.target message.messageId
      message.sentAt r.certificateDigest r.now).map id Except.isOk

def run (messages : List ReceivedMessage) : RemoteSessionAuthorityV1 :=
  messages.foldl (fun a r => (a.receive r).1) a

/-- The messages that are accepted, in order. -/
def accepted : RemoteSessionAuthorityV1 → List ReceivedMessage → List ReceivedMessage
  | _, [] => []
  | a, r :: rest =>
    if (a.receive r).2 then r :: accepted (a.receive r).1 rest else accepted (a.receive r).1 rest

end RemoteSessionAuthorityV1

end Woml
