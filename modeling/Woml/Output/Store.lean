import Woml.Event.Identities
import Woml.Lib.SortedMap

/-!
# The store of operational output

The records of all runs stand under one sequence. A row per run accounts for its output, and two
marks say how far output was pruned: one for the store, one for each pruned run. A handle appends
records (`appendBounded`, `appendRemoteBounded`), prunes runs that are terminal
(`pruneTerminalBefore`) and reads pages after a cursor (`readScopedPage`). The table of the latest
progress is not modelled: none of the three reads it.

A transaction that fails leaves the store as it is. A record stands for its row and its JSON text,
of which only the length is read; instants are whole milliseconds.
-/

namespace Woml

open Checked

def operationalRecordProfile : String := "woml.operational-record/v1"

def operationalPageProfile : String := "woml.operational-page/v1"

def maxOperationalChunkBytes : Nat := 16 * 1024

def maxOperationalTextBytes : Nat := 16 * 1024

def maxOperationalPageRecords : Nat := 1000

def maxOperationalPageBytes : Nat := 1024 * 1024

/-! ## Records -/

inductive OperationalSourceV1
  | stdout | stderr | script | runtime

inductive OperationalExecutionPhaseV1
  | forward | corrective

inductive OperationalLogLevelV1
  | debug | info | warn | error

inductive OperationalCloseStatusV1
  | succeeded | failed | cancelled | timedOut | interrupted

inductive OperationalProgressStatusV1
  | active | closed

inductive OperationalBodyV1
  | output (source : OperationalSourceV1) (level : Option OperationalLogLevelV1) (text : String)
      (byteCount : Nat)
  | progress (progressId : String) (current total : Option F64) (unit message : Option String)
      (status : OperationalProgressStatusV1)
  | truncated (source : OperationalSourceV1) (droppedBytes : Nat) (reason : String)
  | artifact (artifactId name : String) (size : Nat) (sha256 contentType : String)
  | closed (status : OperationalCloseStatusV1) (reasonCode : Option String)
  | gap (requestedAfter prunedThrough : Nat) (earliestAvailable : Option Nat)

namespace OperationalBodyV1

def isTruncated : OperationalBodyV1 → Bool
  | truncated .. => true
  | _ => false

def isClosed : OperationalBodyV1 → Bool
  | closed .. => true
  | _ => false

def accountedBytes : OperationalBodyV1 → Nat
  | output _ _ _ byteCount => byteCount
  | _ => 0

end OperationalBodyV1

structure OperationalIdentityV1 where
  workflowId : String
  runId : String
  nodeId : Option String := none
  attempt : Option Nat := none
  invocationId : Option String := none
  phase : OperationalExecutionPhaseV1 := .forward

structure OperationalRecordDraftV1 where
  identity : OperationalIdentityV1
  body : OperationalBodyV1

structure OperationalRecordV1 extends OperationalRecordDraftV1 where
  profile : String
  deploymentId : String
  sequence : Nat
  occurredAt : DateTime

inductive OperationalOutputError
  | unavailable
  | corrupt
  | invalidRecord (message : String)
  | invalidCursor
  deriving DecidableEq

/-- The length of the JSON text of a record, in bytes. -/
class OutputHost where
  encodedLen : OperationalRecordV1 → Nat

/-! ## What a record may hold -/

def validateId (value : String) : Except OperationalOutputError Unit :=
  failIf (value = "" || 320 < value.utf8ByteSize ||
      value.toList.any fun c => c.toNat ≤ 0x20 || c.toNat = 0x7f)
    (.invalidRecord "identity is invalid")

def validateText (value : String) (maxBytes : Nat) : Except OperationalOutputError Unit :=
  failIf (value = "" || maxBytes < value.utf8ByteSize || value.toList.contains '\x00')
    (.invalidRecord "text field is invalid")

/-- `current` is finite and not below zero, `total` above zero and not below `current`: for such
numbers the order is the one of the bit patterns. -/
def validProgress (current total : Option F64) : Bool :=
  current.all (fun x => x.isFinite && x.bits < 2 ^ 63) &&
    total.all fun y => y.isFinite && y.bits < 2 ^ 63 && y.bits ≠ 0 &&
      current.all fun x => x.bits ≤ y.bits

def validateBody : OperationalBodyV1 → Except OperationalOutputError Unit
  | .output _ _ text byteCount =>
    failIf (maxOperationalTextBytes < text.utf8ByteSize || maxOperationalChunkBytes < byteCount)
      (.invalidRecord "output chunk exceeds its budget")
  | .progress progressId current total unit message _ => do
    validateId progressId
    failIf (128 < progressId.utf8ByteSize) (.invalidRecord "progress ID exceeds its budget")
    failIf (current.isNone && message.isNone || !validProgress current total)
      (.invalidRecord "progress values are invalid")
    if let some unit := unit then
      failIf current.isNone (.invalidRecord "progress units require a current value")
      validateText unit 32
    if let some message := message then validateText message 512
  | .truncated _ droppedBytes reason => do
    failIf (droppedBytes = 0) (.invalidRecord "truncation must drop bytes")
    validateText reason 128
  | .artifact artifactId name _ sha256 contentType => do
    validateId artifactId
    validateText name 256
    failIf (sha256.utf8ByteSize ≠ 64 || !(Text.bytes sha256).all Text.isLowerHex)
      (.invalidRecord "artifact digest is invalid")
    validateText contentType 255
  | .closed _ reasonCode =>
    failIf (reasonCode.any fun code => 128 < code.utf8ByteSize || !Text.startsWith "WOML_" code ||
        !Text.all Text.isUpperDigitOrUnderscore code)
      (.invalidRecord "closure reason is invalid")
  | .gap .. => .error (.invalidRecord "gap records are synthesized and cannot be appended")

def validateOutputIdentity (identity : OperationalIdentityV1) :
    Except OperationalOutputError Unit := do
  validateId identity.workflowId
  validateId identity.runId
  if let some nodeId := identity.nodeId then validateId nodeId
  if let some invocationId := identity.invocationId then validateId invocationId
  failIf (identity.attempt = some 0) (.invalidRecord "attempt must be positive")

def validateDraft (draft : OperationalRecordDraftV1) : Except OperationalOutputError Unit := do
  validateOutputIdentity draft.identity
  validateBody draft.body

def validatePersistedRecord (record : OperationalRecordV1) (deploymentId : String) :
    Except OperationalOutputError Unit := do
  failIf (record.profile ≠ operationalRecordProfile || record.deploymentId ≠ deploymentId ||
    record.sequence = 0) .corrupt
  (validateDraft record.toOperationalRecordDraftV1).mapError fun _ => .corrupt

/-! ## Tables -/

structure OperationalOutputLimitsV1 where
  maxAttemptBytes : Nat := 16 * 1024 * 1024
  maxRunBytes : Nat := 16 * 1024 * 1024
  maxStoreBytes : Nat := 1024 * 1024 * 1024

structure OperationalRunRow where
  lastSequence : Nat
  recordCount : Nat
  retainedOutputBytes : Nat
  active : Bool
  terminalAt : Option DateTime

structure RemoteOperationalIdentity where
  dispatchId : String
  sequence : Nat
  digest : String

structure RemoteSequenceRow extends RemoteOperationalIdentity where
  localSequence : Nat
  runId : String

structure OperationalOutputStore where
  deploymentId : String
  nextSequence : Nat := 1
  prunedThrough : Nat := 0
  records : SortedMap Nat OperationalRecordV1 := .empty
  remoteSequences : List RemoteSequenceRow := []
  runs : SortedMap String OperationalRunRow := .empty
  prunedRuns : SortedMap String Nat := .empty

inductive OperationalAppendOutcomeV1
  | appended (record : OperationalRecordV1)
  | truncated (record : OperationalRecordV1)
  | dropped (markerSequence : Nat)

structure OperationalOutputPruneResultV1 where
  prunedRuns : Nat
  prunedRecords : Nat
  prunedOutputBytes : Nat
  prunedThrough : Nat

/-- The record that was written. -/
def OperationalAppendOutcomeV1.record : OperationalAppendOutcomeV1 → Option OperationalRecordV1
  | appended record | truncated record => some record
  | dropped _ => none

namespace OperationalOutputStore

variable [OutputHost] (s : OperationalOutputStore)

/-! ## Appending -/

/-- The local sequence of a remote record that was appended before; a record that is not the next
one of its dispatch is refused. -/
def replayed : Option RemoteOperationalIdentity → Except OperationalOutputError (Option Nat)
  | none => .ok none
  | some remote => do
    let rows := s.remoteSequences.filter (·.dispatchId = remote.dispatchId)
    match rows.find? (·.sequence = remote.sequence) with
    | some row =>
      failIf (row.digest ≠ remote.digest)
        (.invalidRecord "the remote output replay conflicts with retained output")
      .ok (some row.localSequence)
    | none =>
      failIf (remote.sequence ≠ (rows.map (·.sequence)).foldl max 0 + 1)
        (.invalidRecord "remote output records must be appended in sequence")
      .ok none

def isLane (identity : OperationalIdentityV1) (record : OperationalRecordV1) : Bool :=
  record.identity.runId = identity.runId && record.identity.nodeId = identity.nodeId &&
    record.identity.attempt = identity.attempt

/-- The budget that `byteCount` more bytes of output exceed. -/
def exceededBudget (limits : OperationalOutputLimitsV1) (identity : OperationalIdentityV1)
    (byteCount : Nat) : Option String :=
  let attemptBytes := ((s.records.values.filter (isLane identity)).map (·.body.accountedBytes)).sum
  let runBytes := ((s.runs.get? identity.runId).map (·.retainedOutputBytes)).getD 0
  let storeBytes := (s.runs.values.map (·.retainedOutputBytes)).sum
  if limits.maxAttemptBytes < attemptBytes + byteCount then some "inline_attempt_budget"
  else if limits.maxRunBytes < runBytes + byteCount then some "inline_run_budget"
  else if limits.maxStoreBytes < storeBytes + byteCount then some "output_store_budget"
  else none

/-- The body that marks the truncation, for output that exceeds a budget. -/
def truncation (limits : OperationalOutputLimitsV1) (draft : OperationalRecordDraftV1) :
    Option OperationalBodyV1 :=
  match draft.body with
  | .output source _ _ byteCount =>
    (s.exceededBudget limits draft.identity byteCount).map (.truncated source byteCount)
  | _ => none

def recordRemote (remote : Option RemoteOperationalIdentity) (localSequence : Nat)
    (runId : String) : OperationalOutputStore :=
  { s with
    remoteSequences := s.remoteSequences ++
      (remote.map fun identity => RemoteSequenceRow.mk identity localSequence runId).toList }

/-- A closure of the run, not of one node's attempt, makes the run terminal. -/
def accounted (row : Option OperationalRunRow) (record : OperationalRecordV1) : OperationalRunRow :=
  let terminal := record.body.isClosed && record.identity.nodeId.isNone
  { lastSequence := record.sequence
    recordCount := (row.map (·.recordCount)).getD 0 + 1
    retainedOutputBytes := (row.map (·.retainedOutputBytes)).getD 0 + record.body.accountedBytes
    active := !terminal
    terminalAt := if terminal then some record.occurredAt else row.bind (·.terminalAt) }

def insertRecord (draft : OperationalRecordDraftV1) (remote : Option RemoteOperationalIdentity)
    (now : DateTime) : Except OperationalOutputError (OperationalOutputStore × OperationalRecordV1) := do
  let record : OperationalRecordV1 :=
    { draft with
      profile := operationalRecordProfile, deploymentId := s.deploymentId
      sequence := s.nextSequence, occurredAt := now }
  failIf (maxOperationalPageBytes < OutputHost.encodedLen record)
    (.invalidRecord "encoded record is too large")
  let runId := record.identity.runId
  let s := s.recordRemote remote record.sequence runId
  .ok ({ s with
    records := s.records.insert record.sequence record
    runs := s.runs.insert runId (accounted (s.runs.get? runId) record)
    nextSequence := record.sequence + 1 }, record)

/-- The outcome, with whether it is the one of an earlier append of the same remote record. -/
def appendBoundedInternal (limits : OperationalOutputLimitsV1) (draft : OperationalRecordDraftV1)
    (remote : Option RemoteOperationalIdentity) (now : DateTime) :
    Except OperationalOutputError (OperationalOutputStore × OperationalAppendOutcomeV1 × Bool) := do
  validateDraft draft
  match ← s.replayed remote with
  | some localSequence => .ok (s, .dropped localSequence, true)
  | none =>
    failIf (s.nextSequence = 0 || 2 ^ 63 - 1 ≤ s.nextSequence) .unavailable
    failIf ((s.runs.get? draft.identity.runId).any (!·.active))
      (.invalidRecord "the operational stream is already closed")
    match s.truncation limits draft with
    | none =>
      let (s, record) ← s.insertRecord draft remote now
      .ok (s, .appended record, false)
    | some body =>
      match s.records.values.find? fun r => isLane draft.identity r && r.body.isTruncated with
      | some marker =>
        let s := s.recordRemote remote marker.sequence draft.identity.runId
        .ok (s, .dropped marker.sequence, false)
      | none =>
        let (s, record) ← s.insertRecord { draft with body } remote now
        .ok (s, .truncated record, false)

def appendBounded (limits : OperationalOutputLimitsV1) (draft : OperationalRecordDraftV1)
    (now : DateTime) :
    Except OperationalOutputError (OperationalOutputStore × OperationalAppendOutcomeV1 × Bool) :=
  s.appendBoundedInternal limits draft none now

/-- `start` and hexadecimal digits, `length` bytes in all. -/
def validHexId (start : String) (length : Nat) (value : String) : Bool :=
  value.utf8ByteSize = length && (Text.stripPrefix start value).any fun digits =>
    Text.all (fun c => c.isDigit || ('a' ≤ c && c ≤ 'f') || ('A' ≤ c && c ≤ 'F')) digits

def appendRemoteBounded (limits : OperationalOutputLimitsV1) (remote : RemoteOperationalIdentity)
    (draft : OperationalRecordDraftV1) (now : DateTime) :
    Except OperationalOutputError (OperationalOutputStore × OperationalAppendOutcomeV1 × Bool) := do
  failIf (!validHexId "dispatch_" 73 remote.dispatchId || remote.sequence = 0 ||
    !validHexId "sha256:" 71 remote.digest) (.invalidRecord "the remote output identity is invalid")
  s.appendBoundedInternal limits draft (some remote) now

/-! ## Pruning -/

def pruneRun (run : String × OperationalRunRow) : OperationalOutputStore :=
  { s with
    prunedRuns := s.prunedRuns.insert run.1
      (max ((s.prunedRuns.get? run.1).getD 0) run.2.lastSequence)
    remoteSequences := s.remoteSequences.filter (·.runId ≠ run.1)
    records := s.records.filter fun _ record => record.identity.runId ≠ run.1
    runs := s.runs.erase run.1
    prunedThrough := max s.prunedThrough run.2.lastSequence }

/-- The runs that ended before `cutoff`, the first ones first. -/
def pruneCandidates (cutoff : DateTime) (maxRuns : Nat) : List (String × OperationalRunRow) :=
  let ended := s.runs.entries.filter fun (_, row) =>
    !row.active && row.terminalAt.any (· < cutoff)
  (ended.insertionSort fun a b => a.2.terminalAt.getD 0 < b.2.terminalAt.getD 0 ∨
    a.2.terminalAt.getD 0 = b.2.terminalAt.getD 0 ∧ a.1 ≤ b.1).take maxRuns

def pruneTerminalBefore (cutoff : DateTime) (maxRuns : Nat) :
    Except OperationalOutputError (OperationalOutputStore × OperationalOutputPruneResultV1) := do
  failIf (maxRuns = 0 || 1000 < maxRuns) .invalidCursor
  let candidates := s.pruneCandidates cutoff maxRuns
  let s := candidates.foldl pruneRun s
  .ok (s, {
    prunedRuns := candidates.length
    prunedRecords := (candidates.map (·.2.recordCount)).sum
    prunedOutputBytes := (candidates.map (·.2.retainedOutputBytes)).sum
    prunedThrough := s.prunedThrough })

end OperationalOutputStore

/-! ## Pages -/

structure OperationalGapV1 where
  requestedAfter : Nat
  prunedThrough : Nat
  earliestAvailable : Option Nat

structure OperationalPageV1 where
  profile : String
  deploymentId : String
  runId : Option String
  requestedAfter : Nat
  nextAfter : Nat
  earliestAvailable : Option Nat
  latestSequence : Nat
  hasMore : Bool
  gap : Option OperationalGapV1
  records : List OperationalRecordV1

namespace OperationalOutputStore

variable [OutputHost] (s : OperationalOutputStore)

/-- The records of a run, or of all runs, in the order of their sequence. -/
def recordsOf (runId : Option String) : List OperationalRecordV1 :=
  s.records.values.filter fun record => runId.all (record.identity.runId = ·)

/-- The rows of a page: as many as fit into what is left of the limits. -/
def fillPage : (limit bytes : Nat) → List OperationalRecordV1 →
    Except OperationalOutputError (List OperationalRecordV1)
  | 0, _, _ | _, _, [] => .ok []
  | limit + 1, bytes, record :: rest =>
    if bytes < OutputHost.encodedLen record then .ok []
    else do
      validatePersistedRecord record s.deploymentId
      let rest ← fillPage limit (bytes - OutputHost.encodedLen record) rest
      .ok (record :: rest)

def prunedMark (runId : Option String) : Nat :=
  match runId with
  | some runId => (s.prunedRuns.get? runId).getD 0
  | none => s.prunedThrough

/-- A run's page starts behind what was pruned of the run. -/
def effectiveAfter (runId : Option String) (after : Nat) : Nat :=
  if runId.isSome then max after (s.prunedMark runId) else after

def readScopedPage (runId : Option String) (after limit : Nat) :
    Except OperationalOutputError OperationalPageV1 := do
  failIf (2 ^ 63 - 1 < after || limit = 0 || maxOperationalPageRecords < limit) .invalidCursor
  let prunedThrough := s.prunedMark runId
  let available := (s.recordsOf runId).map (·.sequence)
  let latestSequence := max (available.getLast?.getD prunedThrough) prunedThrough
  let effectiveAfter := s.effectiveAfter runId after
  let rows := (s.recordsOf runId).filter (effectiveAfter < ·.sequence)
  let records ← s.fillPage limit maxOperationalPageBytes (rows.take (limit + 1))
  let nextAfter := (records.getLast?.map (·.sequence)).getD effectiveAfter
  .ok {
    profile := operationalPageProfile, deploymentId := s.deploymentId, runId
    requestedAfter := after, nextAfter, earliestAvailable := available.head?, latestSequence
    hasMore := nextAfter < latestSequence
    gap := if after < prunedThrough then some ⟨after, prunedThrough, available.head?⟩ else none
    records }

end OperationalOutputStore

/-! ## Following -/

/-- A follower of the output of a run, or of all runs, beside the handles that write: the cursor of
its next read and the records it has read since `start`. `written` are all records ever appended. -/
structure OutputFollower where
  store : OperationalOutputStore
  runId : Option String
  limit : Nat
  start : Nat
  cursor : Nat := start
  records : List OperationalRecordV1 := []
  written : List OperationalRecordV1 := []

inductive OutputAction
  | append (limits : OperationalOutputLimitsV1) (draft : OperationalRecordDraftV1) (now : DateTime)
  | appendRemote (limits : OperationalOutputLimitsV1) (remote : RemoteOperationalIdentity)
      (draft : OperationalRecordDraftV1) (now : DateTime)
  | prune (cutoff : DateTime) (maxRuns : Nat)
  | read

namespace OutputFollower

variable [OutputHost] (f : OutputFollower)

def wrote (answer : Except OperationalOutputError
    (OperationalOutputStore × OperationalAppendOutcomeV1 × Bool)) : OutputFollower :=
  match answer with
  | .ok (store, outcome, _) => { f with store, written := f.written ++ outcome.record.toList }
  | .error _ => f

def step : OutputAction → OutputFollower
  | .append limits draft now => f.wrote (f.store.appendBounded limits draft now)
  | .appendRemote limits remote draft now =>
    f.wrote (f.store.appendRemoteBounded limits remote draft now)
  | .prune cutoff maxRuns =>
    match f.store.pruneTerminalBefore cutoff maxRuns with
    | .ok (store, _) => { f with store }
    | .error _ => f
  | .read =>
    match f.store.readScopedPage f.runId f.cursor f.limit with
    | .ok page => { f with cursor := page.nextAfter, records := f.records ++ page.records }
    | .error _ => f

def run (actions : List OutputAction) : OutputFollower := actions.foldl step f

/-- The next page. -/
def page : Except OperationalOutputError OperationalPageV1 :=
  f.store.readScopedPage f.runId f.cursor f.limit

end OutputFollower

end Woml
