import Woml.Host
import Woml.Lib.SortedMap

/-!
# Artifacts: rows and bytes

The rows of the artifacts and of their blobs stand in the state database, the bytes under their
digests in a backend. Any number of jobs share them: puts, publications of operational output
(which end as a put of their bytes), maintenance passes and openings of the store. A step is one
transaction, one query or one file operation; the transaction of a put holds the write lock of the
database while the put works on the files. An operation that fails ends its job, as a crash does
(`stop`). A dry run of the maintenance only reads, and its report is left out.
-/

namespace Woml

inductive ArtifactStatus
  | available | quarantined | expired | corrupt | deleted
  deriving DecidableEq

/-- A row of `woml_artifacts`, with its provenance and its retention. -/
structure ArtifactRow where
  artifactId : String
  runId : String
  sha256 : String
  size : Nat
  status : ArtifactStatus
  expiresAt : DateTime
  deriving DecidableEq

structure ArtifactLimits where
  maxRunBytes : Nat
  maxStoreBytes : Nat

inductive ArtifactBackend
  | localFiles | s3
  deriving DecidableEq

/-- A put that has read its source. -/
structure ArtifactPut where
  artifactId : String
  runId : String
  bytes : List Nat
  expiresAt : DateTime

/-- How far a put is with the publication of its bytes. -/
inductive PutPhase
  /-- The bytes are in a staged file. -/
  | staged
  /-- The transaction has begun, within the quotas. -/
  | begun
  /-- To be linked from the staged file. -/
  | absent
  /-- To be verified. -/
  | present
  | verified
  /-- The staged file is removed. -/
  | published
  deriving DecidableEq

def PutPhase.isVerified : PutPhase → Bool
  | verified | published => true
  | _ => false

/-- What a job does next. -/
inductive ArtifactJob
  | idle
  | put (put : ArtifactPut) (phase : PutPhase)
  /-- An opening removes the staged files. -/
  | cleaning (staged : List Nat)
  /-- A maintenance pass removes the bytes of the blob rows it has removed. -/
  | deleting (digests : List String)
  | scrubbing (blobs : List (String × Nat))
  | marking (digest : String) (blobs : List (String × Nat))
  /-- The backend is listed, up to a limit. -/
  | listing (limit : Option Nat)
  /-- What was listed is looked up in the blob rows. -/
  | sweeping (digests : List String)
  /-- No blob row was found. -/
  | collecting (digest : String) (digests : List String)
  | done

structure SharedArtifacts where
  blobs : SortedMap String Nat := .empty
  artifacts : List ArtifactRow := []
  files : SortedMap String (List Nat) := .empty
  /-- The jobs whose staged file is there. -/
  staged : List Nat := []
  /-- The job whose transaction has the write lock. -/
  writer : Option Nat := none
  jobs : Nat → ArtifactJob := fun _ => .idle

inductive ArtifactAction
  | put (put : ArtifactPut)
  | openStore
  /-- Under a pin or the access of an active run an artifact is protected. -/
  | maintain (now : DateTime) (isProtected : String → Bool)
  | advance
  /-- The backend answers in an order of its own. -/
  | list (order : List String)
  /-- The job ends; a crash leaves the staged file. -/
  | stop (crashed : Bool)

def artifactMaintenanceBatch : Nat := 250

def artifactScrubBatch : Nat := 64

def artifactOrphanScanBatch : Nat := 1000

def s3MultipartThresholdBytes : Nat := 64 * 1024 * 1024

section
variable [Host]

def ArtifactPut.sha256 (put : ArtifactPut) : String := Host.sha256 put.bytes

def ArtifactPut.row (put : ArtifactPut) : ArtifactRow :=
  { artifactId := put.artifactId, runId := put.runId, sha256 := put.sha256
    size := put.bytes.length, status := .available, expiresAt := put.expiresAt }

namespace SharedArtifacts

variable (backend : ArtifactBackend) (limits : ArtifactLimits) (s : SharedArtifacts) (job : Nat)

def goto (next : ArtifactJob) : SharedArtifacts := { s with jobs := Function.update s.jobs job next }

/-- `enforce_quotas` -/
def withinQuotas (put : ArtifactPut) : Bool :=
  let ofRun := s.artifacts.filter fun row => row.runId = put.runId && row.status = .available
  (ofRun.map (·.size)).sum + put.bytes.length ≤ limits.maxRunBytes &&
    match s.blobs.get? put.sha256 with
    | some size => size = put.bytes.length
    | none => s.blobs.values.sum + put.bytes.length ≤ limits.maxStoreBytes

def verifies (digest : String) (size : Nat) : Bool :=
  (s.files.get? digest).any fun bytes => bytes.length = size && Host.sha256 bytes = digest

/-- The bytes of a staged file under their digest. A link and a small upload keep what is there. -/
def link (put : ArtifactPut) : SortedMap String (List Nat) :=
  if s.files.contains put.sha256 &&
      !(backend = .s3 && s3MultipartThresholdBytes ≤ put.bytes.length) then s.files
  else s.files.insert put.sha256 put.bytes

/-- The next operation of a put. -/
def advancePut (put : ArtifactPut) : PutPhase → Option SharedArtifacts
  | .staged =>
    if s.writer.isNone && s.withinQuotas limits put then
      some ({ s with writer := some job }.goto job (.put put .begun))
    else none
  | .begun =>
    let found := backend = .localFiles && s.files.contains put.sha256
    some (s.goto job (.put put (if found then .present else .absent)))
  | .absent =>
    if s.staged.contains job then
      some ({ s with files := s.link backend put }.goto job (.put put .present))
    else none
  | .present =>
    if s.verifies put.sha256 put.bytes.length then some (s.goto job (.put put .verified)) else none
  | .verified =>
    if s.staged.contains job then
      some ({ s with staged := s.staged.erase job }.goto job (.put put .published))
    else none
  | .published =>
    if s.artifacts.any (·.artifactId = put.artifactId) then none
    else some
      ({ s with
        blobs := s.blobs.insertFirst put.sha256 put.bytes.length
        artifacts := s.artifacts ++ [put.row]
        writer := none }.goto job .done)

/-- `artifact_retention_candidates` -/
def retentionCandidates (now : DateTime) (isProtected : String → Bool) : List ArtifactRow :=
  let eligible := s.artifacts.filter fun row =>
    row.expiresAt ≤ now && row.status ≠ .deleted && !isProtected row.artifactId
  (eligible.insertionSort fun a b => a.expiresAt < b.expiresAt ∨
    a.expiresAt = b.expiresAt ∧ a.artifactId ≤ b.artifactId).take artifactMaintenanceBatch

/-- The transaction of a maintenance pass. The bytes without a blob row go when it is committed. -/
def retire (candidates : List ArtifactRow) : SharedArtifacts :=
  let artifacts := s.artifacts.filter fun row => !candidates.any (·.artifactId = row.artifactId)
  let digests : SortedMap String Nat :=
    candidates.foldl (fun digests row => digests.insert row.sha256 row.size) .empty
  let unreachable := digests.keys.filter fun digest => !artifacts.any (·.sha256 = digest)
  { s with artifacts, blobs := s.blobs.filter fun digest _ => !unreachable.contains digest }.goto job
    (.deleting unreachable)

/-- A pass without candidates opens no transaction. -/
def maintenance (now : DateTime) (isProtected : String → Bool) : Option SharedArtifacts :=
  let candidates := s.retentionCandidates now isProtected
  if candidates.isEmpty then some (s.goto job (.deleting []))
  else if s.writer.isNone then some (s.retire job candidates)
  else none

def markCorrupt (digest : String) : List ArtifactRow :=
  s.artifacts.map fun row =>
    if row.sha256 = digest && row.status ≠ .deleted then { row with status := .corrupt } else row

/-- The next operation of a job. -/
def advance : Option SharedArtifacts :=
  match s.jobs job with
  | .put put phase => s.advancePut backend limits job put phase
  | .cleaning (other :: rest) =>
    if s.staged.contains other then
      some ({ s with staged := s.staged.erase other }.goto job (.cleaning rest))
    else none
  | .cleaning [] =>
    some (s.goto job (.listing (if backend = .s3 then some artifactOrphanScanBatch else none)))
  | .deleting (digest :: rest) =>
    some ({ s with files := s.files.erase digest }.goto job (.deleting rest))
  | .deleting [] => some (s.goto job (.scrubbing (s.blobs.entries.take artifactScrubBatch)))
  | .scrubbing ((digest, size) :: rest) =>
    some (s.goto job (if s.verifies digest size then .scrubbing rest else .marking digest rest))
  | .scrubbing [] => some (s.goto job (.listing (some artifactOrphanScanBatch)))
  | .marking digest rest =>
    if s.writer.isNone then
      some ({ s with artifacts := s.markCorrupt digest }.goto job (.scrubbing rest))
    else none
  | .sweeping (digest :: rest) =>
    some (s.goto job (if s.blobs.contains digest then .sweeping rest else .collecting digest rest))
  | .sweeping [] => some (s.goto job .done)
  | .collecting digest rest =>
    some ({ s with files := s.files.erase digest }.goto job (.sweeping rest))
  | .idle | .listing _ | .done => none

/-- What was listed, in the order in which it is looked up. -/
def listed (order : List String) : Option Nat → List String
  | some limit => (order.take limit).insertionSort (· ≤ ·)
  | none => order

def step (action : ArtifactAction) : Option SharedArtifacts :=
  match s.jobs job, action with
  | .idle, .put put => some ({ s with staged := job :: s.staged }.goto job (.put put .staged))
  | .idle, .openStore => some (s.goto job (.cleaning s.staged))
  | .idle, .maintain now isProtected => s.maintenance job now isProtected
  | .listing limit, .list order =>
    if order.isPerm s.files.keys then some (s.goto job (.sweeping (listed order limit))) else none
  | _, .advance => s.advance backend limits job
  | _, .stop crashed =>
    some ({ s with
      writer := s.writer.filter (· ≠ job)
      staged := if crashed then s.staged else s.staged.erase job }.goto job .done)
  | _, _ => none

/-- A step that cannot be taken changes nothing. -/
def run (actions : List (Nat × ArtifactAction)) : SharedArtifacts :=
  actions.foldl (fun s (job, action) => (s.step backend limits job action).getD s) s

end SharedArtifacts

end

end Woml
