import Woml.Event.Data
import Woml.Host
import Woml.Lib.Checked

/-!
# The source of an artifact

A put reads its source in pieces, of which each is searched for known secrets, together with the
end of what was read before it, hashed and written to the stage. What the file system answers is
a `SourceFile`.
-/

namespace Woml

open Checked

inductive KnownSecretAction
  | reject | quarantine | allow
  deriving DecidableEq

def artifactFailure (kind : CapabilityFailureKind) (code message : String)
    (retryable ambiguous : Bool) : CapabilityFailure :=
  { kind, code, message, retryable, ambiguous, details := none }

def sourceChanged : CapabilityFailure :=
  artifactFailure .serviceRejected "WOML_ARTIFACT_SOURCE_CHANGED"
    "The artifact source changed while it was imported." false true

def artifactTooLarge : CapabilityFailure :=
  artifactFailure .inputTooLarge "WOML_ARTIFACT_TOO_LARGE"
    "The artifact exceeds its configured byte limit." false false

def artifactQuarantined : CapabilityFailure :=
  artifactFailure .serviceRejected "WOML_ARTIFACT_QUARANTINED"
    "Artifact policy quarantined this body." false false

def artifactCancelled : CapabilityFailure :=
  artifactFailure .cancelled "WOML_ARTIFACT_CANCELLED" "The artifact transfer was cancelled." false
    true

structure SourceIdentity where
  length : Nat
  modified : Option DateTime
  device : Nat
  inode : Nat
  deriving DecidableEq

/-- One turn of the loop. -/
structure SourceTurn where
  cancelled : Bool := false
  /-- The bytes that are read, none at the end of the file. -/
  read : Except CapabilityFailure (List Nat)
  written : Except CapabilityFailure Unit := .ok ()

structure SourceFile where
  /-- The identity of the file that is opened, if its path is allowed. -/
  before : Except CapabilityFailure SourceIdentity
  turns : List SourceTurn
  after : Except CapabilityFailure SourceIdentity
  /-- Whether the path is still free of links, and canonical. -/
  path : Except CapabilityFailure Unit := .ok ()

structure SourceState where
  size : Nat := 0
  overlap : List Nat := []
  hashed : List Nat := []
  stage : Option (List Nat)

def containsBytes (haystack needle : List Nat) : Bool := !needle.isEmpty && needle <:+: haystack

structure SourceReader where
  maxArtifactBytes : Nat
  secretAction : KnownSecretAction
  knownSecrets : List (List Nat)

namespace SourceReader

variable (r : SourceReader)

def overlapSize : Nat := (r.knownSecrets.map List.length).max?.getD 1 - 1

def readChunk (s : SourceState) (chunk : List Nat) : Except CapabilityFailure SourceState := do
  let size := s.size + chunk.length
  failIf (r.maxArtifactBytes < size) artifactTooLarge
  let s := { s with size, hashed := s.hashed ++ chunk, stage := s.stage.map (· ++ chunk) }
  if r.secretAction ≠ .allow && !r.knownSecrets.isEmpty then
    let scan := s.overlap ++ chunk
    failIf (r.knownSecrets.any (containsBytes scan)) artifactQuarantined
    let keep := min scan.length r.overlapSize
    .ok { s with overlap := scan.drop (scan.length - keep) }
  else .ok s

def readTurns (s : SourceState) : List SourceTurn → Except CapabilityFailure SourceState
  | [] => .ok s
  | turn :: turns => do
    failIf turn.cancelled artifactCancelled
    let chunk ← turn.read
    if chunk.isEmpty then .ok s
    else
      let s ← r.readChunk s chunk
      if s.stage.isSome then turn.written
      readTurns s turns

/-- The identity, the digest and the size of the source, with what is on the stage. -/
def readSource [Host] (file : SourceFile) (destination : Option (List Nat)) :
    Except CapabilityFailure (SourceIdentity × String × Nat × Option (List Nat)) := do
  let before ← file.before
  failIf (r.maxArtifactBytes < before.length) artifactTooLarge
  let s ← r.readTurns { stage := destination } file.turns
  let after ← file.after
  failIf (before ≠ after ∨ s.size ≠ before.length) sourceChanged
  file.path
  .ok (before, Host.sha256 s.hashed, s.size, s.stage)

end SourceReader

end Woml
