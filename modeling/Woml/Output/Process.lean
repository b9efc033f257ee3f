import Woml.Output.Store

/-!
# The output of a process

The output of a process goes to the store piece by piece, in the order in which the two pipes take
the lock of the stream. The stream has a budget of its own beside those of the store. What it writes
to an artifact is left out: a failure there is ignored.
-/

namespace Woml

open Checked

def OperationalOutputStore.append [OutputHost] (s : OperationalOutputStore)
    (limits : OperationalOutputLimitsV1) (draft : OperationalRecordDraftV1) (now : DateTime) :
    Except OperationalOutputError (OperationalOutputStore × OperationalRecordV1) := do
  let (s, outcome, _) ← s.appendBounded limits draft now
  let record ← orFail outcome.record
    (.invalidRecord "the operational output lane is already truncated")
  .ok (s, record)

/-- A piece of output as `append_process_text` cuts it. -/
structure OutputPiece where
  source : OperationalSourceV1
  text : String
  now : DateTime
  nonempty : text.utf8ByteSize ≠ 0
  fits : text.utf8ByteSize ≤ maxOperationalChunkBytes

structure ProcessStreamState where
  startSequence : Option Nat := none
  endSequence : Option Nat := none
  truncated : Bool := false
  retainedBytes : Nat := 0

structure ActiveProcessStream where
  identity : OperationalIdentityV1
  limits : OperationalOutputLimitsV1
  maxRetainedBytes : Nat

def outputAuthorityFailure (ambiguous : Bool) : CapabilityFailure :=
  { kind := .transportFailed, code := "WOML_PROCESS_OUTPUT_AUTHORITY_FAILED"
    message := "The operational-output authority could not accept streamed process output."
    retryable := false, ambiguous, details := none }

/-- The state after a record was written. -/
def ProcessStreamState.wrote (state : ProcessStreamState) (record : OperationalRecordV1) :
    ProcessStreamState :=
  { state with
    startSequence := state.startSequence.or (some record.sequence)
    endSequence := some record.sequence }

namespace ActiveProcessStream

variable [OutputHost] (stream : ActiveProcessStream)

def appendProcessOutput (at' : OperationalOutputStore × ProcessStreamState) (piece : OutputPiece) :
    Except CapabilityFailure (OperationalOutputStore × ProcessStreamState) :=
  let (store, state) := at'
  let byteCount := piece.text.utf8ByteSize
  if state.truncated then .ok (store, state)
  else if stream.maxRetainedBytes < state.retainedBytes + byteCount then do
    let (store, record) ← (store.append stream.limits
      ⟨stream.identity, .truncated piece.source byteCount "inline_run_budget"⟩ piece.now).mapError
        fun _ => outputAuthorityFailure true
    .ok (store, { state.wrote record with truncated := true })
  else do
    let (store, record) ← (store.append stream.limits
      ⟨stream.identity, .output piece.source none piece.text byteCount⟩ piece.now).mapError
        fun _ => outputAuthorityFailure true
    .ok (store, { state.wrote record with retainedBytes := state.retainedBytes + byteCount })

/-- The whole output of a process. -/
def forward (store : OperationalOutputStore) (pieces : List OutputPiece) :
    Except CapabilityFailure (OperationalOutputStore × ProcessStreamState) :=
  pieces.foldlM stream.appendProcessOutput (store, {})

end ActiveProcessStream

end Woml
