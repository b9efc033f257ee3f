import Woml.Remote.Coordinator

/-!
# The worker

A worker keeps a journal of the attempts it has accepted, and runs each of them in a script host of
its own. Several calls may be at work on one journal, each with a connection of its own, and any of
them may be gone at any time; so a call goes one access of the journal at a time, and what it read
may be old by the time it writes. `WorkerSystem.step` interleaves the calls. The checks of stored
rows against tampering are left out.
-/

namespace Woml

open Checked

inductive WorkerAttemptStateV1
  | accepted
  | started
  | succeeded
  | failed
  | cancelled
  | ambiguous
  deriving DecidableEq

def WorkerAttemptStateV1.isTerminal : WorkerAttemptStateV1 → Bool
  | succeeded | failed | cancelled => true
  | _ => false

inductive RemoteWorkerError
  | invalidPackage
  | expired
  | capabilityUnavailable
  | conflict
  | corruptJournal
  | draining
  | capacity
  | ambiguous
  | invalidResult
  | hostUnavailable
  | secretUnavailable
  | store
  deriving DecidableEq

/-- The end of an attempt; `ρ` is the type of the outcomes. -/
structure RemoteWorkerTerminalV1 (ρ : Type) where
  dispatchId : String
  invocationId : String
  state : WorkerAttemptStateV1
  outcome : ρ
  completedAt : DateTime
  terminalDigest : String
  deriving DecidableEq

/-- The canonical encoding of an end, as far as it is read: the digest, unless the encoding is too
long, and whether the journal has room for it. -/
structure TerminalCodec (ρ : Type) where
  digest : RemoteWorkerTerminalV1 ρ → Option String
  fits : RemoteWorkerTerminalV1 ρ → Bool

/-- `RemoteWorkerTerminalV1::new` -/
def TerminalCodec.terminal {ρ : Type} (codec : TerminalCodec ρ) (dispatchId invocationId : String)
    (state : WorkerAttemptStateV1) (outcome : ρ) (completedAt : DateTime) :
    Except RemoteWorkerError (RemoteWorkerTerminalV1 ρ) := do
  let terminal : RemoteWorkerTerminalV1 ρ :=
    { dispatchId, invocationId, state, outcome, completedAt, terminalDigest := "" }
  let terminalDigest ← orFail (codec.digest terminal) .invalidResult
  .ok { terminal with terminalDigest }

structure WorkerAttemptRecordV1 (ρ : Type) where
  dispatchId : String
  packageDigest : String
  workerId : String
  runId : String
  nodeId : String
  iterationIdentity : String
  attempt : Nat
  invocationId : String
  target : String
  authorityDigest : String
  state : WorkerAttemptStateV1
  terminal : Option (RemoteWorkerTerminalV1 ρ)

/-- A dispatch that is prepared for this worker, with what the worker may use of it. -/
structure PreparedRemoteDispatchV1 where
  package : RemoteDispatchPackageV1
  /-- `script_source` of the node. -/
  source : Option String
  timeoutMs : Option Nat
  maximumAttempts : Nat
  capabilities : List WorkerCapabilityV1
  secretNames : List String
  authorityDigest : String
  workerId : String

/-! ## The journal -/

/-- A line of the journal; its type is the state that was entered. -/
structure WorkerJournalRecordV1 where
  dispatchId : String
  sessionId : String
  recordType : WorkerAttemptStateV1

structure WorkerJournalV1 (ρ : Type) where
  dispatches : SortedMap String (WorkerAttemptRecordV1 ρ) := .empty
  records : List WorkerJournalRecordV1 := []

def workerJournalRecoveryLimit : Nat := 10000

namespace WorkerJournalV1

variable {ρ : Type} (j : WorkerJournalV1 ρ)

def load (dispatchId : String) : Option (WorkerAttemptRecordV1 ρ) := j.dispatches.get? dispatchId

def appendRecord (dispatchId sessionId : String) (recordType : WorkerAttemptStateV1) :
    WorkerJournalV1 ρ :=
  { j with records := j.records ++ [{ dispatchId, sessionId, recordType }] }

/-- `UPDATE … WHERE dispatch_id = ? AND state = ?` -/
def updateWhere (dispatchId : String) (state : WorkerAttemptStateV1)
    (change : WorkerAttemptRecordV1 ρ → WorkerAttemptRecordV1 ρ) : WorkerJournalV1 ρ :=
  match j.load dispatchId with
  | some row =>
    if row.state = state then { j with dispatches := j.dispatches.insert dispatchId (change row) }
    else j
  | none => j

/-- The first part of `accept`: the record that is there, if it is of this dispatch. -/
def acceptRead (prepared : PreparedRemoteDispatchV1) (workerId : String) :
    Except RemoteWorkerError (Option (WorkerAttemptRecordV1 ρ)) :=
  if prepared.workerId ≠ workerId then .error .conflict
  else
    match j.load prepared.package.dispatchId with
    | some existing =>
      if existing.packageDigest = prepared.package.packageDigest ∧ existing.workerId = workerId ∧
          existing.authorityDigest = prepared.authorityDigest then .ok (some existing)
      else .error .conflict
    | none => .ok none

/-- The transaction of `accept`. -/
def acceptCommit (prepared : PreparedRemoteDispatchV1) (workerId sessionId : String) :
    Except RemoteWorkerError (WorkerJournalV1 ρ) := do
  let package := prepared.package
  failIf (j.dispatches.contains package.dispatchId ∨
    j.dispatches.values.any fun row => row.invocationId = package.invocationId) .store
  .ok ({ j with
    dispatches := j.dispatches.insert package.dispatchId
      { dispatchId := package.dispatchId
        packageDigest := package.packageDigest
        workerId
        runId := package.runId
        nodeId := package.nodeId
        iterationIdentity := package.iterationKey.getD ""
        attempt := package.attempt
        invocationId := package.invocationId
        target := package.target
        authorityDigest := prepared.authorityDigest
        state := .accepted
        terminal := none } }.appendRecord package.dispatchId sessionId .accepted)

/-- The transaction of `start`. -/
def startCommit (dispatchId sessionId : String) : WorkerJournalV1 ρ :=
  (j.updateWhere dispatchId .accepted fun row => { row with state := .started }).appendRecord
    dispatchId sessionId .started

/-- The transaction of `terminal`. -/
def terminalCommit (dispatchId sessionId : String) (terminal : RemoteWorkerTerminalV1 ρ) :
    WorkerJournalV1 ρ :=
  (j.updateWhere dispatchId .started fun row =>
    { row with state := terminal.state, terminal := some terminal }).appendRecord dispatchId
      sessionId terminal.state

/-- The transaction of `recover` for one dispatch. -/
def recoverOne (dispatchId : String) : WorkerJournalV1 ρ :=
  (j.updateWhere dispatchId .started fun row => { row with state := .ambiguous }).appendRecord
    dispatchId "recovery" .ambiguous

/-- The dispatches that `recover` works on. -/
def startedIds : List String := (j.dispatches.values.filter (·.state = .started)).map (·.dispatchId)

/-- `recover`, up to the dispatch at which it is stopped. -/
def recover (stoppedAfter : Nat) : WorkerJournalV1 ρ :=
  if workerJournalRecoveryLimit <
      (j.dispatches.values.filter fun row => row.state = .accepted || row.state = .started).length then
    j
  else (j.startedIds.take stoppedAfter).foldl recoverOne j

def wasStartedBySession (dispatchId sessionId : String) : Bool :=
  (j.records.filter fun record => record.dispatchId = dispatchId && record.sessionId = sessionId &&
    record.recordType = .started).length = 1

end WorkerJournalV1

/-! ## Calls -/

inductive WorkerCallKind
  /-- `prepare_woml_remote_attempt`: only the acceptance. -/
  | prepare
  /-- `start_woml_remote_attempt`: only the start. -/
  | start
  /-- `execute` and `execute_with_cancellation`, or `execute_prestarted`. -/
  | execute (prestarted : Bool)
  deriving DecidableEq

/-- How far a call has come. -/
inductive WorkerPhase (ρ : Type)
  | called
  | admitted
  | inserting
  | inserted
  | accepted (record : WorkerAttemptRecordV1 ρ)
  | spawning
  | starting (cancelled : Bool)
  | committing (cancelled : Bool)
  | committed (cancelled : Bool)
  /-- The next thing is the execute frame. -/
  | cleared
  | running
  | reporting (terminal : RemoteWorkerTerminalV1 ρ)
  | recording (terminal : RemoteWorkerTerminalV1 ρ)
  | finished (result : Except RemoteWorkerError (Option (RemoteWorkerTerminalV1 ρ)))

structure WorkerCall (ρ : Type) where
  kind : WorkerCallKind
  prepared : PreparedRemoteDispatchV1
  workerId : String
  sessionId : String
  now : DateTime
  phase : WorkerPhase ρ := .called

def WorkerCall.dispatchId {ρ : Type} (call : WorkerCall ρ) : String :=
  call.prepared.package.dispatchId

/-- What a call finds outside the journal: its runtime, the secrets, the cancellation token and the
script host. -/
structure WorkerInput (ρ : Type) where
  hasCapabilityAuthority : Bool := true
  draining : Bool := false
  active : Nat := 0
  capacity : Nat := 1
  resolve : String → Except RemoteWorkerError String := fun _ => .ok ""
  cancelled : Bool := false
  hostStarts : Bool := true
  /-- What the host reports, unless it crashes or does not confirm a cancellation. -/
  completion : Option (WorkerAttemptStateV1 × ρ) := none
  cancelledOutcome : ρ
  completedAt : DateTime := 0

/-- The time the script has, in milliseconds. -/
def scriptTimeout (prepared : PreparedRemoteDispatchV1) (now : DateTime) : Nat :=
  min (prepared.timeoutMs.getD 30000) ((prepared.package.deadline - now) / 1000000).toNat

/-- The checks of `execute_with_cancellation_mode` that come after the answer to a repeated
call. -/
def preflight {ρ : Type} (call : WorkerCall ρ) (input : WorkerInput ρ) :
    Except RemoteWorkerError Unit := do
  failIf input.draining .draining
  failIf (input.capacity ≤ input.active) .capacity
  let _ ← call.prepared.secretNames.mapM input.resolve
  let _ ← orFail call.prepared.source .invalidPackage
  failIf (scriptTimeout call.prepared call.now = 0) .expired

/-- `ScriptAttempt::new` -/
def validAttempt (prepared : PreparedRemoteDispatchV1) : Bool :=
  prepared.package.attempt ≠ 0 && prepared.maximumAttempts ≠ 0 &&
    prepared.maximumAttempts ≤ 10 && prepared.package.attempt ≤ prepared.maximumAttempts &&
    isDefinitionHash prepared.package.packageDigest

namespace WorkerCall

variable {ρ : Type} [DecidableEq ρ] (codec : TerminalCodec ρ) (call : WorkerCall ρ)
  (j : WorkerJournalV1 ρ) (input : WorkerInput ρ)

/-- The call goes on with a phase. -/
def goto (phase : WorkerPhase ρ) : WorkerCall ρ := { call with phase }

def fail (error : RemoteWorkerError) : WorkerCall ρ := call.goto (.finished (.error error))

/-- The call up to its acceptance. -/
def enter : WorkerCall ρ :=
  match call.kind with
  | .prepare => call.goto .admitted
  | .start => call.goto (.starting false)
  | .execute _ =>
    if call.prepared.workerId ≠ call.workerId then call.fail .conflict
    else if !input.hasCapabilityAuthority ∧
        call.prepared.capabilities.any (·.id ≠ "runtime.script") then
      call.fail .capabilityUnavailable
    else
      match (j.load call.dispatchId).bind (·.terminal) with
      | some terminal => call.goto (.finished (.ok (some terminal)))
      | none =>
        match preflight call input with
        | .error error => call.fail error
        | .ok () => call.goto .admitted

/-- What the call makes of the record it was accepted with. -/
def judge (record : WorkerAttemptRecordV1 ρ) : WorkerCall ρ :=
  match record.terminal with
  | some terminal => call.goto (.finished (.ok (some terminal)))
  | none =>
    match call.kind with
    | .prepare =>
      if record.state ≠ .accepted then call.fail .ambiguous else call.goto (.finished (.ok none))
    | .start => call.fail .conflict
    | .execute prestarted =>
      if record.state = .ambiguous then call.fail .ambiguous
      else if prestarted ∧ (record.state ≠ .started ∨
          !j.wasStartedBySession call.dispatchId call.sessionId) then call.fail .ambiguous
      else if !prestarted ∧ record.state = .started then call.fail .ambiguous
      else if input.cancelled then call.goto (.starting true)
      else call.goto .spawning

/-- The host is up; a call that is not prestarted has its start to journal. -/
def spawn : WorkerCall ρ :=
  if !input.hostStarts then call.fail .hostUnavailable
  else if !validAttempt call.prepared then call.fail .invalidPackage
  else if call.kind = .execute true then call.goto .cleared
  else call.goto (.starting false)

/-- The start is journalled, or was before. -/
def afterStart (cancelled : Bool) : WorkerCall ρ :=
  if call.kind = .start then
    if (j.load call.dispatchId).any (·.state = .started) ∧
        j.wasStartedBySession call.dispatchId call.sessionId then call.goto (.finished (.ok none))
    else call.fail .ambiguous
  else if cancelled then
    match codec.terminal call.dispatchId call.prepared.package.invocationId .cancelled
      input.cancelledOutcome input.completedAt with
    | .error error => call.fail error
    | .ok terminal => call.goto (.reporting terminal)
  else call.goto .cleared

/-- The first part of `start`. -/
def startRead (cancelled : Bool) : WorkerCall ρ :=
  match j.load call.dispatchId with
  | none => call.fail .conflict
  | some record =>
    if record.state = .accepted then call.goto (.committing cancelled)
    else if record.state = .started then call.afterStart codec j input cancelled
    else call.fail .conflict

/-- What the host reported becomes the end of the attempt. -/
def complete : WorkerCall ρ :=
  match input.completion with
  | none => call.fail .ambiguous
  | some (state, outcome) =>
    match codec.terminal call.dispatchId call.prepared.package.invocationId state outcome
      input.completedAt with
    | .error error => call.fail error
    | .ok terminal => call.goto (.reporting terminal)

/-- The first part of `terminal`. -/
def terminalRead (terminal : RemoteWorkerTerminalV1 ρ) : WorkerCall ρ :=
  match j.load call.dispatchId with
  | none => call.fail .conflict
  | some record =>
    match record.terminal with
    | some existing =>
      if existing = terminal then call.goto (.finished (.ok (some terminal)))
      else call.fail .conflict
    | none =>
      if record.state ≠ .started ∨ !terminal.state.isTerminal ∨
          terminal.dispatchId ≠ record.dispatchId ∨ terminal.invocationId ≠ record.invocationId then
        call.fail .conflict
      else if !codec.fits terminal then call.fail .invalidResult
      else call.goto (.recording terminal)

/-- One step of a call: what becomes of it and of the journal, and whether it sends the execute
frame. -/
def advance : WorkerCall ρ × WorkerJournalV1 ρ × Bool :=
  match call.phase with
  | .called => (call.enter j input, j, false)
  | .admitted =>
    match j.acceptRead call.prepared call.workerId with
    | .error error => (call.fail error, j, false)
    | .ok (some record) => (call.goto (.accepted record), j, false)
    | .ok none => (call.goto .inserting, j, false)
  | .inserting =>
    match j.acceptCommit call.prepared call.workerId call.sessionId with
    | .error error => (call.fail error, j, false)
    | .ok next => (call.goto .inserted, next, false)
  | .inserted =>
    match j.load call.dispatchId with
    | none => (call.fail .corruptJournal, j, false)
    | some record => (call.goto (.accepted record), j, false)
  | .accepted record => (call.judge j input record, j, false)
  | .spawning => (call.spawn input, j, false)
  | .starting cancelled => (call.startRead codec j input cancelled, j, false)
  | .committing cancelled =>
    (call.goto (.committed cancelled), j.startCommit call.dispatchId call.sessionId, false)
  | .committed cancelled =>
    match j.load call.dispatchId with
    | none => (call.fail .corruptJournal, j, false)
    | some _ => (call.afterStart codec j input cancelled, j, false)
  | .cleared => (call.goto .running, j, true)
  | .running => (call.complete codec input, j, false)
  | .reporting terminal => (call.terminalRead codec j terminal, j, false)
  | .recording terminal =>
    (call.goto (.finished (.ok (some terminal))),
      j.terminalCommit call.dispatchId call.sessionId terminal, false)
  | .finished _ => (call, j, false)

omit [DecidableEq ρ] in
/-- The step after which nothing keeps the call from its execute frame: it journals its start, or
goes past it. -/
def entitles (next : WorkerCall ρ) : Bool :=
  match call.phase, next.phase with
  | .committing false, _ => call.kind ≠ .start
  | .committed _, _ => false
  | _, .cleared => true
  | _, _ => false

end WorkerCall

/-! ## The worker and its calls -/

structure WorkerSystem (ρ : Type) where
  journal : WorkerJournalV1 ρ := {}
  calls : List (WorkerCall ρ) := []
  /-- The dispatches for which an execute frame was sent. -/
  frames : List String := []
  /-- The dispatches that a call was free to run, from its start or from its host on. -/
  entitled : List String := []

inductive WorkerAction (ρ : Type)
  | call (call : WorkerCall ρ)
  | advance (index : Nat) (input : WorkerInput ρ)
  /-- The process of a call is gone, or its future is dropped. -/
  | drop (index : Nat)
  /-- The journal is opened again after a restart. -/
  | recover (stoppedAfter : Nat)

namespace WorkerSystem

variable {ρ : Type} [DecidableEq ρ] (codec : TerminalCodec ρ) (s : WorkerSystem ρ)

def step : WorkerAction ρ → WorkerSystem ρ
  | .call call => { s with calls := s.calls ++ [call.goto .called] }
  | .advance index input =>
    match s.calls[index]? with
    | none => s
    | some call =>
      let (next, journal, sent) := call.advance codec s.journal input
      { journal
        calls := s.calls.set index next
        frames := if sent then s.frames ++ [call.dispatchId] else s.frames
        entitled := if call.entitles next then s.entitled ++ [call.dispatchId] else s.entitled }
  | .drop index => { s with calls := s.calls.eraseIdx index }
  | .recover stoppedAfter => { s with journal := s.journal.recover stoppedAfter }

def run (actions : List (WorkerAction ρ)) : WorkerSystem ρ := actions.foldl (step codec) s

end WorkerSystem

end Woml
