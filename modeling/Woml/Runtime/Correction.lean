import Woml.Engine.History

/-!
# The correction of a saga

`executeSagaCorrection` runs the compensations of a saga in reverse order of completion and then
its cleanup, and records the completion unless an action needs manual recovery. Every event goes
through the store, which checks the whole candidate history against the definition: `LiveRun` is a
run whose history passed that check.

What the runtime asks of its surroundings (event identifiers, the clock, the script host, the
operator's external resolutions, configuration) is a parameter. The sleeps before a retry change
nothing that is modelled.
-/

namespace Woml

open Checked

inductive RuntimeExecutionError
  | stalled (message : String)
  | invalidConfiguration (message : String)
  | store (error : EngineError)
  /-- The indexes of the store refuse the append. -/
  | limit

inductive CorrectiveActionOutcome
  | succeeded
  | failed
  | manualRecovery
  deriving DecidableEq

/-- How an invocation of the script host ends: `lost` when the host did not answer. -/
inductive HostReply
  | success
  | failure (failure : AttemptFailure)
  | lost

/-- The outside of a run. What depends on the moment is indexed by the length of the history. -/
structure Surroundings where
  eventId : Nat → String
  now : Nat → DateTime
  /-- The clock of the execution options, which need not be the one that stamps events. -/
  clockNow : Nat → DateTime
  /-- `correction_action_externally_resolved`, for a saga and an action. -/
  resolved : String → String → Bool
  /-- `ensure_local_script_execution` -/
  placed : CompiledCorrectiveAction → Except RuntimeExecutionError Unit
  /-- The action has a script source and its secrets resolve. -/
  prepared : CompiledCorrectiveAction → Except RuntimeExecutionError Unit
  /-- `acquire_script_host` -/
  connects : Nat → Bool
  reply : String → String → Nat → Except RuntimeExecutionError HostReply
  /-- The indexes take the events of the candidate history. -/
  indexed : List RunEvent → Bool

def AttemptFailureKind.leavesOutcomeOpen : AttemptFailureKind → Bool
  | scriptTimedOut | workerCrashed | hostCrashed | invocationCancelled | interrupted => true
  | _ => false

def AttemptFailure.isAmbiguous (failure : AttemptFailure) : Bool :=
  failure.ambiguous.getD false || failure.kind.leavesOutcomeOpen

def AttemptFailure.isRetryable (failure : AttemptFailure) : Bool :=
  !failure.isAmbiguous && (failure.retryable.getD false || failure.kind = .scriptThrew)

/-- `correction_iteration_identity`: the loop and the index of a runtime identifier. -/
def CompiledCorrectiveAction.iterationIdentity (action : CompiledCorrectiveAction)
    (runtimeActionId : String) : Option (String × Nat) :=
  match action.identity with
  | .static _ => none
  | .forEachIteration forEachId template => do
    let (before, after) ← Text.splitOnce "\x7biterationKey\x7d" template
    let key ← (Text.stripPrefix before runtimeActionId).bind (Text.stripSuffix after)
    let index ← Text.parseUnsigned 32 key
    some (forEachId, index)

/-- `corrective_action_matches_runtime` -/
def CompiledCorrectiveAction.matchesRuntime (action : CompiledCorrectiveAction)
    (runtimeActionId : String) : Bool :=
  match action.identity with
  | .static actionId => actionId = runtimeActionId
  | .forEachIteration .. => (action.iterationIdentity runtimeActionId).isSome

section
variable [Host] (fuel : Nat) (clock : Nat → DateTime) (w : DefinitionRef) (hash : String)

/-- A run in the store: its history passed the check. -/
structure LiveRun where
  events : List RunEvent
  state : ProjectionFoldState
  accepted : checkEventHistoryAgainstDefinition fuel clock w hash events = .ok state

variable {fuel clock w hash}

namespace LiveRun

variable (run : LiveRun fuel clock w hash) (env : Surroundings)

def saga (sagaId : String) : Option SagaProjection := run.state.projection.sagas.get? sagaId

/-- The event that the store makes of a payload at a place behind the history. -/
def candidate (offset : Nat) (payload : RunEventPayload) : RunEvent :=
  let place := run.events.length + offset
  { eventSchemaVersion := runEventSchemaVersionForModel w.schemaVersion
    eventId := env.eventId place
    runId := run.state.projection.runId.getD ""
    sequence := run.state.projection.lastSequence + 1 + offset
    occurredAt := env.now place
    payload }

def candidates (payloads : List RunEventPayload) : List RunEvent :=
  payloads.mapIdx fun offset payload => run.candidate env offset payload

/-- `append_payloads`: all of the events or none. -/
def append (payloads : List RunEventPayload) :
    Except RuntimeExecutionError (LiveRun fuel clock w hash) :=
  let events := run.events ++ run.candidates env payloads
  match h : checkEventHistoryAgainstDefinition fuel clock w hash events with
  | .error error => .error (.store error)
  | .ok state => if env.indexed events then .ok ⟨events, state, h⟩ else .error .limit

end LiveRun

/-! ## One action -/

section
variable (env : Surroundings) (sagaId : String) (action : CompiledCorrectiveAction)
  (runtimeActionId : String) (kind : CorrectiveActionKind)

/-- The action is taken out of automatic hands: its attempt was cut off. -/
def interruptAction (run : LiveRun fuel clock w hash) (attempt : Nat) (code : String) :
    Except RuntimeExecutionError (LiveRun fuel clock w hash) :=
  run.append env [ .correctionInterrupted
      { sagaId, actionId := runtimeActionId, actionKind := kind, attempt, ambiguous := true },
    .manualRecoveryRequired ⟨sagaId, runtimeActionId, kind, code⟩]

/-- The attempt loop of `execute_corrective_action` with `remaining` attempts in the budget.
`connected`: a script host is at hand. -/
def runAttempts : (remaining attempt : Nat) → (connected : Bool) → LiveRun fuel clock w hash →
    Except RuntimeExecutionError
      (CorrectiveActionOutcome × Bool × LiveRun fuel clock w hash)
  | 0, _, connected, run => .ok (.failed, connected, run)
  | remaining + 1, attempt, connected, run => do
    let identity : CorrectionAttemptIdentityData := ⟨sagaId, runtimeActionId, kind, attempt⟩
    let run ← run.append env [.correctionAttemptStarted identity]
    if !connected && !env.connects run.events.length then
      let run ← interruptAction env sagaId runtimeActionId kind run attempt
        "WOML_CORRECTION_HOST_UNAVAILABLE"
      .ok (.manualRecovery, false, run)
    else
      match ← env.reply sagaId runtimeActionId attempt with
      | .success =>
        let run ← run.append env [.correctionAttemptSucceeded identity]
        .ok (.succeeded, true, run)
      | .lost =>
        let run ← interruptAction env sagaId runtimeActionId kind run attempt
          "WOML_CORRECTION_INTERRUPTED"
        .ok (.manualRecovery, false, run)
      | .failure failure =>
        let run ← run.append env [.correctionAttemptFailed
          { identity with
            code := failure.code
            retryable := failure.isRetryable
            ambiguous := failure.isAmbiguous }]
        if failure.isAmbiguous then
          let run ← run.append env [.manualRecoveryRequired
            ⟨sagaId, runtimeActionId, kind, "WOML_CORRECTION_OUTCOME_AMBIGUOUS"⟩]
          .ok (.manualRecovery, true, run)
        else if !failure.isRetryable || remaining = 0 then .ok (.failed, true, run)
        else
          let delay := (action.node.retryPolicy.bind (·.delayBeforeAttempt (attempt + 1))).getD 0
          let retryAt := DateTime.addMillis (env.clockNow run.events.length) (min delay (2 ^ 63 - 1))
          let run ← run.append env [.correctionRetryScheduled { identity with retryAt }]
          runAttempts remaining (attempt + 1) true run

/-- The attempts that the budget of an action still allows; a retry that an operator asked for
gets one beyond the compiled budget, up to ten. -/
def maxAttempts (projected : Option CorrectionActionProjection) : Nat :=
  let configured := (action.node.retryPolicy.map (·.maxAttempts)).getD 1
  projected.elim configured fun state =>
    if state.status = .retryScheduled then max configured (min (state.attempts + 1) 10)
    else configured

def executeCorrectiveAction (connected : Bool) (run : LiveRun fuel clock w hash) :
    Except RuntimeExecutionError
      (CorrectiveActionOutcome × Bool × LiveRun fuel clock w hash) := do
  env.placed action
  let projected := (run.saga sagaId).bind (·.actions.get? runtimeActionId)
  if projected.any (·.status = .succeeded) then .ok (.succeeded, connected, run)
  else if env.resolved sagaId runtimeActionId then .ok (.succeeded, connected, run)
  else if projected.any (·.status = .manualRecovery) then .ok (.manualRecovery, connected, run)
  else
    env.prepared action
    let attempt := projected.elim 1 (·.attempts + 1)
    runAttempts env sagaId action runtimeActionId kind
      (maxAttempts action projected + 1 - attempt) attempt connected run

end

/-! ## One saga -/

/-- What a correction carries from action to action. -/
structure Correction (fuel : Nat) (clock : Nat → DateTime) (w : DefinitionRef) (hash : String)
    where
  run : LiveRun fuel clock w hash
  connected : Bool := false
  allSucceeded : Bool := true
  manualRecovery : Bool := false

section
variable (env : Surroundings) (saga : CompiledSaga)

/-- One action with its outcome on record. -/
def Correction.execute (c : Correction fuel clock w hash) (action : CompiledCorrectiveAction)
    (runtimeActionId : String) (kind : CorrectiveActionKind) :
    Except RuntimeExecutionError (Correction fuel clock w hash) := do
  let (outcome, connected, run) ←
    executeCorrectiveAction env saga.sagaId action runtimeActionId kind c.connected c.run
  .ok
    { run
      connected
      allSucceeded := c.allSucceeded && outcome = .succeeded
      manualRecovery := c.manualRecovery || outcome = .manualRecovery }

/-- The compensations on record, the last completion first. -/
def SagaProjection.registeredCompensations (state : SagaProjection) : List (Nat × String) :=
  ((state.actions.values.filter (·.actionKind = .compensation)).filterMap fun action =>
      action.completionSequence.map ((·, action.actionId))).insertionSort
    fun left right => right.1 < left.1 ∨ (right.1 = left.1 ∧ right.2 ≤ left.2)

def Correction.compensate (c : Correction fuel clock w hash) :
    Except RuntimeExecutionError (Correction fuel clock w hash) := do
  let state ← orFail (c.run.saga saga.sagaId) (.stalled "saga correction state disappeared")
  state.registeredCompensations.foldlM (fun c (_, actionId) => do
    let action ← orFail (saga.compensations.find? (·.matchesRuntime actionId))
      (.stalled "registered compensation disappeared")
    c.execute env saga action actionId .compensation) c

def Correction.cleanUp (c : Correction fuel clock w hash) :
    Except RuntimeExecutionError (Correction fuel clock w hash) :=
  saga.cleanup.foldlM (fun c action => c.execute env saga action action.actionId .cleanup) c

/-- The correction, and whether every action succeeded. -/
def executeSagaCorrection (reason : SagaCorrectionReason) (run : LiveRun fuel clock w hash) :
    Except RuntimeExecutionError (Bool × LiveRun fuel clock w hash) := do
  let state ← orFail (run.saga saga.sagaId) (.stalled "saga correction has no open scope")
  let run ← (if state.phase.isCorrecting then .ok run
    else run.append env [.sagaCorrectionStarted ⟨saga.sagaId, reason⟩])
  let c : Correction fuel clock w hash := { run }
  let c ← (if reason ≠ .success then c.compensate env saga else .ok c)
  let c ← c.cleanUp env saga
  if c.manualRecovery then .ok (false, c.run)
  else
    let run ← c.run.append env [.sagaCorrectionCompleted ⟨saga.sagaId⟩]
    .ok (c.allSucceeded, run)

end

/-- The saga whose correction the run loop takes up first. -/
def LiveRun.activeCorrection (run : LiveRun fuel clock w hash) :
    Option (CompiledSaga × Option SagaCorrectionReason) :=
  w.graph.sagaList.findSome? fun saga =>
    (run.saga saga.sagaId).bind fun state =>
      if state.phase.isCorrecting then some (saga, state.reason) else none

/-- The correction as the run loop resumes it, for the reason on record. It stops the run while the
saga waits for an operator; when it returns, the run loop goes on to record the failure or the
cancellation of the run. -/
def LiveRun.driveCorrection (env : Surroundings) (run : LiveRun fuel clock w hash) :
    Except RuntimeExecutionError (LiveRun fuel clock w hash) :=
  match run.activeCorrection with
  | none => .ok run
  | some (saga, reason) => do
    let reason ← orFail reason (.stalled "active saga correction has no durable reason")
    let (completed, run) ← executeSagaCorrection env saga reason run
    failIf (!completed ∧ (run.saga saga.sagaId).any (·.phase = .manualRecovery))
      (.stalled s!"saga {Text.quote saga.sagaId} requires manual recovery")
    .ok run

end

end Woml
