import Woml.Store.Tables

/-!
# Scheduler claims

A scheduler owner may execute a run of a policy workflow while it holds a claim on the run. A claim
is granted within the concurrency and the rate limit of the workflow, to the first eligible run of
a queue, and lasts until it is released or its lease runs out. While a run waits, its claim can be
suspended: it stays, under a label that no count includes, until it is resumed.
-/

namespace Woml

open Checked

/-- `SUSPENDED_POLICY_WORKFLOW_ID`: the label of a suspended claim. -/
def suspendedPolicyWorkflowId : String := "__woml_policy_wait__"

inductive PolicyRateEligibility
  | eligible
  | waiting (eligibleAt : DateTime)
  deriving DecidableEq

inductive PolicyClaimWaitReason
  | concurrency
  | rateLimit
  deriving DecidableEq

/-- A claim as it is handed out, with the workflow of the run. -/
structure SchedulerClaimV1 where
  runId : String
  workflowId : String
  ownerId : String
  claimId : String
  claimedAt : DateTime
  expiresAt : DateTime
  deriving DecidableEq

inductive PolicyExecutionClaimResult
  | claimed (claim : SchedulerClaimV1) (firstStart : Bool)
  | waiting (runId workflowId queue : String) (reason : PolicyClaimWaitReason)
      (eligibleAt : Option DateTime)
  deriving DecidableEq

/-- A duration of the standard library that is beyond the clock's range. -/
def outOfClockRange (nanoseconds : Nat) : Bool := (2 ^ 63 - 1) * 1000000 < nanoseconds

/-- Work of which it is not known whether it took place: its owner is gone. -/
def RunProjection.hasAmbiguousWork (p : RunProjection) : Bool :=
  p.attempts.any (·.status.isStarted) ||
    p.operations.values.any (·.status.isStarted) ||
    p.lifecycleHooks.values.any (fun hook => hook.actions.values.any (·.status = .started)) ||
    p.forEach.values.any fun loop => loop.status = .open && loop.executions.values.any fun e =>
      e.attempts.any (·.status.isStarted) ||
        e.operations.values.any (·.status.isStarted) ||
        e.lifecycleHooks.values.any (fun hook =>
          hook.status = .requested || hook.status = .running) ||
        e.reusableLifecycleHooks.values.any fun hook =>
          hook.status = .requested || hook.status = .running

/-! ## Places in a queue -/

/-- The place of a run in its queue: the time of admission, then the sequence number of the
occurrence, then the identifier of the run. -/
structure QueuePlace where
  admittedAt : DateTime
  occurrenceSequence : Nat
  runId : String

def QueuePlace.Before (a b : QueuePlace) : Prop :=
  a.admittedAt < b.admittedAt ∨
    a.admittedAt = b.admittedAt ∧ a.occurrenceSequence < b.occurrenceSequence ∨
    a.admittedAt = b.admittedAt ∧ a.occurrenceSequence = b.occurrenceSequence ∧ a.runId < b.runId

instance (a b : QueuePlace) : Decidable (a.Before b) :=
  inferInstanceAs (Decidable (_ ∨ _))

def QueuedRun.place (row : QueuedRun) (runId : String) : QueuePlace :=
  ⟨row.admittedAt, row.occurrenceSequence, runId⟩

namespace Store

variable (s : Store)

/-! ## Capacity -/

def workflowHasPolicyCapacity (workflowId : String) : Option Nat → Bool
  | none => true
  | some limit => s.claims.values.countP (·.workflowId = workflowId) < limit

/-- Starts after `now` count as well, so that a clock that goes back grants no capacity. -/
def workflowRateEligibility (workflowId : String) (rateLimit : Option CompiledRateLimitPolicy)
    (now : DateTime) : Except DurableStoreError PolicyRateEligibility :=
  match rateLimit with
  | none => .ok .eligible
  | some limit => do
    failIf (2 ^ 63 ≤ limit.windowMs)
      (.contract "Rate-limit window exceeds the runtime clock range.")
    let window : Int := limit.windowMs * 1000000
    let starts := s.policyStarts.values.filter fun start =>
      start.workflowId = workflowId && now - window < start.startedAt
    let active := (starts.map (·.startedAt)).insertionSort (· ≤ ·)
    if active.length < limit.count then .ok .eligible
    else
      let earliest ← orFail active[active.length - limit.count]? .outOfBounds
      .ok (.waiting (earliest + window))

/-- A queued run can start now: the test of `earlier_eligible_policy_run_exists` on one row. -/
def rowIsEligible (now : DateTime) (runId : String) (row : QueuedRun) :
    Except DurableStoreError Bool := do
  let binding ← orFail (s.policyBindings.get? runId) (.runNotFound runId)
  let w ← orFail (s.definitions.get? binding.definitionHash)
    (.definitionNotFound binding.definitionHash)
  let policy ← orFail w.runtimePolicy
    (.contract "Queued policy run has no Model v12 runtime policy.")
  if s.workflowHasPolicyCapacity row.workflowId policy.concurrency then
    let rate ← s.workflowRateEligibility row.workflowId policy.rateLimit now
    .ok (rate = .eligible)
  else .ok false

/-- The rows before a place of a queue, in the order of the queue. -/
def earlierInQueue (queue : String) (place : QueuePlace) : List (String × QueuedRun) :=
  (s.policyQueue.entries.filter fun (runId, row) =>
      row.queueName = queue && runId ≠ place.runId && (row.place runId).Before place).insertionSort
    fun a b => ¬(b.2.place b.1).Before (a.2.place a.1)

def earlierEligiblePolicyRunExists (queue : String) (place : QueuePlace) (now : DateTime) :
    Except DurableStoreError Bool := do
  failIf (2 ^ 63 ≤ place.occurrenceSequence)
    (.contract "occurrenceSequence exceeds SQLite integer range")
  (s.earlierInQueue queue place).anyM fun (runId, row) => s.rowIsEligible now runId row

/-! ## Claims -/

/-- The sweep that comes before every decision on claims. -/
def deleteExpiredClaims (now : DateTime) : Store :=
  { s with claims := s.claims.filter fun _ claim => now < claim.expiresAt }

/-- Its workflow has no free slot, or a run before it in the queue can start. -/
def mustWaitForCapacity (runId queue : String) (workflowId : String)
    (policy : CompiledRuntimePolicy) (p : RunProjection) (now : DateTime) :
    Except DurableStoreError Bool :=
  if !s.workflowHasPolicyCapacity workflowId policy.concurrency then .ok true
  else if p.status = .queued then do
    let admittedAt ← orFail p.admittedAt (.contract "Queued policy run has no admittedAt.")
    s.earlierEligiblePolicyRunExists queue ⟨admittedAt, p.occurrenceSequence.getD 0, runId⟩ now
  else .ok false

end Store

/-- The arguments of `try_claim_policy_run_at`, with the identifiers the store generates. -/
structure PolicyClaimRequest where
  runId : String
  ownerId : String
  leaseNow : DateTime
  policyNow : DateTime
  leaseDuration : Nat
  claimId : String
  eventId : Nat → String

namespace Store

variable (s : Store) [Host] [Inspection] (fuel : Nat) (clock : Nat → DateTime)

/-- The claim row and, for a run that never ran, the events of its start. -/
def grantPolicyClaim (request : PolicyClaimRequest) (run : StoredRun) (w : DefinitionRef)
    (policy : CompiledRuntimePolicy) (firstStart : Bool) : Except DurableStoreError Store := do
  failIf (s.claims.values.any (·.claimId = request.claimId)) .constraint
  let claimed := { s with
    claims := s.claims.insert request.runId
      { workflowId := run.workflowId
        ownerId := request.ownerId
        claimId := request.claimId
        claimedAt := request.leaseNow
        expiresAt := request.leaseNow + request.leaseDuration } }
  if firstStart then
    let timeoutAt := policy.timeoutMs.map fun timeoutMs =>
      DateTime.addMillis request.policyNow (min timeoutMs (2 ^ 63 - 1))
    let payloads := w.expandStart request.runId
      (.runExecutionStarted { startedAt := request.policyNow, timeoutAt })
    let started ← claimed.appendEvents request.runId (payloads.mapIdx fun index payload =>
      { eventId := request.eventId index, occurredAt := request.policyNow, payload })
    let run ← started.runBinding request.runId
    (validateEventHistoryAgainstDefinition fuel clock w run.definitionHash run.events).mapError
      .history
    .ok started
  else .ok claimed

/-- A run without a claim, on the store after the sweep. -/
def claimFreeRun (request : PolicyClaimRequest) (run : StoredRun) (w : DefinitionRef)
    (policy : CompiledRuntimePolicy) (queue : String) (p : RunProjection) :
    Except DurableStoreError (PolicyExecutionClaimResult × Store) := do
  failIf p.hasAmbiguousWork (.schedulerRecoveryRequired request.runId)
  let firstStart := p.startedAt.isNone && p.status = .queued
  let rate ← (
    if firstStart then
      s.workflowRateEligibility run.workflowId policy.rateLimit request.policyNow
    else .ok .eligible)
  match rate with
  | .waiting eligibleAt =>
    .ok (.waiting request.runId run.workflowId queue .rateLimit (some eligibleAt), s)
  | .eligible => do
    let waits ← s.mustWaitForCapacity request.runId queue run.workflowId policy p request.policyNow
    if waits then
      .ok (.waiting request.runId run.workflowId queue .concurrency none, s)
    else do
      let granted ← s.grantPolicyClaim fuel clock request run w policy firstStart
      .ok (.claimed
        { runId := request.runId
          workflowId := run.workflowId
          ownerId := request.ownerId
          claimId := request.claimId
          claimedAt := request.leaseNow
          expiresAt := request.leaseNow + request.leaseDuration } firstStart, granted)

/-- The statuses in which a run cannot acquire a claim. -/
def notExecutable : RunStatus → Bool
  | .notStarted | .waiting | .succeeded | .failed | .cancelled => true
  | _ => false

/-- `try_claim_policy_run_at`. A run with a live claim is answered without committing, so the
sweep is undone with the rest. -/
def tryClaimPolicyRunAt (request : PolicyClaimRequest) :
    Except DurableStoreError (PolicyExecutionClaimResult × Store) := do
  failIf (request.ownerId = "" ∨ 320 < request.ownerId.utf8ByteSize ∨ request.leaseDuration = 0)
    (.contract "A scheduler claim requires a valid owner and positive lease.")
  failIf (outOfClockRange request.leaseDuration)
    (.contract "Scheduler lease duration is out of range.")
  let swept := s.deleteExpiredClaims request.leaseNow
  let run ← swept.runBinding request.runId
  let w ← swept.definitionForRun request.runId
  let policy ← orFail w.runtimePolicy
    (.contract "Scheduler claims require compiled Model v12.")
  let queue ← orFail w.runtimePolicyQueueName
    (.contract "Model v12 has no runtime policy queue.")
  let state ← (checkEventHistoryAgainstDefinition fuel clock w run.definitionHash
    run.events).mapError .history
  failIf (notExecutable state.projection.status)
    (.contract "Only an executable Event v11 policy run may acquire a scheduler claim.")
  match swept.claims.get? request.runId with
  | some existing =>
    if existing.ownerId ≠ request.ownerId then
      .ok (.waiting request.runId run.workflowId queue .concurrency none, s)
    else
      .ok (.claimed
        { runId := request.runId
          workflowId := run.workflowId
          ownerId := existing.ownerId
          claimId := existing.claimId
          claimedAt := existing.claimedAt
          expiresAt := existing.expiresAt } false, s)
  | none => swept.claimFreeRun fuel clock request run w policy queue state.projection

/-! ## The life of a claim -/

/-- The row of a run if it is the claim that an owner presents. -/
def presentedClaim (runId ownerId claimId : String) : Option SchedulerClaim :=
  (s.claims.get? runId).filter fun claim => claim.ownerId = ownerId && claim.claimId = claimId

def renewPolicyClaim (runId ownerId claimId : String) (now : DateTime) (leaseDuration : Nat) :
    Except DurableStoreError (SchedulerClaimV1 × Store) := do
  failIf (outOfClockRange leaseDuration) (.contract "Scheduler lease duration is out of range.")
  let claim ← orFail ((s.presentedClaim runId ownerId claimId).filter (now < ·.expiresAt))
    (.schedulerClaimConflict runId)
  let run ← s.runBinding runId
  let expiresAt := now + leaseDuration
  .ok ({ runId, workflowId := run.workflowId, ownerId, claimId, claimedAt := now, expiresAt },
    { s with claims := s.claims.insert runId { claim with claimedAt := now, expiresAt } })

def suspendPolicyClaim (runId ownerId claimId : String) : Bool × Store :=
  match s.presentedClaim runId ownerId claimId with
  | none => (false, s)
  | some claim => (true, { s with
      claims := s.claims.insert runId { claim with workflowId := suspendedPolicyWorkflowId } })

def resumePolicyClaim (runId ownerId claimId : String) (now : DateTime) :
    Except DurableStoreError (Bool × Store) := do
  let s := s.deleteExpiredClaims now
  let run ← s.runBinding runId
  let w ← s.definitionForRun runId
  let policy ← orFail w.runtimePolicy
    (.contract "Policy resume requires compiled Model v12.")
  let claim ← orFail ((s.presentedClaim runId ownerId claimId).filter fun claim =>
      claim.workflowId = suspendedPolicyWorkflowId && now < claim.expiresAt)
    (.schedulerClaimConflict runId)
  if !s.workflowHasPolicyCapacity run.workflowId policy.concurrency then .ok (false, s)
  else
    .ok (true, { s with
      claims := s.claims.insert runId { claim with workflowId := run.workflowId } })

def releasePolicyClaim (runId ownerId claimId : String) : Bool × Store :=
  match s.presentedClaim runId ownerId claimId with
  | none => (false, s)
  | some _ => (true, { s with claims := s.claims.erase runId })

end Store

end Woml
