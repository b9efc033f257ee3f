import Woml.Projection.Proof.Run

/-!
# The status of a run

How one event moves the status (`StatusStep`, `apply_statusStep`), and what follows over whole
histories. The settlement events of a lock (`lock_released`, `lock_acquire_timed_out`,
`lock_lease_lost`) set the status to running whatever it was, so a run that is being cancelled or
finalized can go back to running. `forward_iff` says that this is the only way back: a history
moves the status forward exactly when no such event, and no attempt inside an iteration, comes
after the cancellation or the outcome.
-/

namespace Woml

open Checked

/-! ## One step -/

variable {status : RunStatus}

namespace RunStatus

/-- Before cancellation and outcome. -/
def isOpen : RunStatus → Bool
  | notStarted | queued | running | waiting => true
  | _ => false

/-- The outcome is decided. -/
def isDecided : RunStatus → Bool
  | finalizing | succeeded | failed | cancelled => true
  | _ => false

theorem not_decided_of_open (h : status.isOpen = true) : status.isDecided = false := by
  cases status <;> first | rfl | cases h

theorem not_open_of_decided (h : status.isDecided = true) : status.isOpen = false := by
  cases status <;> first | rfl | cases h

theorem isDecided_iff :
    status.isDecided = true ↔ status = .finalizing ∨ status.isTerminal = true := by
  cases status <;> simp [isDecided, isTerminal]

end RunStatus

/-- The event settles a lock of the run, granted or not. -/
def settlesLock : RunEventPayload → Bool
  | .lockReleased _ | .lockAcquireTimedOut _ | .lockLeaseLost _ => true
  | _ => false

def requestsCancellation : RunEventPayload → Bool
  | .runCancellationRequested _ => true
  | _ => false

def decidesOutcome : RunEventPayload → Bool
  | .runOutcomeDecided _ => true
  | _ => false

def startsAttempt : RunEventPayload → Bool
  | .stepAttemptStarted _ => true
  | _ => false

/-- What an event, inside an iteration or not, does to the status, the outcome and the cancellation
of a run. -/
inductive StatusStep (inLoop : Bool) (payload : RunEventPayload) (p q : RunProjection) : Prop
  | kept (status : q.status = p.status)
      (outcome : q.businessOutcome = p.businessOutcome)
      (cancellation : q.cancellationRequestId = p.cancellationRequestId)
      (noRequest : requestsCancellation payload = false)
      (noDecision : decidesOutcome payload = false)
  | opened (before : p.status.isOpen = true) (after : q.status.isOpen = true)
      (outcome : q.businessOutcome = p.businessOutcome)
      (cancellation : q.cancellationRequestId = p.cancellationRequestId)
      (noRequest : requestsCancellation payload = false)
      (noDecision : decidesOutcome payload = false)
  | requested (before : p.status.isOpen = true) (after : q.status = .cancelling)
      (outcome : q.businessOutcome = p.businessOutcome)
      (cancellation : q.cancellationRequestId.isSome = true)
      (request : requestsCancellation payload = true)
  | decided (before : p.status.isDecided = false) (after : q.status.isDecided = true)
      (outcome : q.businessOutcome.isSome = true)
      (cancellation : q.cancellationRequestId = p.cancellationRequestId)
      (noRequest : requestsCancellation payload = false)
  | finalized (before : p.status = .finalizing) (after : q.status.isTerminal = true)
      (outcome : q.businessOutcome = p.businessOutcome)
      (cancellation : q.cancellationRequestId = p.cancellationRequestId)
      (noRequest : requestsCancellation payload = false)
      (noDecision : decidesOutcome payload = false)
  | lockSettled (topLevel : inLoop = false) (settles : settlesLock payload = true)
      (after : q.status = .running)
      (outcome : q.businessOutcome = p.businessOutcome)
      (cancellation : q.cancellationRequestId = p.cancellationRequestId)

theorem StatusStep.of_keeps {il : Bool} {py : RunEventPayload} {t : List Slice}
    {p q : RunProjection} (h : Keeps t p q) (hs : Slice.status ∉ t) (ho : Slice.outcome ∉ t)
    (hc : Slice.cancellation ∉ t) (nr : requestsCancellation py = false)
    (nd : decidesOutcome py = false) : StatusStep il py p q :=
  .kept (h .status hs) (Prod.mk.inj (h .outcome ho)).1 (h .cancellation hc)
    nr nd

theorem isOpen_of_eq {s k : RunStatus} (h : s = k)
    (ho : k.isOpen = true) : s.isOpen = true := h ▸ ho

section
variable {p q : RunProjection} {e : RunEvent}

theorem applyApprovalResolved_statusStep [Host] {data : ApprovalResolvedData}
    (h : applyApprovalResolved p e data = .ok q) :
    StatusStep false (.approvalResolved data) p q := by
  unfold applyApprovalResolved at h
  split at h
  · simp only [applyRichApprovalResolved, eq_ok_iff] at h
    obtain ⟨_, -, _, -, _, hg, _, -, rfl⟩ := h
    by_cases hc : data.reason = some .cancellation ∧ p.status = .cancelling
    · exact .kept (by simp [hc]) rfl rfl rfl rfl
    · have hw : p.status = .waiting := by
        by_contra hn
        exact hg (.inl ⟨hn, hc⟩)
      exact .opened (isOpen_of_eq hw rfl) (by simp [hc, RunStatus.isOpen]) rfl rfl
        rfl rfl
  · simp only [applyBasicApprovalResolved, eq_ok_iff, not_not] at h
    obtain ⟨_, hw, _, -, _, -, _, -, _, -, _, -, rfl⟩ := h
    exact .opened (isOpen_of_eq hw rfl) rfl rfl rfl rfl rfl

theorem applyRunCancellationRequested_statusStep {data : RunCancellationRequestedData}
    (h : applyRunCancellationRequested p data = .ok q) :
    StatusStep false (.runCancellationRequested data) p q := by
  simp only [applyRunCancellationRequested, eq_ok_iff] at h
  obtain ⟨_, hs, _, -, rfl⟩ := h
  refine .requested ?_ rfl rfl rfl rfl
  cases hp : p.status <;> simp_all [RunStatus.isOpen]

theorem applyRunOutcomeDecided_statusStep {data : RunOutcomeDecidedData}
    (h : applyRunOutcomeDecided p data = .ok q) :
    StatusStep false (.runOutcomeDecided data) p q := by
  simp only [applyRunOutcomeDecided, eq_ok_iff] at h
  obtain ⟨_, hs, _, -, h⟩ := h
  have hb : p.status.isDecided = false := by
    cases hp : p.status <;> simp_all [RunStatus.isDecided]
  cases data with
  | succeeded result =>
    simp only [eq_ok_iff] at h
    obtain ⟨_, -, _, rfl, rfl⟩ := h
    exact .decided hb rfl rfl rfl rfl
  | failed failure =>
    simp only [ok_bind, Except.ok.injEq] at h
    subst h
    exact .decided hb rfl rfl rfl rfl
  | cancelled requestId =>
    simp only [eq_ok_iff] at h
    obtain ⟨_, -, _, rfl, rfl⟩ := h
    exact .decided hb rfl rfl rfl rfl

theorem applyRunFinalized_statusStep {data : RunFinalizedData} (h : applyRunFinalized p data = .ok q) :
    StatusStep false (.runFinalized data) p q := by
  simp only [applyRunFinalized, eq_ok_iff, not_or, not_not] at h
  obtain ⟨_, ⟨hf, -⟩, rfl⟩ := h
  exact .finalized hf (by cases data.outcome <;> rfl) rfl rfl rfl rfl

theorem applyRunSucceeded_statusStep {data : RunSucceededData} (h : applyRunSucceeded p data = .ok q) :
    StatusStep false (.runSucceeded data) p q := by
  simp only [applyRunSucceeded, eq_ok_iff, requireRunning_eq_ok] at h
  obtain ⟨_, hr, _, -, _, -, _, -, rfl⟩ := h
  exact .decided (by rw [hr]; rfl) rfl rfl rfl rfl

theorem applyRunFailed_statusStep {data : RunFailedData} {ins : AttemptIndexes}
    (h : applyRunFailed p data ins = .ok q) :
    StatusStep false (.runFailed data) p q := by
  have hd : ∀ failure, p.status.isDecided = false → StatusStep false (.runFailed data) p { p with
        pendingRetries := .empty
        status := .failed
        businessOutcome := some .failed
        lifecycleStatus := .completed
        failure := some failure } := fun _ hb => .decided hb rfl rfl rfl rfl
  simp only [applyRunFailed] at h
  split at h
  · simp only [eq_ok_iff, not_not] at h
    obtain ⟨_, -, _, hw, failure, -, rfl⟩ := h
    exact hd failure (by rw [hw]; rfl)
  · simp only [eq_ok_iff, requireRunning_eq_ok] at h
    obtain ⟨_, -, _, hr, failure, -, rfl⟩ := h
    exact hd failure (by rw [hr]; rfl)

end

namespace ProjectionFoldState

section
variable [Host] {s s' : ProjectionFoldState} {event : RunEvent} {events : List RunEvent}

theorem applyPayload_statusStep {p q : RunProjection} {ins : AttemptIndexes} {pe : Option RunEvent}
    (h : applyPayload p event ins pe = .ok q) : StatusStep false event.payload p q := by
  have hk := applyPayload_keeps event ins pe q h
  unfold applyPayload at h
  cases hp : event.payload <;> rw [hp] at h hk
  case runCancellationRequested => exact applyRunCancellationRequested_statusStep h
  case runOutcomeDecided => exact applyRunOutcomeDecided_statusStep h
  case runFinalized => exact applyRunFinalized_statusStep h
  case runSucceeded => exact applyRunSucceeded_statusStep h
  case runFailed => exact applyRunFailed_statusStep h
  case approvalResolved => exact applyApprovalResolved_statusStep h
  -- a run that has not started, or is queued, running or waiting, stays open
  case runAdmitted | runStarted =>
    simp only [applyRunAdmitted, applyRunStarted, eq_ok_iff, not_or, not_not] at h
    obtain ⟨_, ⟨-, hf⟩, rfl⟩ := h
    exact .opened (isOpen_of_eq hf rfl) rfl rfl rfl rfl rfl
  case runExecutionStarted =>
    simp only [applyRunExecutionStarted, eq_ok_iff, not_or, not_not] at h
    obtain ⟨_, ⟨hq, -⟩, rfl⟩ := h
    exact .opened (isOpen_of_eq hq rfl) rfl rfl rfl rfl rfl
  case waitRegistered | lockWaitRegistered | approvalReviewRequested =>
    simp only [applyWaitRegistered, applyLockWaitRegistered, applyApprovalReviewRequested,
      eq_ok_iff, requireRunning_eq_ok] at h
    obtain ⟨_, hr, _, -, rfl⟩ := h
    exact .opened (isOpen_of_eq hr rfl) rfl rfl rfl rfl rfl
  case approvalRequested =>
    simp only [applyApprovalRequested, eq_ok_iff, requireRunning_eq_ok] at h
    obtain ⟨_, hr, _, -, _, -, rfl⟩ := h
    exact .opened (isOpen_of_eq hr rfl) rfl rfl rfl rfl rfl
  case waitSatisfied | waitTimedOut | lockAcquired =>
    simp only [applyWaitSatisfied, applyWaitTimedOut, applyLockAcquired, eq_ok_iff, not_not] at h
    obtain ⟨_, hw, _, -, _, -, rfl⟩ := h
    exact .opened (isOpen_of_eq hw rfl) rfl rfl rfl rfl rfl
  -- a settled lock makes the run running, whatever it was
  case lockReleased =>
    simp only [applyLockReleased, eq_ok_iff] at h
    obtain ⟨_, -, _, -, _, -, rfl⟩ := h
    exact .lockSettled rfl rfl rfl rfl rfl
  case lockAcquireTimedOut | lockLeaseLost =>
    simp only [applyLockAcquireTimedOut, applyLockLeaseLost, eq_ok_iff] at h
    obtain ⟨_, -, _, -, rfl⟩ := h
    exact .lockSettled rfl rfl rfl rfl rfl
  case waitCancelled | lockAcquisitionCancelled | approvalInvalidated =>
    simp only [applyWaitCancelled, applyLockAcquisitionCancelled, applyApprovalInvalidated,
      eq_ok_iff] at h
    obtain ⟨_, -, _, -, rfl⟩ := h
    exact .kept rfl rfl rfl rfl rfl
  -- the other handlers have none of the three slices in their footprint
  all_goals
    exact .of_keeps hk (by simp [footprint]) (by simp [footprint]) (by simp [footprint]) rfl rfl

omit [Host] in
theorem scoped_payload {p q : RunProjection} {pe : Option RunEvent}
    (h : applyIterationScopedEvent p event pe = .ok q) :
    requestsCancellation event.payload = false ∧ decidesOutcome event.payload = false := by
  simp only [applyIterationScopedEvent, eq_ok_iff] at h
  obtain ⟨_, -, sc, -, loop, -, _, -, execution, -, e', ha, -⟩ := h
  unfold ForEachIterationExecutionProjection.apply at ha
  cases hp : event.payload <;> rw [hp] at ha <;>
    first | exact ⟨rfl, rfl⟩ | cases ha

/-- **What an accepted event does to the status.** -/
theorem apply_statusStep (h : s.apply event = .ok s') :
    StatusStep (isIterationScoped event) event.payload s.projection s'.projection := by
  obtain ⟨-, p, hp, rfl⟩ := apply_eq_ok.1 h
  -- recording the sequence number changes nothing of this
  suffices hs : StatusStep (isIterationScoped event) event.payload s.projection p by
    cases hs with
    | kept h1 h2 h3 h4 h5 => exact .kept h1 h2 h3 h4 h5
    | opened h1 h2 h3 h4 h5 h6 => exact .opened h1 h2 h3 h4 h5 h6
    | requested h1 h2 h3 h4 h5 => exact .requested h1 h2 h3 h4 h5
    | decided h1 h2 h3 h4 h5 => exact .decided h1 h2 h3 h4 h5
    | finalized h1 h2 h3 h4 h5 h6 => exact .finalized h1 h2 h3 h4 h5 h6
    | lockSettled h1 h2 h3 h4 h5 => exact .lockSettled h1 h2 h3 h4 h5
  unfold handle at hp
  cases hsc : isIterationScoped event with
  | true =>
    rw [hsc] at hp
    obtain ⟨hr, hd⟩ := scoped_payload hp
    exact .of_keeps (applyIterationScopedEvent_keeps event s.previousEvent p hp) (by simp)
      (by simp) (by simp) hr hd
  | false =>
    rw [hsc] at hp
    exact applyPayload_statusStep hp

/-! ## Histories -/

/-- The history holds a cancellation request. -/
def cancelledIn (events : List RunEvent) : Bool :=
  events.any fun event => requestsCancellation event.payload

/-- The history decides the outcome. -/
def decidedIn (events : List RunEvent) : Bool :=
  events.any fun event => decidesOutcome event.payload

/-- What the fold remembers of a request and a decision. -/
structure Remembers (events : List RunEvent) (s : ProjectionFoldState) : Prop where
  requested : cancelledIn events = s.projection.cancellationRequestId.isSome
  cancelling : s.projection.status = .cancelling →
    s.projection.cancellationRequestId.isSome = true
  decided : decidedIn events = true → s.projection.businessOutcome.isSome = true

theorem remembers (h : fromEvents events = .ok s) : Remembers events s := by
  refine fromEvents_induction ⟨rfl, nofun, nofun⟩ ?_ h
  intro events s event s' _ hs ha
  have hre : cancelledIn (events ++ [event]) =
      (cancelledIn events || requestsCancellation event.payload) := by
    simp [cancelledIn]
  have hde : decidedIn (events ++ [event]) =
      (decidedIn events || decidesOutcome event.payload) := by
    simp [decidedIn]
  -- an event that keeps the outcome and the request keeps what is remembered
  have hk : s'.projection.businessOutcome = s.projection.businessOutcome →
      s'.projection.cancellationRequestId = s.projection.cancellationRequestId →
      requestsCancellation event.payload = false → decidesOutcome event.payload = false →
      (s'.projection.status = .cancelling → s.projection.status = .cancelling) →
      Remembers (events ++ [event]) s' := by
    intro ho hc hr hd hst
    refine ⟨by rw [hre, hr, Bool.or_false, hc, hs.requested], fun h => ?_, fun h => ?_⟩
    · rw [hc]
      exact hs.cancelling (hst h)
    · rw [hde, hd, Bool.or_false] at h
      rw [ho]
      exact hs.decided h
  cases apply_statusStep ha with
  | kept hst ho hc hr hd => exact hk ho hc hr hd fun h => hst ▸ h
  | opened _ after ho hc hr hd =>
    refine hk ho hc hr hd fun h => ?_
    rw [h] at after
    cases after
  | requested _ after ho hc hr =>
    have hd : decidesOutcome event.payload = false := by
      cases hp : event.payload <;> rw [hp] at hr <;> first | rfl | cases hr
    refine ⟨by rw [hre, hr, hc, Bool.or_true], fun _ => hc, fun h => ?_⟩
    rw [hde, hd, Bool.or_false] at h
    rw [ho]
    exact hs.decided h
  | decided _ after ho hc hr =>
    refine ⟨by rw [hre, hr, Bool.or_false, hc, hs.requested], fun h => ?_, fun _ => ho⟩
    rw [h] at after
    cases after
  | finalized _ after ho hc hr hd =>
    refine hk ho hc hr hd fun h => ?_
    rw [h] at after
    cases after
  | lockSettled _ hl after ho hc =>
    have hr : requestsCancellation event.payload = false := by
      cases hp : event.payload <;> rw [hp] at hl <;> first | rfl | cases hl
    have hd : decidesOutcome event.payload = false := by
      cases hp : event.payload <;> rw [hp] at hl <;> first | rfl | cases hl
    refine hk ho hc hr hd fun h => ?_
    rw [h] at after
    cases after

/-! ## Forward only -/

/-- The status of a history only moves forward. -/
structure Forward (events : List RunEvent) : Prop where
  /-- A requested cancellation is not forgotten. -/
  cancelled : ∀ n s, fromEvents (events.take n) = .ok s → cancelledIn (events.take n) = true →
    s.projection.status ≠ .queued ∧ s.projection.status ≠ .running ∧ s.projection.status ≠ .waiting
  /-- No attempt starts after it. -/
  noAttempt : ∀ n event, events[n]? = some event → startsAttempt event.payload = true →
    cancelledIn (events.take n) = false
  /-- A decided run is finalizing until it ends. -/
  decided : ∀ n s, fromEvents (events.take n) = .ok s → decidedIn (events.take n) = true →
    s.projection.status = .finalizing ∨ s.projection.status.isTerminal = true
  /-- The outcome is known exactly then. -/
  outcome : ∀ n s, fromEvents (events.take n) = .ok s →
    (s.projection.businessOutcome.isSome = true ↔
      s.projection.status = .finalizing ∨ s.projection.status.isTerminal = true)
  /-- Nothing follows the end. -/
  last : ∀ n s, fromEvents (events.take n) = .ok s → s.projection.status.isTerminal = true →
    events.length ≤ n

/-- An event that takes a cancelling or finalizing run back. -/
def takesBack (status : RunStatus) (event : RunEvent) : Bool :=
  if isIterationScoped event then startsAttempt event.payload && decide (status = .cancelling)
  else settlesLock event.payload && (status = .cancelling || status = .finalizing)

/-- No event of the history takes the run back. -/
def NeverBack (events : List RunEvent) : Prop :=
  ∀ n s event, fromEvents (events.take n) = .ok s → events[n]? = some event →
    takesBack s.projection.status event = false

omit [Host] in
theorem takesBack_cases (h : takesBack status event = true) :
    (isIterationScoped event = true ∧ startsAttempt event.payload = true ∧ status = .cancelling) ∨
      isIterationScoped event = false ∧ settlesLock event.payload = true ∧
        (status = .cancelling ∨ status = .finalizing) := by
  unfold takesBack at h
  split at h
  · rename_i hs
    simp only [Bool.and_eq_true, decide_eq_true_eq] at h
    exact .inl ⟨hs, h⟩
  · rename_i hs
    simp only [Bool.and_eq_true, Bool.or_eq_true, decide_eq_true_eq] at h
    exact .inr ⟨Bool.eq_false_iff.2 hs, h⟩

theorem apply_settlesLock (h : s.apply event = .ok s') (ht : isIterationScoped event = false)
    (hl : settlesLock event.payload = true) :
    s'.projection.status = .running ∧
      s'.projection.businessOutcome = s.projection.businessOutcome := by
  obtain ⟨p, hp, rfl⟩ := handler_of_top h ht
  rw [applyPayload] at hp
  cases hpa : event.payload <;> rw [hpa] at hl hp <;>
    first | (cases hl; done) | skip
  case lockReleased =>
    simp only [applyLockReleased, eq_ok_iff] at hp
    obtain ⟨_, -, _, -, _, -, rfl⟩ := hp
    exact ⟨rfl, rfl⟩
  case lockAcquireTimedOut =>
    simp only [applyLockAcquireTimedOut, eq_ok_iff] at hp
    obtain ⟨_, -, _, -, rfl⟩ := hp
    exact ⟨rfl, rfl⟩
  case lockLeaseLost =>
    simp only [applyLockLeaseLost, eq_ok_iff] at hp
    obtain ⟨_, -, _, -, rfl⟩ := hp
    exact ⟨rfl, rfl⟩

/-- An attempt starts in a running run, or in an iteration of a cancelling one. -/
theorem apply_startsAttempt (h : s.apply event = .ok s') (hs : startsAttempt event.payload = true) :
    s.projection.status = .running ∨
      isIterationScoped event = true ∧ s.projection.status = .cancelling := by
  obtain ⟨-, p, hp, rfl⟩ := apply_eq_ok.1 h
  unfold handle at hp
  cases hsc : isIterationScoped event with
  | true =>
    rw [hsc, if_pos rfl] at hp
    simp only [applyIterationScopedEvent, eq_ok_iff, requireRunningOrCancelling] at hp
    obtain ⟨_, hst, -⟩ := hp
    by_cases hr : s.projection.status = .running
    · exact .inl hr
    · exact .inr ⟨rfl, by simpa [hr] using hst⟩
  | false =>
    rw [hsc, if_neg Bool.false_ne_true] at hp
    unfold applyPayload at hp
    cases hpa : event.payload <;> rw [hpa] at hs hp <;>
      first | (cases hs; done) | skip
    simp only [applyStepAttemptStarted, bind_eq_ok, requireRunning_eq_ok] at hp
    obtain ⟨_, hr, -⟩ := hp
    exact .inl hr

/-- A run that was never taken back: the cancellation and the outcome show in its status. -/
structure Ordered (s : ProjectionFoldState) : Prop where
  cancelled : s.projection.cancellationRequestId.isSome = true →
    s.projection.status.isOpen = false
  outcome : s.projection.businessOutcome.isSome = true ↔ s.projection.status.isDecided = true

omit [Host] in
/-- An open run has neither, and stays without them while it is open. -/
theorem Ordered.stayOpen (hs : Ordered s) (b : s.projection.status.isOpen = true)
    (a : s'.projection.status.isOpen = true)
    (o : s'.projection.businessOutcome = s.projection.businessOutcome)
    (c : s'.projection.cancellationRequestId = s.projection.cancellationRequestId) :
    Ordered s' := by
  refine ⟨fun hso => ?_, ?_⟩
  · rw [c] at hso
    rw [hs.cancelled hso] at b
    cases b
  · rw [o, hs.outcome, RunStatus.not_decided_of_open b, RunStatus.not_decided_of_open a]

theorem Ordered.apply (hs : Ordered s) (hb : takesBack s.projection.status event = false)
    (h : s.apply event = .ok s') : Ordered s' := by
  have hop := (admitted_of_ok (apply_eq_ok.1 h).1).open_
  cases apply_statusStep h with
  | kept hst ho hc _ _ =>
    exact ⟨by rw [hst, hc]; exact hs.cancelled, by rw [hst, ho]; exact hs.outcome⟩
  | opened before after ho hc _ _ => exact hs.stayOpen before after ho hc
  | requested before after ho _ _ =>
    refine ⟨fun _ => by rw [after]; rfl, ?_⟩
    rw [ho, hs.outcome, RunStatus.not_decided_of_open before, after]
    exact Iff.rfl
  | decided _ after ho _ _ =>
    exact ⟨fun _ => RunStatus.not_open_of_decided after, by rw [ho, after]⟩
  | finalized before after ho _ _ _ =>
    have hd := RunStatus.isDecided_iff.2 (.inr after)
    refine ⟨fun _ => RunStatus.not_open_of_decided hd, ?_⟩
    rw [ho, hs.outcome, before, hd]
    exact Iff.rfl
  | lockSettled ht hl after ho hc =>
    -- not taken back: the run was running or waiting
    have before : s.projection.status.isOpen = true := by
      unfold takesBack at hb
      rw [ht, hl] at hb
      cases hp : s.projection.status <;> rw [hp] at hb hop <;>
        first | rfl | (cases hb; done) | cases hop
    exact hs.stayOpen before (by rw [after]; rfl) ho hc

theorem ordered (h : fromEvents events = .ok s) (hb : NeverBack events) : Ordered s := by
  revert hb
  refine fromEvents_induction (P := fun events s => NeverBack events → Ordered s) ?_ ?_ h
  · exact fun _ => ⟨nofun, by constructor <;> nofun⟩
  intro events s event s' hf ih ha hb
  have hl := hb events.length s event (by rw [List.take_left]; exact hf) (by simp)
  refine (ih fun n t e ht he => ?_).apply hl ha
  have hn := (List.getElem?_eq_some_iff.1 he).1
  refine hb n t e ?_ ?_
  · rw [List.take_append_of_le_length (by omega)]
    exact ht
  · rw [List.getElem?_append_left hn]
    exact he

/-- A history without a way back moves forward only. -/
theorem forward_of_neverBack (h : fromEvents events = .ok s) (hb : NeverBack events) :
    Forward events := by
  have hsh : ∀ n, NeverBack (events.take n) := by
    intro n m t e ht he
    rw [List.take_take] at ht
    rw [List.getElem?_take] at he
    split at he
    · rw [Nat.min_eq_left (by omega)] at ht
      exact hb m t e ht he
    · cases he
  have ho : ∀ n t, fromEvents (events.take n) = .ok t → Ordered t :=
    fun n t ht => ordered ht (hsh n)
  -- the event after an accepted prefix was accepted
  have hn : ∀ n t e, fromEvents (events.take n) = .ok t → events[n]? = some e →
      ∃ t', t.apply e = .ok t' := by
    intro n t e ht he
    obtain ⟨t', ht'⟩ := fromEvents_take h (n + 1)
    rw [fromEvents_take_succ he, ht] at ht'
    exact ⟨t', ht'⟩
  have hr : ∀ n t, fromEvents (events.take n) = .ok t →
      cancelledIn (events.take n) = true → t.projection.status.isOpen = false := by
    intro n t ht hc
    rw [(remembers ht).requested] at hc
    exact (ho n t ht).cancelled hc
  refine ⟨fun n t ht hc => ?_, fun n e he hs => ?_, fun n t ht hd => ?_, fun n t ht => ?_,
    fun n t ht hte => ?_⟩
  · have hcl := hr n t ht hc
    refine ⟨?_, ?_, ?_⟩ <;>
    · intro heq
      rw [heq] at hcl
      cases hcl
  · obtain ⟨t, ht⟩ := fromEvents_take h n
    obtain ⟨t', ha⟩ := hn n t e ht he
    by_contra hc
    have hcl := hr n t ht (by simpa using hc)
    have hst := hb n t e ht he
    rcases apply_startsAttempt ha hs with hru | ⟨hsc, hci⟩
    · rw [hru] at hcl
      cases hcl
    · rw [takesBack, hsc, hs, hci] at hst
      cases hst
  · exact RunStatus.isDecided_iff.1 ((ho n t ht).outcome.1 ((remembers ht).decided hd))
  · rw [(ho n t ht).outcome, RunStatus.isDecided_iff]
  · by_contra hl
    have he := List.getElem?_eq_getElem (show n < events.length by omega)
    obtain ⟨t', ha⟩ := hn n t _ ht he
    rw [(admitted_of_ok (apply_eq_ok.1 ha).1).open_] at hte
    cases hte

/-- **The status of an accepted history moves forward exactly when no event takes the run back.** -/
theorem forward_iff {events : List RunEvent} {s : ProjectionFoldState}
    (h : fromEvents events = .ok s) : Forward events ↔ NeverBack events := by
  refine ⟨fun hfw n t e ht he => ?_, forward_of_neverBack h⟩
  by_contra hb
  obtain ⟨t', ht'⟩ := fromEvents_take h (n + 1)
  have ha : t.apply e = .ok t' := by
    rw [fromEvents_take_succ he, ht] at ht'
    exact ht'
  have hca : t.projection.status = .cancelling → cancelledIn (events.take n) = true := by
    intro hc
    rw [(remembers ht).requested]
    exact (remembers ht).cancelling hc
  rcases takesBack_cases (by simpa using hb) with ⟨-, hss, hc⟩ | ⟨hto, hl, hst⟩
  · have := hfw.noAttempt n e he hss
    rw [hca hc] at this
    cases this
  · obtain ⟨hr, ho⟩ := apply_settlesLock ha hto hl
    rcases hst with hc | hf
    · have hla : cancelledIn (events.take (n + 1)) = true := by
        rw [List.take_add_one, cancelledIn, List.any_append, Bool.or_eq_true]
        exact .inl (hca hc)
      exact (hfw.cancelled (n + 1) t' ht' hla).2.1 hr
    · have hs := (hfw.outcome n t ht).2 (.inl hf)
      rw [← ho, hfw.outcome (n + 1) t' ht', hr] at hs
      rcases hs with hs | hs <;> cases hs

end

/-! ### A released lock

A run that holds a lock is cancelled and then releases the lock: it runs again, and the next step
starts. The result of the release is the empty object, the one value that is measured. -/

def releaseEvent (sequence : Nat) (eventId : String) (payload : RunEventPayload) : RunEvent :=
  { eventSchemaVersion := 17, eventId, runId := "run", sequence, occurredAt := 0, payload }

def releaseHash : String :=
  "sha256:0000000000000000000000000000000000000000000000000000000000000000"

def releaseHistory : List RunEvent :=
  [releaseEvent 1 "e1" (.runAdmitted
      ⟨releaseHash, releaseHash, ⟨"manual", "trigger.manual"⟩, [], ⟨"default", .workConservingFifo⟩, 0, 1⟩),
    releaseEvent 2 "e2" (.runExecutionStarted ⟨0, none⟩),
    releaseEvent 3 "e3" (.lockWaitRegistered ⟨"lock", "key", 1, 0, 1, "run"⟩),
    releaseEvent 4 "e4" (.lockAcquired ⟨"lock", "key", "lease_1", "1", 0, 1, "run"⟩),
    releaseEvent 5 "e5" (.runCancellationRequested ⟨"request"⟩),
    releaseEvent 6 "e6" (.lockReleased ⟨"lock", "key", "lease_1", "1", 0, .object []⟩),
    releaseEvent 7 "e7" (.stepAttemptStarted ⟨"next", 1, "i1", "runtime.script", some releaseHash⟩)]

/-- The statuses that a history goes through. -/
def statuses [Host] (events : List RunEvent) : List (Option RunStatus) :=
  (List.range (events.length + 1)).map fun n =>
    (fromEvents (events.take n)).toOption.map (·.projection.status)

theorem released_lock_takes_run_back :
    @statuses default releaseHistory =
        [some .notStarted, some .queued, some .running, some .waiting, some .running,
          some .cancelling, some .running, some .running] ∧
      cancelledIn (releaseHistory.take 5) = true ∧ ¬@Forward default releaseHistory := by
  refine ⟨by decide +kernel, by decide, fun h => ?_⟩
  have hs := @Forward.noAttempt default _ h 6 _ rfl rfl
  revert hs
  decide

/-- Up to the request the history moves forward: none of its events can take the run back. -/
theorem forward_until_request : @Forward default (releaseHistory.take 5) := by
  obtain ⟨s, hs⟩ : ∃ s, @fromEvents default (releaseHistory.take 5) = .ok s := by decide +kernel
  refine (@forward_iff default _ s hs).2 fun n t event _ he => ?_
  have hm := List.mem_of_getElem? he
  simp only [releaseHistory, List.take_succ_cons, List.take_zero, List.mem_cons,
    List.not_mem_nil, or_false] at hm
  rcases hm with rfl | rfl | rfl | rfl | rfl <;> rfl

end ProjectionFoldState

end Woml
