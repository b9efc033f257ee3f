import Woml.Engine.Proof.Append
import Woml.Engine.Proof.Correction
import Woml.Projection.Proof.Recovery

/-!
# What the store accepts of a recovery

The retry that an operator asks for and the completion of a correction are events that the store
appends to an accepted history. `retry_accepted` and `completion_accepted_iff` say when the check
takes them, in terms of the projected saga.
-/

namespace Woml

open Checked ProjectionFoldState SagaProjection HistoryCheck

/-! ## Sagas and actions of an accepted history are those of the definition -/

section
variable [Host] {fuel : Nat} {clock : Nat → DateTime} {w : DefinitionRef} {hash : String}
  {events : List RunEvent} {s t : ProjectionFoldState} {act : CorrectionActionProjection}

theorem iteration_of_apply {e : RunEvent} {s' : ProjectionFoldState}
    (ha : s.apply e = .ok s') (hsp : isTopLevelScopedEvent e.payload = false)
    (hs : s'.projection.sagas ≠ s.projection.sagas) : e.iteration = none := by
  by_contra hso
  have hsc : isIterationScoped e = true := by
    simp [isIterationScoped, hsp, Option.isSome_iff_ne_none.2 hso]
  exact hs (apply_keeps ha .sagas (by simp [touched, hsc]))

theorem iteration_of_target {e : RunEvent} {s' : ProjectionFoldState} (ha : s.apply e = .ok s')
    (ht : e.payload.correctionTarget ≠ none) : e.iteration = none := by
  by_contra hso
  obtain ⟨-, p, hp, rfl⟩ := apply_eq_ok.1 ha
  have hs : isTopLevelScopedEvent e.payload = false := by
    cases hpa : e.payload <;> first
      | rfl
      | (rw [hpa] at ht; exact absurd rfl ht)
  have hsc : isIterationScoped e = true := by
    simp [isIterationScoped, hs, Option.isSome_iff_ne_none.2 hso]
  simp only [handle, hsc, if_true] at hp
  exact ht (quiet_of_iteration hsc hp).2

variable {saga : SagaProjection} {sagaId k : String}

/-- An action with an attempt was started by an event, under its kind. -/
theorem startsAt_of_attempts {n : Nat} (hn : n ≤ events.length)
    (ht : fromEvents (events.take n) = .ok t)
    (hk : (t.projection.sagaOf sagaId).actions.get? k = some act) (hat : act.attempts ≠ 0) :
    ∃ i attempt, StartsAt events i ⟨sagaId, k, act.actionKind, attempt⟩ := by
  revert act
  refine fromEvents_take_induction (P := fun _ t => ∀ {act : CorrectionActionProjection},
    (t.projection.sagaOf sagaId).actions.get? k = some act → act.attempts ≠ 0 →
    ∃ i attempt, StartsAt events i ⟨sagaId, k, act.actionKind, attempt⟩) ?_ ?_ hn ht
  · intro act hk
    cases hk
  · intro n event t t' he _ ih hap a' hk hat
    obtain ⟨a, ha, hki, hb⟩ | ⟨data, hp, rfl, rfl, hki, -⟩ :=
      (apply_sagaStep hap sagaId).attempted hk hat
    · rw [← hki]
      exact ih ha hb
    · exact ⟨n, data.attempt, event, he, by rw [hp, ← hki]⟩

variable (h : checkEventHistoryAgainstDefinition fuel clock w hash events = .ok s)
include h

theorem checkSaga_of_check {n : Nat}
    (hn : n ≤ events.length) (ht : fromEvents (events.take n) = .ok t) {si : String}
    (hs : t.projection.sagas.get? si = some saga) :
    checkSaga w.toCompiledWorkflowDefinition si = .ok () := by
  revert saga
  refine fromEvents_take_induction (P := fun _ t => ∀ {saga : SagaProjection},
    t.projection.sagas.get? si = some saga → checkSaga _ si = .ok ()) ?_ ?_ hn ht
  · intro saga hs
    cases hs
  · intro n event t t' hev _ ih ha s' hs'
    rcases (apply_steps ha).known si s' hs' with ⟨saga, hs⟩ | hst
    · exact ih hs
    cases hg : t.projection.sagas.get? si with
    | some saga => exact ih hg
    | none =>
      have hto := iteration_of_apply ha (by rw [hst]; rfl) fun he => by
        rw [he, hg] at hs'
        cases hs'
      have hv := payload_valid_of_check h hev hto
      rw [hst] at hv
      exact hv

/-- An action that was ever started is an action of the definition. -/
theorem validateCorrectionAction_of_check
    (hk : (s.projection.sagaOf sagaId).actions.get? k = some act) (hs : act.status ≠ .registered) :
    validateCorrectionAction w.toCompiledWorkflowDefinition sagaId k act.actionKind = .ok () := by
  have hf := fromEvents_of_check h
  have hw : fromEvents (events.take events.length) = .ok s := by rwa [List.take_length]
  have htr := sagaTrace_of_check h (Nat.le_refl _) hw sagaId
  have ha : act.attempts ≠ 0 := fun hz =>
    hs (htr.actions.fresh k act hk hz)
  obtain ⟨i, attempt, event, hi, hp⟩ := startsAt_of_attempts (Nat.le_refl _) hw hk ha
  obtain ⟨t, t', -, -, hap⟩ := apply_at hf hi
  have ht := iteration_of_target hap (by rw [hp]; exact nofun)
  have hv := payload_valid_of_check h hi ht
  rw [hp] at hv
  exact hv

/-! ## Events behind an accepted history -/

/-- **An operator may retry an action that waits**, whatever happened to the other actions, when
the saga is in manual recovery. -/
theorem retry_accepted {e : RunEvent}
    {retryAt : DateTime} (hg : s.gate e = .ok ()) (ht : e.iteration = none)
    (hpa : e.payload = .correctionRetryScheduled
      { sagaId, actionId := k, actionKind := act.actionKind, attempt := act.attempts
        retryAt }) (hs : s.projection.sagas.get? sagaId = some saga)
    (hk : saga.actions.get? k = some act) (hph : saga.phase = .manualRecovery)
    (hst : act.status = .manualRecovery) :
    ∃ s', checkEventHistoryAgainstDefinition fuel clock w hash (events ++ [e]) = .ok s' := by
  have hsa := sagaOf_of_get? hs
  have ha : act.ambiguous = true :=
    waitsAmbiguous_of_fold (fromEvents_of_check h) sagaId k act (hsa ▸ hk) hst
  have hv : validateCorrectionAction w.toCompiledWorkflowDefinition sagaId k
      act.actionKind = .ok () :=
    validateCorrectionAction_of_check h (hsa ▸ hk) (by rw [hst]; exact nofun)
  have hf : ∃ p, applyPayload s.projection e s.attemptIndexes s.previousEvent = .ok p := by
    simp only [applyPayload, hpa, applyCorrectionRetryScheduled, eq_ok_iff]
    exact ⟨_, saga, hs, act, hk, (), by simp [hph, hst, ha], rfl⟩
  obtain ⟨p, hp⟩ := hf
  refine ⟨_, check_append h ((apply_top_eq_ok hg ht).2 ⟨p, hp, rfl⟩) fun c _ => ⟨c, ?_⟩⟩
  simp only [HistoryCheck.step, ht, eq_ok_iff, checkPlace, hpa]
  exact ⟨(), hv, trivial⟩

/-- What the check asks of a saga whose correction completes. -/
structure SagaProjection.MayComplete (saga : SagaProjection) (compiled : CompiledSaga) : Prop where
  correcting : saga.phase.isCorrecting = true
  idle : ∀ a ∈ saga.actions.values, saga.blocksCompletion a = false
  cleaned : ∀ c ∈ compiled.cleanup, ∃ a, saga.actions.get? c.actionId = some a ∧
    (a.status = .succeeded ∨ a.status = .failed)

/-- **The completion of a correction is accepted** exactly when nothing of the correction is
pending and every cleanup of the definition succeeded or failed. -/
theorem completion_accepted_iff {e : RunEvent} {si : String} {compiled : CompiledSaga}
    (hg : s.gate e = .ok ()) (hto : e.iteration = none)
    (hp : e.payload = .sagaCorrectionCompleted ⟨si⟩) (hco : w.saga si = some compiled)
    (hs : s.projection.sagas.get? si = some saga) :
    (∃ s', checkEventHistoryAgainstDefinition fuel clock w hash (events ++ [e]) = .ok s') ↔
      saga.MayComplete compiled := by
  obtain ⟨c, hb, -, hif⟩ := check_append_iff (e := e) h
    (P := fun _ _ => True) ⟨trivial, fun _ _ _ _ _ _ _ _ => trivial⟩
  have hf : (∃ s', s.apply e = .ok s') ↔ saga.phase.isCorrecting = true ∧
      ∀ a ∈ saga.actions.values, saga.blocksCompletion a = false := by
    simp [apply_top_eq_ok hg hto, applyPayload, hp, applySagaCorrectionCompleted, bind_eq_ok, hs]
  have hw : fromEvents (events.take events.length) = .ok s := by
    rw [List.take_length]
    exact fromEvents_of_check h
  have hv := checkSaga_of_check h (Nat.le_refl _) hw hs
  have ht : (∃ c', HistoryCheck.step w hash fuel (events ++ [e]) clock c (e, events.length) =
      .ok c') ↔ ∀ c ∈ compiled.cleanup, ∃ a, saga.actions.get? c.actionId = some a ∧
        (a.status = .succeeded ∨ a.status = .failed) := by
    obtain ⟨c', ha⟩ := hb.at_eq_ok (by simp)
      (by rw [List.take_left]; exact fromEvents_of_check h)
    simp [HistoryCheck.step, hto, bind_eq_ok, mapError_eq_ok, checkPlace, hp,
      sagaCorrectionCompleted, ha, validatePayloadAgainstDefinition, hv, hco, hs,
      Option.any_eq_true]
  simp only [hif, exists_and_right, hf, ht]
  constructor
  · rintro ⟨⟨hph, hi⟩, hc⟩
    exact ⟨hph, hi, hc⟩
  · exact fun hm => ⟨⟨hm.correcting, hm.idle⟩, hm.cleaned⟩

/-! ## Settled actions -/

end

/-- The outcome of the action is not known and nobody has settled it: it is interrupted, failed
ambiguously, or waits for an operator who has not resolved it outside. -/
def CorrectionActionProjection.IsUnresolved (resolved : String → Bool)
    (action : CorrectionActionProjection) : Prop :=
  action.status = .interrupted ∨ (action.status = .failed ∧ action.ambiguous = true) ∨
    (action.status = .manualRecovery ∧ resolved action.actionId = false)

/-- The action succeeded, definitively failed, or waits for an operator who has resolved it
outside. -/
def CorrectionActionProjection.IsSettled (resolved : String → Bool)
    (action : CorrectionActionProjection) : Prop :=
  action.status = .succeeded ∨ (action.status = .failed ∧ action.ambiguous = false) ∨
    (action.status = .manualRecovery ∧ resolved action.actionId = true)

instance (resolved : String → Bool) (action : CorrectionActionProjection) :
    Decidable (action.IsUnresolved resolved) :=
  inferInstanceAs (Decidable (_ ∨ _ ∨ _))

instance (resolved : String → Bool) (action : CorrectionActionProjection) :
    Decidable (action.IsSettled resolved) :=
  inferInstanceAs (Decidable (_ ∨ _ ∨ _))

/-- Every action that the correction has to run is settled: the registered compensations, unless
the forward work succeeded, and the compiled cleanup. -/
structure SagaProjection.AllSettled (saga : SagaProjection) (compiled : CompiledSaga)
    (resolved : String → Bool) : Prop where
  actions : ∀ k a, saga.actions.get? k = some a → a.IsSettled resolved ∨
    (saga.reason = some .success ∧ a.actionKind = .compensation ∧ a.status = .registered)
  cleanup : ∀ c ∈ compiled.cleanup, ∃ a, saga.actions.get? c.actionId = some a ∧
    a.IsSettled resolved

instance (saga : SagaProjection) (compiled : CompiledSaga) (resolved : String → Bool) :
    Decidable (saga.AllSettled compiled resolved) :=
  decidable_of_iff (_ ∧ _) ⟨fun h => ⟨h.1, h.2⟩, fun h => ⟨h.1, h.2⟩⟩

/-- The saga can be completed with an outcome open. -/
def SagaProjection.CompletesUnresolved (saga : SagaProjection) (compiled : CompiledSaga)
    (resolved : String → Bool) : Prop :=
  saga.MayComplete compiled ∧ ∃ k a, saga.actions.get? k = some a ∧ a.IsUnresolved resolved

/-- Everything is settled, a cleanup by an operator. -/
def SagaProjection.CleanupResolvedOutside (saga : SagaProjection) (compiled : CompiledSaga)
    (resolved : String → Bool) : Prop :=
  saga.AllSettled compiled resolved ∧ ∃ c ∈ compiled.cleanup, ∃ a,
    saga.actions.get? c.actionId = some a ∧ a.status = .manualRecovery

theorem SagaProjection.AllSettled.idle {saga : SagaProjection} {c : CompiledSaga}
    {r : String → Bool} (h : saga.AllSettled c r) :
    ∀ a ∈ saga.actions.values, saga.blocksCompletion a = false := by
  intro a ha
  obtain ⟨k, hk⟩ := (SortedMap.mem_values _).1 ha
  rcases h.actions k a hk with (hs | hs | hs) | hs
  · simp [blocksCompletion, hs]
  · simp [blocksCompletion, hs.1]
  · simp [blocksCompletion, hs.1]
  · simp [blocksCompletion, hs.1, hs.2.1, hs.2.2]

section
variable [Host] {fuel : Nat} {clock : Nat → DateTime} {w : DefinitionRef} {hash : String}
  {events : List RunEvent} {s : ProjectionFoldState}

end

/-! ## A saga with two cleanups

The one step of a saga fails, and its correction runs two cleanups. -/

namespace CheckoutSaga

open SerialRun (definitionHash)

def queueDigest : String := "c7761e58969f7edd498186641b2021e8477e1bcd230de4cf3435242da4a40d14"

def effectDigest : String := "f3628efe092b8c347dedb03032266052bb35ad3516faf6484a255f782e7cd9c6"

@[reducible] def host : Host :=
  SerialRun.host "checkout" queueDigest
    [("\x7b\"contract\":\"woml.step-effect\",\"definitionHash\":\"" ++ definitionHash ++
        "\",\"nodeId\":\"charge\",\"runId\":\"run\",\"version\":1\x7d", effectDigest)]

def cleanup (actionId : String) : CompiledCorrectiveAction where
  actionId
  node := { id := actionId, handler := "runtime.script" }
  identity := .static actionId
  visibleStepIds := []

def saga : CompiledSaga where
  sagaId := "order"
  openNodeId := "__woml_saga__order__open"
  commitNodeId := "__woml_saga__order__commit"
  resultNodeId := "order"
  bodyEntryNodeId := "charge"
  bodyTerminalNodeId := "charge"
  bodyResultNodeId := "charge"
  outerStepIds := []
  compensations := []
  cleanup := [cleanup "order:close", cleanup "order:notify"]

def definition : DefinitionRef where
  address := 0
  schemaVersion := 19
  workflowId := "checkout"
  triggers := [⟨"start", "trigger.manual"⟩]
  graph := {
    entryNodeIds := ["__woml_saga__order__open"]
    nodes := [
      { id := "__woml_saga__order__open", handler := "engine.saga-open" },
      { id := "charge", handler := "runtime.script" },
      { id := "__woml_saga__order__commit", handler := "engine.saga-commit" },
      { id := "order", handler := "engine.saga-result" },
      { id := "__woml_workflow__settlement", handler := "engine.workflow-settlement" }]
    edges := [
      { id := "order:open", source := "__woml_saga__order__open", target := "charge" },
      { id := "order:commit", source := "charge", target := "__woml_saga__order__commit" },
      { id := "order:result", source := "__woml_saga__order__commit", target := "order" },
      { id := "__woml_workflow__:main:settlement", source := "order"
        target := "__woml_workflow__settlement" }]
    forks := some []
    choices := some []
    contextVisibility := some []
    settlement := some ⟨"__woml_workflow__settlement", "order", []⟩
    forEach := some []
    waits := some []
    locks := some []
    sagas := some [saga] }
  runtimePolicy := some SerialRun.policy

def event (sequence : Nat) (payload : RunEventPayload) : RunEvent :=
  { eventSchemaVersion := 18, eventId := s!"e{sequence}", runId := "run", sequence
    occurredAt := 0, payload }

def chargeFailure : AttemptFailure :=
  { kind := .scriptThrew, code := "WOML_SCRIPT_THROWN", message := "The script threw." }

/-- The charge fails and the correction starts; then the events of the cleanups. -/
def payloads (cleanups : List RunEventPayload) : List RunEventPayload :=
  [SerialRun.admission queueDigest, .runExecutionStarted ⟨0, none⟩,
    .sagaStarted ⟨"order"⟩,
    .stepAttemptStarted ⟨"charge", 1, "i1", "runtime.script", some ("sha256:" ++ effectDigest)⟩,
    .stepAttemptFailed { nodeId := "charge", attempt := 1, invocationId := "i1"
                         failure := chargeFailure },
    .sagaCorrectionStarted ⟨"order", .failure⟩] ++ cleanups

def history (cleanups : List RunEventPayload) : List RunEvent :=
  (payloads cleanups).mapIdx fun index payload => event (index + 1) payload

def close : CorrectionAttemptIdentityData := ⟨"order", "order:close", .cleanup, 1⟩

def notify : CorrectionAttemptIdentityData := ⟨"order", "order:notify", .cleanup, 1⟩

/-- An attempt that is cut off and handed to an operator. -/
def cutOff (attempt : CorrectionAttemptIdentityData) : List RunEventPayload :=
  [.correctionAttemptStarted attempt,
    .correctionInterrupted { attempt with ambiguous := true },
    .manualRecoveryRequired
      ⟨attempt.sagaId, attempt.actionId, attempt.actionKind, "WOML_CORRECTION_INTERRUPTED"⟩]

def succeeds (attempt : CorrectionAttemptIdentityData) : List RunEventPayload :=
  [.correctionAttemptStarted attempt, .correctionAttemptSucceeded attempt]

def failsAmbiguously (attempt : CorrectionAttemptIdentityData) : List RunEventPayload :=
  [.correctionAttemptStarted attempt, .correctionAttemptFailed
      { attempt with code := "WOML_SCRIPT_TIMED_OUT", retryable := false, ambiguous := true }]

def check (cleanups : List RunEventPayload) : Except EngineError ProjectionFoldState :=
  @checkEventHistoryAgainstDefinition host 4 (fun _ => 0) definition definitionHash
    (history cleanups)

def completion : RunEventPayload := .sagaCorrectionCompleted ⟨"order"⟩

/-- The next event of the run, if it completes the correction. -/
def next (s : ProjectionFoldState) : RunEvent := event (s.projection.lastSequence + 1) completion

end CheckoutSaga

end Woml
