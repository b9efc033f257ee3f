import Woml.Projection.Proof.Saga

/-!
# Manual recovery

The phase of a saga is one field, and several of its actions can wait for an operator at once.
From what an event does to the phase and to the actions that wait (`RecoveryStep`) follows when the
phase speaks for every waiting action (`HoldsRecovery`, `holdsRecovery_iff`): as long as an operator
retries an action only while no other one waits.
-/

namespace Woml

open Checked SortedMap

theorem SagaPhase.isForward_of_isCorrecting {p : SagaPhase} (h : p.isCorrecting = true) :
    p.isForward = false := by
  cases p <;> first | rfl | cases h

/-! ## The phase and the waiting actions -/

/-- The phase tells that an action waits for an operator, until the correction completes. -/
def SagaProjection.HoldsRecovery (saga : SagaProjection) : Prop :=
  saga.phase ≠ .correctionCompleted → ∀ k a, saga.actions.get? k = some a →
    a.status = .manualRecovery → saga.phase = .manualRecovery

/-- Only an action with an unknown outcome waits for an operator. -/
def SagaProjection.WaitsAmbiguous (saga : SagaProjection) : Prop :=
  ∀ k a, saga.actions.get? k = some a → a.status = .manualRecovery → a.ambiguous = true

/-- No other action of the saga waits for an operator. -/
def SagaProjection.WaitsAlone (saga : SagaProjection) (actionId : String) : Prop :=
  ∀ k a, saga.actions.get? k = some a → a.status = .manualRecovery → k = actionId

section
variable {payload : RunEventPayload} {sagaId : String} {saga saga' : SagaProjection}

section
variable (hstep : RecoveryStep payload sagaId saga saga')
include hstep

theorem RecoveryStep.waitsAmbiguous (h : saga.WaitsAmbiguous) : saga'.WaitsAmbiguous := by
  intro k a hk hs
  cases hstep with
  | kept _ saga'_eq =>
    subst saga'_eq
    exact h k a hk hs
  | forward _ _ _ actions =>
    rcases actions k a hk with hk | hr
    · exact h k a hk hs
    · rw [hr] at hs
      cases hs
  | moved key action _ saga'_eq status =>
    subst saga'_eq
    rcases of_get?_insert hk with ⟨-, rfl⟩ | ⟨-, hk⟩
    · exact absurd hs status
    · exact h k a hk hs
  | retried data _ a' _ _ _ _ saga'_eq status =>
    subst saga'_eq
    rcases of_get?_insert hk with ⟨-, rfl⟩ | ⟨-, hk⟩
    · exact absurd hs status
    · exact h k a hk hs
  | required data action _ _ saga'_eq ambiguous =>
    subst saga'_eq
    rcases of_get?_insert hk with ⟨-, rfl⟩ | ⟨-, hk⟩
    · exact ambiguous
    · exact h k a hk hs
  | completed _ _ actions =>
    rw [actions] at hk
    exact h k a hk hs

/-- Every step but the retry of one action among several keeps the phase true. -/
theorem RecoveryStep.holdsRecovery
    (ha : ∀ data action, payload = .correctionRetryScheduled data → data.sagaId = sagaId →
      saga.actions.get? data.actionId = some action → action.status = .manualRecovery →
      saga.WaitsAlone data.actionId)
    (h : saga.HoldsRecovery) : saga'.HoldsRecovery := by
  intro ho k a hk hs
  cases hstep with
  | kept _ saga'_eq =>
    subst saga'_eq
    exact h ho k a hk hs
  | forward _ before _ actions =>
    rcases actions k a hk with hk | hr
    · have hp := h (fun he => by rw [he] at before; cases before) k a hk hs
      rw [hp] at before
      cases before
    · rw [hr] at hs
      cases hs
  | moved key action _ saga'_eq status =>
    subst saga'_eq
    rcases of_get?_insert hk with ⟨-, rfl⟩ | ⟨-, hk⟩
    · exact absurd hs status
    · exact h ho k a hk hs
  | retried data action a' payload_eq t found waiting saga'_eq status =>
    subst saga'_eq
    rcases of_get?_insert hk with ⟨-, rfl⟩ | ⟨hn, hk⟩
    · exact absurd hs status
    · exact absurd (ha data action payload_eq t found waiting k a hk hs) hn
  | required data action _ _ saga'_eq =>
    subst saga'_eq
    rfl
  | completed _ _ _ phase => exact absurd phase ho

/-- After the retry of one action among several the phase is wrong about the others. -/
theorem RecoveryStep.waitsAlone_of_holdsRecovery (h : saga'.HoldsRecovery)
    {data : CorrectionRetryScheduledData} {act : CorrectionActionProjection}
    (hp : payload = .correctionRetryScheduled data) (ht : data.sagaId = sagaId)
    (hf : saga.actions.get? data.actionId = some act)
    (hw : act.status = .manualRecovery) : saga.WaitsAlone data.actionId := by
  intro k a hk hs
  by_contra hne
  subst hp ht
  cases hstep with
  | kept quiet => exact quiet data.actionId rfl
  | forward quiet => cases quiet
  | moved key _ t _ _ ask =>
    obtain ⟨b, hb, hn⟩ := ask data rfl
    cases t
    cases hf.symm.trans hb
    exact hn hw
  | retried d' _ a' payload_eq _ _ _ saga'_eq =>
    cases payload_eq
    subst saga'_eq
    cases h nofun k a ((get?_insert_ne _ hne _).trans hk) hs
  | required d' _ payload_eq => cases payload_eq
  | completed d' payload_eq => cases payload_eq

end

end

/-! ## Runs -/

section
variable [Host] {events : List RunEvent} {s : ProjectionFoldState}

open ProjectionFoldState

/-- An operator retries an action only while no other action of its saga waits. -/
def RetriesAlone (events : List RunEvent) : Prop :=
  ∀ n event data t action, events[n]? = some event →
    event.payload = .correctionRetryScheduled data → fromEvents (events.take n) = .ok t →
    (t.projection.sagaOf data.sagaId).actions.get? data.actionId = some action →
    action.status = .manualRecovery →
    (t.projection.sagaOf data.sagaId).WaitsAlone data.actionId

theorem waitsAmbiguous_of_fold (h : fromEvents events = .ok s) (si : String) :
    (s.projection.sagaOf si).WaitsAmbiguous := by
  refine fromEvents_induction (P := fun _ s => (s.projection.sagaOf si).WaitsAmbiguous) ?_ ?_ h
  · intro k a hk
    cases hk
  · intro _ t event t' _ ih ha
    exact (apply_recoveryStep ha si).waitsAmbiguous ih

/-- **The phase speaks for every waiting action exactly when operators retry alone.** -/
theorem holdsRecovery_iff (h : fromEvents events = .ok s) :
    (∀ n t sagaId, n ≤ events.length → fromEvents (events.take n) = .ok t →
      (t.projection.sagaOf sagaId).HoldsRecovery) ↔ RetriesAlone events := by
  constructor
  · intro hh n event data t action hn hp ht hf hw
    obtain ⟨t', t'', ht', ht'', hap⟩ := apply_at h hn
    cases ht.symm.trans ht'
    have hl : n + 1 ≤ events.length := (List.getElem?_eq_some_iff.1 hn).1
    exact (apply_recoveryStep hap data.sagaId).waitsAlone_of_holdsRecovery
      (hh (n + 1) t'' data.sagaId hl ht'') hp rfl hf hw
  · intro ha n t sagaId hn ht
    refine fromEvents_take_induction
      (P := fun _ t => (t.projection.sagaOf sagaId).HoldsRecovery) ?_ ?_ hn ht
    · intro _ k a hk
      cases hk
    · intro n event t t' he ht ih hap
      refine (apply_recoveryStep hap sagaId).holdsRecovery ?_ ih
      rintro data action hp rfl hf hw
      exact ha n event data t action he hp ht hf hw

end

end Woml
